import ReflowTable.Lib.WalkLength
import ReflowTable.Profile

/-!
# When a run ends

The controller has no time limit. A run ends some time if and only if every stage it enters is
some time found to be skipped or in its band (`Server.run_ends_iff`); how long it takes is then
bounded (`Server.run_ends_within`). A stage that is never found there is heated for good
(`Server.heats_forever`).
-/

namespace ReflowTable.Server

open ReflowProcessController

variable {tc : Toolchain} {s : Server}

/-- The walk of a run from this server on. -/
def walkOf (s : Server) (ptr : PresetPtr) (inputs : ℕ → TickInput) : StagedWalk :=
  profileWalk (s.presetsHolder.objects ptr).presetItems.items
    (latestData s.reflowController.lastModbusData inputs)

/-- A selected preset with stages is about to be started by an idle controller. -/
structure Starting (tc : Toolchain) (s : Server) (ptr : PresetPtr) : Prop where
  reachable : (operations tc).Reachable s
  idle : s.reflowController.isRunning = false
  queue : s.reflowController.requestsQueue = [.startReflow]
  active : s.reflowController.activePreset = some ptr
  stages : 0 < (s.presetsHolder.objects ptr).numStages

variable {ptr : PresetPtr} {inputs : ℕ → TickInput} {i b : ℕ}

/-- After its first tick the controller is where the walk is. -/
theorem Starting.simulates (hs : Starting tc s ptr) (inputs : ℕ → TickInput) (t : ℕ) :
    Simulates (s.walkOf ptr inputs) s.presetsHolder ptr
        (latestData s.reflowController.lastModbusData inputs (t + 1)) (t + 1)
        (afterTicks tc inputs s (t + 1)).reflowController ∧
      targetWords (afterTicks tc inputs s (t + 1)).reflowController.trace =
        targetWords s.reflowController.trace ++
          ((List.range (t + 1)).filterMap (s.walkOf ptr inputs).event).map
            (profileWord (s.presetsHolder.objects ptr).presetItems.items) := by
  -- the server as the dispatch loop of the first tick leaves it
  let s₀ : Server := ⟨s.presetsHolder, { s.reflowController.started with requestsQueue := [] }⟩
  have hsim : Simulates (s.walkOf ptr inputs) s₀.presetsHolder ptr
      s.reflowController.lastModbusData 0 s₀.reflowController :=
    .running rfl rfl hs.active rfl
      (.init hs.stages .first rfl ((RunInvariant.of_reachable hs.reachable).idle_index hs.idle))
  have hafter : afterTicks tc inputs s (t + 1) = afterTicks tc inputs s₀ (t + 1) := by
    induction t with
    | zero =>
      rw [afterTicks_succ, afterTicks_succ]
      show s.tick tc (inputs 0) = s₀.tick tc (inputs 0)
      rw [tick, tick, runnable_of_startReflow (inputs 0) hs.queue hs.active]
      rfl
    | succ t ih => rw [afterTicks_succ, ih, ← afterTicks_succ]
  have hW : s.walkOf ptr inputs = profileWalk (s₀.presetsHolder.objects ptr).presetItems.items
      (latestData s.reflowController.lastModbusData inputs) := rfl
  rw [hafter]
  exact simulates_afterTicks tc hW (surroundingTemperature_nonneg hs.reachable) hsim (t + 1)

theorem Starting.isRunning_iff (hs : Starting tc s ptr) (t : ℕ) :
    (afterTicks tc inputs s (t + 1)).reflowController.isRunning = true ↔
      (s.walkOf ptr inputs).RunningAfter t :=
  (hs.simulates inputs t).1.isReflowRunning_iff

/-- The last target word is that of the last event of the walk. -/
theorem Starting.getLast?_targetWords (hs : Starting tc s ptr) {t : ℕ} {event : StagedWalk.Event}
    (hevent : ((List.range (t + 1)).filterMap (s.walkOf ptr inputs).event).getLast? =
      some event) :
    (targetWords (afterTicks tc inputs s (t + 1)).reflowController.trace).getLast? =
      some (profileWord (s.presetsHolder.objects ptr).presetItems.items event) := by
  rw [(hs.simulates inputs t).2, List.getLast?_append, List.getLast?_map, hevent]
  rfl

/-- The words of the stages. -/
theorem map_profileWord_begin (items : List StageItem) :
    (List.range items.length).map (fun i => profileWord items (.begin i)) =
      items.map fun item => .ofNat item.temperatureStep.toNat := by
  refine List.ext_getElem (by simp) fun i hi _ => ?_
  have hlt : i < items.length := by simpa using hi
  simp [profileWord, List.getElem?_eq_getElem hlt]

/-- The run is over, the heater off, and every stage was written on the way. -/
theorem Starting.finished (hs : Starting tc s ptr) {e t : ℕ}
    (he : (s.walkOf ptr inputs).BeginsAt (s.walkOf ptr inputs).stages e) (het : e ≤ t + 1) :
    (afterTicks tc inputs s (t + 1)).reflowController.isRunning = false ∧
      targetWords (afterTicks tc inputs s (t + 1)).reflowController.trace =
        targetWords s.reflowController.trace ++
          ((s.presetsHolder.objects ptr).presetItems.items.map fun item =>
            .ofNat item.temperatureStep.toNat) ++ [0] := by
  refine ⟨Bool.eq_false_iff.mpr fun hrun => ?_, ?_⟩
  · exact StagedWalk.not_runningAfter_of_over he het ((hs.isRunning_iff t).mp hrun)
  · have hevents := StagedWalk.events_of_over hs.stages he het
    rw [(hs.simulates inputs t).2, hevents, List.map_append, List.map_map, List.append_assoc,
      ← map_profileWord_begin]
    rfl

/-- **When a run ends.** Whatever the readings: a started run is over some time if and only if
every stage that is begun meets, some tick later, readings with which it is skipped or in its
band. Nothing else ends it. -/
theorem run_ends_iff (hs : Starting tc s ptr) (inputs : ℕ → TickInput) :
    (∃ t, (afterTicks tc inputs s (t + 1)).reflowController.isRunning = false) ↔
      ∀ i < (s.walkOf ptr inputs).stages, ∀ b, (s.walkOf ptr inputs).BeginsAt i b →
        ∃ t, b < t ∧ (s.walkOf ptr inputs).verdict i t ≠ .wait := by
  rw [← StagedWalk.over_iff]
  constructor
  · rintro ⟨t, hidle⟩
    have hnot : ¬ (s.walkOf ptr inputs).RunningAfter t := by
      rw [← hs.isRunning_iff t, hidle]
      exact Bool.false_ne_true
    obtain ⟨e, he, -⟩ : ∃ e, (s.walkOf ptr inputs).BeginsAt (s.walkOf ptr inputs).stages e ∧
        ¬ t + 1 < e := by
      simpa [StagedWalk.RunningAfter] using hnot
    exact ⟨e, he⟩
  · rintro ⟨e, he⟩
    exact ⟨e, (hs.finished he (Nat.le_succ e)).1⟩

/-- The server with one stage selected is about to be started. -/
theorem starting_selectedRun : Starting .sample ((operations .sample).run make selectedRun) 0 where
  reachable := reachable_run .sample selectedRun
  idle := by decide
  queue := by decide
  active := by decide
  stages := by decide

/-- Registers of a table at the temperature of the stage. -/
def hotInput : TickInput := ⟨some #v[20, 183, 3, 1, 0], ⟨0, 0⟩⟩

theorem verdict_hotInput (t : ℕ) :
    (walkOf ((operations .sample).run make selectedRun) 0 fun _ => hotInput).verdict 0 t =
      .soak := by
  have hdata : ∀ data, latestData data (fun _ => hotInput) (t + 1) =
      decodeReading #v[20, 183, 3, 1, 0] := fun _ => rfl
  show profileVerdict ⟨183, 30⟩ (latestData _ (fun _ => hotInput) (t + 1)) = .soak
  rw [hdata]
  decide

theorem run_ends_iff_hotInput :
    ∃ t, (afterTicks .sample (fun _ => hotInput) ((operations .sample).run make selectedRun)
      (t + 1)).reflowController.isRunning = false := by
  refine (run_ends_iff starting_selectedRun fun _ => hotInput).mpr fun i hi b _ => ?_
  obtain rfl : i = 0 := Nat.lt_one_iff.mp hi
  refine ⟨b + 1, Nat.lt_succ_self b, ?_⟩
  rw [verdict_hotInput]
  decide

/-- **How long a run takes.** If stage `i` finds such readings within `patience i` ticks of its
begin, the run is over, and the heater off, after the sum of the patience, the duration and two
ticks for every stage. -/
theorem run_ends_within (hs : Starting tc s ptr) (patience : ℕ → ℕ)
    (hverdicts : ∀ i < (s.walkOf ptr inputs).stages, ∀ b, (s.walkOf ptr inputs).BeginsAt i b →
      ∃ t, b < t ∧ t ≤ b + patience i ∧ (s.walkOf ptr inputs).verdict i t ≠ .wait) {t : ℕ}
    (ht : ∑ i ∈ Finset.range (s.walkOf ptr inputs).stages,
      (patience i + (s.walkOf ptr inputs).dwell i + 2) ≤ t + 1) :
    (afterTicks tc inputs s (t + 1)).reflowController.isRunning = false ∧
      (targetWords (afterTicks tc inputs s (t + 1)).reflowController.trace).getLast? = some 0 := by
  obtain ⟨e, he, hle⟩ := StagedWalk.over_within hverdicts
  obtain ⟨hidle, hwords⟩ := hs.finished he (hle.trans ht)
  exact ⟨hidle, by rw [hwords, List.getLast?_concat]⟩

/-- A patience of one tick, 30 s, and two ticks. -/
theorem run_ends_within_hotInput :
    (afterTicks .sample (fun _ => hotInput) ((operations .sample).run make selectedRun)
        33).reflowController.isRunning = false ∧
      (targetWords (afterTicks .sample (fun _ => hotInput) ((operations .sample).run make
        selectedRun) 33).reflowController.trace).getLast? = some 0 := by
  refine run_ends_within starting_selectedRun (fun _ => 1) (fun i hi b _ => ?_) (t := 32) ?_
  · obtain rfl : i = 0 := Nat.lt_one_iff.mp hi
    refine ⟨b + 1, Nat.lt_succ_self b, Nat.le_refl _, ?_⟩
    rw [verdict_hotInput]
    decide
  · decide

/-- **A stage out of reach is heated for good.** If a begun stage is found at no later tick to be
skipped or in its band, the controller runs from then on, however long, and the last word in the
target register stays that of this stage. -/
theorem heats_forever (hs : Starting tc s ptr) {item : StageItem}
    (hitem : (s.presetsHolder.objects ptr).presetItems.items[i]? = some item)
    (hb : (s.walkOf ptr inputs).BeginsAt i b)
    (hwait : ∀ t, b < t → (s.walkOf ptr inputs).verdict i t = .wait) {t : ℕ} (hbt : b ≤ t) :
    (afterTicks tc inputs s (t + 1)).reflowController.isRunning = true ∧
      (targetWords (afterTicks tc inputs s (t + 1)).reflowController.trace).getLast? =
        some (.ofNat item.temperatureStep.toNat) := by
  have hi : i < (s.walkOf ptr inputs).stages := by
    obtain ⟨hi, -⟩ := List.getElem?_eq_some_iff.mp hitem
    exact hi
  refine ⟨(hs.isRunning_iff t).mpr (StagedWalk.runningAfter_of_waits hb hi hwait t), ?_⟩
  rw [hs.getLast?_targetWords (StagedWalk.getLast?_events_of_waits hb hi hwait hbt), profileWord,
    hitem]

/-- No reading ever comes, so the table seems to stay at 0 degrees. -/
theorem heats_forever_silent :
    (afterTicks .sample (fun _ => ⟨none, ⟨0, 0⟩⟩) ((operations .sample).run make selectedRun)
        (3599 + 1)).reflowController.isRunning = true ∧
      (targetWords (afterTicks .sample (fun _ => ⟨none, ⟨0, 0⟩⟩) ((operations .sample).run make
        selectedRun) (3599 + 1)).reflowController.trace).getLast? = some 183 := by
  have hdata : ∀ q, latestData ⟨0, 0, ⟨0, 0⟩⟩ (fun _ => ⟨none, ⟨0, 0⟩⟩) q = ⟨0, 0, ⟨0, 0⟩⟩ := by
    intro q
    induction q with
    | zero => rfl
    | succ q ih => exact ih
  have hitem : (((operations .sample).run make selectedRun).presetsHolder.objects
      0).presetItems.items[0]? = some ⟨183, 30⟩ := rfl
  refine heats_forever starting_selectedRun hitem .first (fun q _ => ?_) (t := 3599)
    (Nat.zero_le _)
  show profileVerdict ⟨183, 30⟩ (latestData ⟨0, 0, ⟨0, 0⟩⟩ (fun _ => ⟨none, ⟨0, 0⟩⟩) (q + 1)) = _
  rw [hdata]
  decide

end ReflowTable.Server

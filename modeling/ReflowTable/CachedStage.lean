import ReflowTable.Handlers
import ReflowTable.RunInvariant

/-!
# The stage that is judged and the target that was requested

`handleInitStep` requests the temperature of a stage and keeps a pointer to the stage;
`handlePreheatState` and `handleInProgressState` read the stage through the pointer, ticks
later. An update of the preset in between may assign another stage to the element, or move the
elements so that the pointer dangles. Any other update leaves the two in agreement.
-/

namespace ReflowTable

open ReflowProcessController

/-- The states of a run that read the cached stage. -/
def Judging (c : ReflowProcessController) : Prop :=
  c.isReflowRunning = true ∧
    (c.reflowProcessData.reflowStep = .kPreheat ∨ c.reflowProcessData.reflowStep = .kInProgress)

instance (c : ReflowProcessController) : Decidable (Judging c) :=
  inferInstanceAs (Decidable (_ ∧ _))

/-- While the controller judges a stage, its pointer reads a stage, the last target word is that
stage's, and it is the stage that was entered last. -/
def StageJudged (h : PresetsHolder) (c : ReflowProcessController) : Prop :=
  Judging c → ∃ sp item, c.reflowProcessData.activePresetState = some sp ∧
    h.readStage sp = some item ∧
    (targetWords c.trace).getLast? = some item.temperatureStep.toUInt16 ∧
    (stagesEntered c.trace).getLast?.map (fun entry => entry.2.2) = some item

/-- The reason: the pointer is the address of the current stage of the active preset. -/
def StageCached (h : PresetsHolder) (c : ReflowProcessController) : Prop :=
  Judging c → ∃ ptr item, c.activePreset = some ptr ∧
    c.reflowProcessData.activePresetState =
      some ⟨ptr, (h.objects ptr).presetItems.ptrTo c.reflowProcessData.activeStageIndex⟩ ∧
    (h.objects ptr).presetItems.items[c.reflowProcessData.activeStageIndex]? = some item ∧
    (targetWords c.trace).getLast? = some item.temperatureStep.toUInt16 ∧
    (stagesEntered c.trace).getLast? = some (ptr, c.reflowProcessData.activeStageIndex, item)

namespace StageCached

variable {tc : Toolchain} {h h' : PresetsHolder} {freed : StageItem}
  {c c' : ReflowProcessController}

theorem judged (hc : StageCached h c) : StageJudged h c := by
  intro hjudging
  obtain ⟨ptr, item, -, hsp, hitem, hword, hentered⟩ := hc hjudging
  refine ⟨_, item, hsp, ?_, hword, ?_⟩
  · rw [PresetsHolder.readStage, Vec.read_ptrTo]
    exact hitem
  · rw [hentered]
    rfl

theorem of_not_judging (hnot : ¬ Judging c) : StageCached h c := fun hjudging =>
  absurd hjudging hnot

/-- The queue, the clock, the register data and the completion timepoint do not matter. -/
theorem congr (hc : StageCached h c) (hrun : c'.isReflowRunning = c.isReflowRunning)
    (hstep : c'.reflowProcessData.reflowStep = c.reflowProcessData.reflowStep ∨ Judging c)
    (hactive : c'.activePreset = c.activePreset)
    (hidx : c'.reflowProcessData.activeStageIndex = c.reflowProcessData.activeStageIndex)
    (hsp : c'.reflowProcessData.activePresetState = c.reflowProcessData.activePresetState)
    (hwords : targetWords c'.trace = targetWords c.trace)
    (hentered : stagesEntered c'.trace = stagesEntered c.trace) : StageCached h c' := by
  intro hjudging
  have hjudging_c : Judging c := by
    rcases hstep with hstep | hjudging_c
    · rwa [Judging, hrun, hstep] at hjudging
    · exact hjudging_c
  rw [hactive, hidx, hsp, hwords, hentered]
  exact hc hjudging_c

/-- Other presets may change, and of this one everything but its stages. -/
theorem holder (hc : StageCached h c)
    (hitems : ∀ ptr, c.activePreset = some ptr →
      (h'.objects ptr).presetItems = (h.objects ptr).presetItems) : StageCached h' c := by
  intro hjudging
  obtain ⟨ptr, item, hactive, hrest⟩ := hc hjudging
  refine ⟨ptr, item, hactive, ?_⟩
  rwa [hitems ptr hactive]

/-- **Step lemma.** -/
theorem step (hstep : Transition tc h freed c c') (hc : StageCached h c) : StageCached h c' := by
  have hstopped : ∀ {d : ReflowProcessController}, d.isReflowRunning = false → ¬ Judging d :=
    fun hidle hjudging => by simp [Judging, hidle] at hjudging
  have hinit : ∀ {d : ReflowProcessController}, d.reflowProcessData.reflowStep = .kInitStep →
      ¬ Judging d := fun hinit hjudging => by simp [Judging, hinit] at hjudging
  cases hstep with
  | command hcommand =>
    cases hcommand with
    | pop => exact hc.congr rfl (.inl rfl) rfl rfl rfl rfl rfl
    | start => exact of_not_judging (hinit rfl)
    | stop => exact of_not_judging (hstopped rfl)
    | select hidle => exact of_not_judging (hstopped hidle)
    | selectUnknown hidle => exact of_not_judging (hstopped hidle)
    | setParams params =>
      exact hc.congr rfl (.inl rfl) rfl rfl rfl (by simp [setRegulatorParams])
        (by simp [setRegulatorParams])
  | read => exact hc.congr rfl (.inl rfl) rfl rfl rfl rfl rfl
  | process hprocess =>
    cases hprocess with
    | @enter ptr item hrun hactive hstep hitem =>
      intro _
      refine ⟨ptr, item, hactive, rfl, hitem, ?_, ?_⟩
      · rw [targetWords_entered, List.getLast?_concat]
      · rw [stagesEntered_entered, List.getLast?_concat]
        rfl
    | moveOn => exact of_not_judging (hinit rfl)
    | finish => exact of_not_judging (hstopped rfl)
    | soak hrun hstep => exact hc.congr rfl (.inr ⟨hrun, .inl hstep⟩) rfl rfl rfl rfl rfl
    | soakDone => exact of_not_judging fun hjudging => by simp [Judging, soaked] at hjudging
    | advance => exact hc.congr rfl (.inl rfl) rfl rfl rfl rfl rfl

end StageCached

namespace Server

variable {lib : Libraries} {s : Server}

/-- An update of the preset of a run that judges a stage fits the vector and repeats that stage,
or does not reach it. -/
def UpdateKeepsStage (lib : Libraries) (s : Server) (e : Event) : Prop :=
  ∀ presetId body ptr stages, e = .request (.updatePreset presetId body) →
    s.presetsHolder.presetsStorage.lookup (pathId presetId) = some ptr →
    RequestUtils.parsePresetUpdateRequest lib body = .ok (.stages stages) →
    Judging s.reflowController → s.reflowController.activePreset = some ptr →
    stages.length ≤ (s.presetsHolder.objects ptr).presetItems.capacity ∧
      ∀ item, stages[s.reflowController.reflowProcessData.activeStageIndex]? = some item →
        (s.presetsHolder.objects ptr).presetItems.items[
          s.reflowController.reflowProcessData.activeStageIndex]? = some item

/-- A request changes nothing of the controller that these properties see. -/
theorem stageCached_handle (req : HttpRequest) {h : PresetsHolder}
    (hc : StageCached h s.reflowController) :
    StageCached h (s.handle lib req).2.reflowController := by
  rcases handle_controller lib req s with heq | ⟨command, heq, -⟩
  · rw [heq]
    exact hc
  · rw [heq]
    exact hc.congr rfl (.inl rfl) rfl rfl rfl rfl rfl

/-- An update as described keeps the cache. -/
theorem stageCached_modify {h : PresetsHolder} {c : ReflowProcessController} {ptr : PresetPtr}
    {stages : List StageItem} (hc : StageCached h c)
    (hkeeps : Judging c → c.activePreset = some ptr →
      stages.length ≤ (h.objects ptr).presetItems.capacity ∧
        ∀ item, stages[c.reflowProcessData.activeStageIndex]? = some item →
          (h.objects ptr).presetItems.items[c.reflowProcessData.activeStageIndex]? = some item)
    (tc : Toolchain) : StageCached (h.modify ptr (·.replaceStages tc stages)) c := by
  intro hjudging
  obtain ⟨ptr', item, hactive, hsp, hitem, hrest⟩ := hc hjudging
  refine ⟨ptr', item, hactive, ?_⟩
  by_cases hne : ptr' = ptr
  · subst hne
    obtain ⟨hfits, hsame⟩ := hkeeps hjudging hactive
    have hbuffer := (Preset.buffer_replaceStages_iff tc stages (h.objects ptr')).mpr hfits
    rw [PresetsHolder.objects_modify_self, Vec.ptrTo, hbuffer]
    refine ⟨hsp, ?_, hrest⟩
    rw [Preset.items_replaceStages]
    -- the current stage comes from the new list, or it is behind its end
    by_cases hreach : c.reflowProcessData.activeStageIndex < stages.length
    · rw [List.getElem?_append_left hreach, List.getElem?_eq_getElem hreach]
      have hnew := hsame _ (List.getElem?_eq_getElem hreach)
      rw [hitem] at hnew
      exact hnew.symm
    · rw [List.getElem?_append_right (Nat.not_lt.mp hreach), List.getElem?_drop]
      rwa [Nat.add_sub_cancel' (Nat.not_lt.mp hreach)]
  · rw [PresetsHolder.objects_modify_of_ne _ _ hne]
    exact ⟨hsp, hitem, hrest⟩

/-- Any other update of the stages breaks the agreement. -/
theorem keeps_of_stageJudged_modify {h : PresetsHolder} {c : ReflowProcessController}
    {ptr : PresetPtr} {stages : List StageItem} {tc : Toolchain} (hc : StageCached h c)
    (hjudged : StageJudged (h.modify ptr (·.replaceStages tc stages)) c) (hjudging : Judging c)
    (hactive : c.activePreset = some ptr) :
    stages.length ≤ (h.objects ptr).presetItems.capacity ∧
      ∀ item, stages[c.reflowProcessData.activeStageIndex]? = some item →
        (h.objects ptr).presetItems.items[c.reflowProcessData.activeStageIndex]? = some item := by
  obtain ⟨ptr', old, hactive', hsp, hitem, -, hentered⟩ := hc hjudging
  obtain rfl : ptr = ptr' := Option.some.inj (hactive.symm.trans hactive')
  obtain ⟨sp, new, hsp', hread, -, hlast⟩ := hjudged hjudging
  obtain rfl := Option.some.inj (hsp.symm.trans hsp')
  -- the stage that is read is the one that was entered
  obtain rfl : old = new := by
    rw [hentered] at hlast
    exact Option.some.inj hlast
  rw [PresetsHolder.readStage, PresetsHolder.objects_modify_self] at hread
  -- it is read through the old pointer, so the vector has not moved
  have hbuffer : ((h.objects ptr).replaceStages tc stages).presetItems.buffer =
      (h.objects ptr).presetItems.buffer := by
    by_contra hne
    rw [Vec.read_of_buffer_ne (Ne.symm hne)] at hread
    cases hread
  refine ⟨(Preset.buffer_replaceStages_iff tc stages _).mp hbuffer, fun item hnew => ?_⟩
  rw [Vec.ptrTo, ← hbuffer, ← Vec.ptrTo, Vec.read_ptrTo, Preset.items_replaceStages,
    List.getElem?_append_left (List.getElem?_eq_some_iff.mp hnew).1, hnew] at hread
  rw [hitem, hread]

/-- **Step lemma.** -/
theorem stageCached_step (hs : (service lib).Reachable s)
    (hc : StageCached s.presetsHolder s.reflowController) {e : Event}
    (hkeeps : UpdateKeepsStage lib s e) :
    StageCached ((service lib).step s e).presetsHolder
      ((service lib).step s e).reflowController := by
  cases e with
  | tick input =>
    exact runnable_keeps lib.toToolchain s.presetsHolder input
      (fun _ _ hstep hc => hc.step hstep) s.reflowController hc
  | request req =>
    refine stageCached_handle req ?_
    rcases handle_holder lib req s with hsame | ⟨id, preset, hfree, hnew⟩ |
      ⟨presetId, body, ptr, parsedState, hreq, hlookup, hparse, hmod⟩
    · show StageCached (s.handle lib req).2.presetsHolder s.reflowController
      rw [hsame]
      exact hc
    · -- the new preset is not the active one
      refine hc.holder fun ptr hptr => ?_
      have hlive := (RunInvariant.of_reachable (reachable_operations hs)).live ptr hptr
      show ((s.handle lib req).2.presetsHolder.objects ptr).presetItems = _
      rw [hnew, PresetsHolder.objects_insertNew_of_lt hlive]
    · show StageCached (s.handle lib req).2.presetsHolder s.reflowController
      rw [hmod]
      cases parsedState with
      | stages stages =>
        exact stageCached_modify hc
          (fun hjudging hactive => hkeeps presetId body ptr stages (congrArg Event.request hreq)
            hlookup hparse hjudging hactive) lib.toToolchain
      | _ =>
        refine hc.holder fun other _ => ?_
        by_cases hne : other = ptr
        · rw [hne, PresetsHolder.objects_modify_self]
          rfl
        · rw [PresetsHolder.objects_modify_of_ne _ _ hne]

/-- The condition is no stronger than it must be. -/
theorem keeps_of_stageJudged (hc : StageCached s.presetsHolder s.reflowController) {e : Event}
    (hjudged : StageJudged ((service lib).step s e).presetsHolder
      ((service lib).step s e).reflowController) : UpdateKeepsStage lib s e := by
  rintro presetId body ptr stages rfl hlookup hparse hjudging hactive
  have hstep : (service lib).step s (.request (.updatePreset presetId body)) =
      { s with presetsHolder := s.presetsHolder.modify ptr
                (parseResultVisitor lib (.stages stages)) } := by
    show (s.updatePreset lib presetId body).2 = _
    simp only [updatePreset, PresetsHolder.getPresetById_eq_ok.mpr hlookup, hparse]
  rw [hstep] at hjudged
  exact keeps_of_stageJudged_modify hc hjudged hjudging hactive

/-- **Run lemma.** -/
theorem stageCached_of_reachableVia (hs : (service lib).ReachableVia (UpdateKeepsStage lib) s) :
    StageCached s.presetsHolder s.reflowController := by
  refine System.ReachableVia.invariant (M := service lib)
    (I := fun s => StageCached s.presetsHolder s.reflowController) ?_ ?_ hs
  · rintro s ⟨-, t, hcontroller⟩
    rw [hcontroller]
    exact StageCached.of_not_judging fun hjudging => absurd hjudging.1 Bool.false_ne_true
  · exact fun s e hs hc hkeeps => stageCached_step hs.reachable hc hkeeps

/-- **The heater's target and the stage being judged are the same** while every update that
reaches the stage being judged repeats it and fits the vector; the first one that does not
separates them. -/
theorem stage_judged_iff (hs : (service lib).ReachableVia (UpdateKeepsStage lib) s) :
    StageJudged s.presetsHolder s.reflowController ∧
      ∀ e, StageJudged ((service lib).step s e).presetsHolder
          ((service lib).step s e).reflowController ↔ UpdateKeepsStage lib s e :=
  have hc := stageCached_of_reachableVia hs
  ⟨hc.judged, fun _ => ⟨keeps_of_stageJudged hc,
    fun hkeeps => (stageCached_step hs.reachable hc hkeeps).judged⟩⟩

/-! ## An edit of the stage that is heated -/

/-- The stage of the session, with another temperature. -/
def raisedText : String := "\x7b\"stages\":[\x7b\"temperature\":200,\"duration\":30\x7d]\x7d"

def editLibraries : Libraries :=
  .sample ((raisedText, .object [("stages", .array [.object
    [("temperature", .numberUnsigned 200), ("duration", .numberUnsigned 30)]])]) :: sessionDocs)

/-- The session, and the tick that enters its stage. -/
def heatingSession : List Event := startSession ++ [.tick ⟨none, ⟨0, 0⟩⟩]

/-- The session's own update comes before its start. -/
theorem stage_judged_iff_heating :
    let s := (service editLibraries).run make heatingSession
    Judging s.reflowController ∧ StageJudged s.presetsHolder s.reflowController ∧
      ∀ e, StageJudged ((service editLibraries).step s e).presetsHolder
          ((service editLibraries).step s e).reflowController ↔
        UpdateKeepsStage editLibraries s e := by
  have hs : (service editLibraries).ReachableVia (UpdateKeepsStage editLibraries)
      ((service editLibraries).run make heatingSession) := by
    refine .step (.step (.step (.step (.step (.start constructed_make) ?_) ?_) ?_) ?_) ?_
    · rintro _ _ _ _ ⟨⟩
    · rintro _ _ _ _ - - - hjudging
      exact absurd hjudging (by decide +kernel)
    all_goals rintro _ _ _ _ ⟨⟩
  exact ⟨by decide +kernel, stage_judged_iff hs⟩

/-- The server once the client has raised the temperature of the stage that is heated. -/
def raisedServer : Server :=
  (service editLibraries).run make
    (heatingSession ++ [.request (.updatePreset "4" (asciiBytes raisedText))])

/-- The controller waits for a temperature the heater was not told to reach. -/
theorem not_stageJudged_raised :
    (service editLibraries).Reachable raisedServer ∧ Judging raisedServer.reflowController ∧
      ¬ StageJudged raisedServer.presetsHolder raisedServer.reflowController := by
  obtain ⟨hjudging, hcached, hstage, hlast⟩ : Judging raisedServer.reflowController ∧
      raisedServer.reflowController.reflowProcessData.activePresetState = some ⟨0, ⟨1, 0⟩⟩ ∧
      raisedServer.presetsHolder.readStage ⟨0, ⟨1, 0⟩⟩ = some ⟨200, 30⟩ ∧
      (targetWords raisedServer.reflowController.trace).getLast? = some 183 := by
    decide +kernel
  refine ⟨System.Reachable.run (.start constructed_make) _, hjudging, fun hjudged => ?_⟩
  obtain ⟨sp, item, hsp, hread, hword, -⟩ := hjudged hjudging
  obtain rfl : ⟨0, ⟨1, 0⟩⟩ = sp := Option.some.inj (hcached.symm.trans hsp)
  obtain rfl : ⟨200, 30⟩ = item := Option.some.inj (hstage.symm.trans hread)
  rw [hlast] at hword
  exact absurd hword (by decide)

end Server

end ReflowTable

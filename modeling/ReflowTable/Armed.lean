import ReflowTable.History

/-!
# Nothing heats without being armed

A run is opened by a `StartReflow` that finds a preset selected, and every run ends with the
selection cleared. So before each stage's target temperature stand, in the history, a
`SelectPreset` handled while idle, only idle moments, a `StartReflow`, and only moments of its run.
-/

namespace ReflowTable

open ReflowProcessController

namespace Moment

variable (tc : Toolchain)

/-- An idle moment that selects nothing. -/
structure Waits (m : Moment) : Prop where
  idle_before : m.before.isReflowRunning = false
  idle_after : (m.after tc).isReflowRunning = false
  selects_none : ∀ ptr, ¬ m.Selects ptr

/-- A moment of a run of this preset, after its first and before its last. -/
structure InRun (ptr : PresetPtr) (m : Moment) : Prop where
  running_before : m.before.isReflowRunning = true
  running_after : (m.after tc).isReflowRunning = true
  preset_before : m.before.activePreset = some ptr
  preset_after : (m.after tc).activePreset = some ptr

end Moment

/-- The preset was selected while idle, the last one to be, and there was no run since. -/
def Armed (tc : Toolchain) (ptr : PresetPtr) (hist : List Moment) : Prop :=
  Since (Moment.Waits tc) (fun _ m => m.Selects ptr) hist

/-- The preset was armed and then started, and that run is on. -/
def Heating (tc : Toolchain) (ptr : PresetPtr) (hist : List Moment) : Prop :=
  Since (Moment.InRun tc ptr) (fun past m => m.OpensRun ptr ∧ Armed tc ptr past) hist

/-- A selected preset is armed, and a preset that is run was. -/
structure ArmedInvariant (tc : Toolchain) (hist : List Moment) (c : ReflowProcessController) :
    Prop where
  idle : c.isReflowRunning = false → ∀ ptr, c.activePreset = some ptr → Armed tc ptr hist
  running : c.isReflowRunning = true → ∀ ptr, c.activePreset = some ptr → Heating tc ptr hist

namespace ArmedInvariant

variable {tc : Toolchain} {hist : List Moment} {c c' : ReflowProcessController} {m : Moment}

theorem make (t : ℤ) : ArmedInvariant tc [] (.make t) where
  idle _ ptr hptr := by simp [ReflowProcessController.make] at hptr
  running hrun := by simp [ReflowProcessController.make] at hrun

theorem sameRun (h : SameRun c c') (hI : ArmedInvariant tc hist c) :
    ArmedInvariant tc hist c' := by
  obtain ⟨queue, data, rfl⟩ := h
  exact ⟨hI.idle, hI.running⟩

/-- An idle state with its selection armed. -/
theorem of_idle (hidle : c.isReflowRunning = false)
    (harmed : ∀ ptr, c.activePreset = some ptr → Armed tc ptr hist) :
    ArmedInvariant tc hist c where
  idle _ := harmed
  running hrun := by
    rw [hidle] at hrun
    cases hrun

theorem of_running (hrun : c.isReflowRunning = true)
    (hheating : ∀ ptr, c.activePreset = some ptr → Heating tc ptr hist) :
    ArmedInvariant tc hist c where
  idle hidle := by
    rw [hrun] at hidle
    cases hidle
  running _ := hheating

/-- **Step lemma.** -/
theorem step (m : Moment) (hI : ArmedInvariant tc hist m.before) :
    ArmedInvariant tc (hist ++ [m]) (m.after tc) := by
  cases m.runStep tc with
  | waits hidle hidle' hsame hnot =>
    refine of_idle hidle' fun ptr hptr => ?_
    rw [hsame] at hptr
    exact (hI.idle hidle ptr hptr).keep ⟨hidle, hidle', hnot⟩
  | selects ptr hselects hidle' hptr =>
    refine of_idle hidle' fun ptr' hptr' => ?_
    obtain rfl : ptr = ptr' := Option.some.inj (hptr.symm.trans hptr')
    exact Since.now hselects
  | opens ptr hopens hrun' hptr =>
    refine of_running hrun' fun ptr' hptr' => ?_
    obtain rfl : ptr = ptr' := Option.some.inj (hptr.symm.trans hptr')
    exact Since.now ⟨hopens, hI.idle hopens.2.1 ptr hopens.2.2⟩
  | goesOn hrun hrun' hsame =>
    refine of_running hrun' fun ptr hptr => ?_
    have hbefore : m.before.activePreset = some ptr := by rw [← hsame, hptr]
    exact (hI.running hrun ptr hbefore).keep ⟨hrun, hrun', hbefore, hptr⟩
  | ends hrun hidle' hnone =>
    -- the selection goes with the run
    refine of_idle hidle' fun ptr hptr => ?_
    rw [hnone] at hptr
    cases hptr

end ArmedInvariant

namespace Server

variable {tc : Toolchain} {s : Server} {ops : List Operation} {pre post : List Moment} {m : Moment}

/-- **Run lemma.** -/
theorem armedInvariant_history (hs : Constructed s)
    (hhistory : s.history tc ops = pre ++ m :: post) : ArmedInvariant tc pre m.before := by
  obtain ⟨-, t, hcontroller⟩ := hs
  have hinit : ArmedInvariant tc [] s.reflowController := by
    rw [hcontroller]
    exact .make t
  exact (history_path s ops).rule_before (fun hist c c' hsame hI => hI.sameRun hsame)
    (fun hist n _ hI => ArmedInvariant.step n hI) hhistory hinit

/-- The words `handleInitStep` writes are the temperatures of stages of the active preset. -/
theorem targetWords_effects_of_executesInit {ptr : PresetPtr} (hinit : m.ExecutesInit)
    (hptr : m.before.activePreset = some ptr) :
    ∀ w ∈ targetWords (m.effects tc), ∃ item ∈ (m.holder.objects ptr).presetItems.items,
      w = item.temperatureStep.toUInt16 := by
  intro w hw
  cases hitem : (m.holder.objects ptr).presetItems.items[
      m.before.reflowProcessData.activeStageIndex]? with
  | none =>
    rw [Moment.effects, hinit.after_of_none hptr hitem, List.drop_length] at hw
    exact absurd hw List.not_mem_nil
  | some item =>
    have hwords : targetWords (m.effects tc) = [item.temperatureStep.toUInt16] := by
      have htrace := hinit.targetWords_after tc hptr hitem
      rw [m.trace_after, targetWords_append] at htrace
      exact List.append_cancel_left htrace
    rw [hwords, List.mem_singleton] at hw
    exact ⟨item, List.mem_of_getElem? hitem, hw⟩

/-- **Nothing heats without being armed.** -/
theorem armed_before_heating (hs : Constructed s)
    (hhistory : s.history tc ops = pre ++ m :: post) :
    (m.ExecutesInit → ∃ ptr, Heating tc ptr pre ∧ m.before.activePreset = some ptr ∧
      ∀ w ∈ targetWords (m.effects tc), ∃ item ∈ (m.holder.objects ptr).presetItems.items,
        w = item.temperatureStep.toUInt16) ∧
    ∀ id, m.activity = .handle (.selectPreset id) → m.before.isReflowRunning = true →
      (m.after tc).isReflowRunning = true ∧
        (m.after tc).activePreset = m.before.activePreset := by
  constructor
  · intro hinit
    obtain ⟨ptr, hptr⟩ := Option.ne_none_iff_exists'.mp hinit.selected
    have hI := armedInvariant_history hs hhistory
    exact ⟨ptr, hI.running hinit.running ptr hptr, hptr,
      targetWords_effects_of_executesInit hinit hptr⟩
  · intro id hactivity hrun
    rw [Moment.after_selectPreset_of_running hactivity hrun]
    exact ⟨hrun, rfl⟩

/-- A preset that is selected and started in one tick. -/
def armedRun : List Operation :=
  [.addNewPreset "lead", .addStageItem 4 ⟨183, 30⟩, .postCommand (.selectPreset 4),
    .postCommand .startReflow, silentTick]

/-- The process step of that tick. -/
def armedInit : Moment := ⟨((operations .sample).run make armedRun).presetsHolder,
  .process ⟨0, 0⟩, ((make.history .sample armedRun).get ⟨2, by decide⟩).before⟩

theorem armed_before_heating_armedRun :
    armedInit.ExecutesInit ∧ ∃ ptr, Heating .sample ptr ((make.history .sample armedRun).take 2) ∧
      armedInit.before.activePreset = some ptr ∧
      ∀ w ∈ targetWords (armedInit.effects .sample),
        ∃ item ∈ (armedInit.holder.objects ptr).presetItems.items,
          w = item.temperatureStep.toUInt16 := by
  have hhistory : make.history .sample armedRun =
      (make.history .sample armedRun).take 2 ++ armedInit :: [] := rfl
  have hinit : armedInit.ExecutesInit := ⟨⟨_, rfl⟩, by decide, by decide, by decide⟩
  exact ⟨hinit, (armed_before_heating constructed_make hhistory).1 hinit⟩

end Server

end ReflowTable

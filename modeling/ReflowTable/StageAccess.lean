import ReflowTable.RunInvariant

/-!
# Which ticks access a stage that is not there

`moveToNextStage` compares the index with the number of stages before it lets another stage be
entered. `handleReflowStart` does not: it is content with any selected preset, and
`handleInitStep` of a started preset without stages throws `std::out_of_range` out of
`runnable`. That is the only way; a tick on any other preset accesses a stage that is there.
-/

namespace ReflowTable

open ReflowProcessController

section Process

variable {h : PresetsHolder} {freed : StageItem} {c : ReflowProcessController}

/-- A running controller on a preset with stages completes its process step. -/
theorem processReflowStep_of_stages (hI : RunInvariant h c)
    (hstages : ∀ ptr, c.selection = ⟨true, some ptr⟩ → 0 < (h.objects ptr).numStages) :
    (c.processReflowStep h freed).error? = none := by
  have heffect := processReflowStep_effect h freed c
  generalize c.processReflowStep h freed = o at heffect ⊢
  cases heffect with
  | @enterNothing ptr hrun hptr _ hle =>
    -- the first stage exists by assumption, a later one by the invariant
    have hpos := hstages ptr (by rw [selection, hrun, hptr])
    rcases hI.index_lt hrun ptr hptr with hzero | hlt <;> omega
  | preheatNothing hrun _ hstep hnone =>
    obtain ⟨sp, hsp⟩ := hI.entered hrun (by simp [hstep])
    rw [hnone] at hsp
    cases hsp
  | _ => rfl

/-- On a preset without stages it cannot even enter the first one. -/
theorem processReflowStep_of_empty (hI : RunInvariant h c) {ptr : PresetPtr}
    (hsel : c.selection = ⟨true, some ptr⟩) (hempty : (h.objects ptr).numStages = 0) :
    (c.processReflowStep h freed).error? = some .outOfRange := by
  obtain ⟨hrun, hactive⟩ := Selection.mk.inj hsel
  -- a stage that was entered would exist
  have hstep : c.reflowProcessData.reflowStep = .kInitStep := by
    by_contra hne
    have hlt := hI.entered_lt hrun hne ptr hactive
    omega
  rw [(StepEffect.enterNothing hrun hactive hstep (by omega)).eq]
  rfl

end Process

namespace Server

variable {tc : Toolchain} {s : Server}

/-- The next tick accesses no stage out of range and reads through no null pointer. -/
structure StageAccessSafe (tc : Toolchain) (input : TickInput) (s : Server) : Prop where
  in_range : (s.runnable tc input).error? ≠ some .outOfRange
  non_null : (s.runnable tc input).error? ≠ some .nullDereference
  /-- the states that read the cached stage find one -/
  cached : ∀ c, s.reflowController.dispatchCommandsQueue tc s.presetsHolder = .done c →
    c.isReflowRunning = true →
    c.reflowProcessData.reflowStep = .kPreheat ∨ c.reflowProcessData.reflowStep = .kInProgress →
    ∃ sp, c.reflowProcessData.activePresetState = some sp

/-- A tick whose dispatch loop throws ends in that exception. -/
theorem error?_runnable_of_raised {e : Fault} {c : ReflowProcessController}
    (hdispatch : s.reflowController.dispatchCommandsQueue tc s.presetsHolder = .raised e c)
    (input : TickInput) : (s.runnable tc input).error? = some e := by
  rw [runnable, ReflowProcessController.runnable, hdispatch]
  rfl

/-- A tick whose dispatch loop returns ends as its process step does. -/
theorem error?_runnable_of_done {c : ReflowProcessController}
    (hdispatch : s.reflowController.dispatchCommandsQueue tc s.presetsHolder = .done c)
    (input : TickInput) :
    (s.runnable tc input).error? = ((c.requestModbusData input.reading).processReflowStep
      s.presetsHolder input.freed).error? := by
  rw [runnable, ReflowProcessController.runnable, hdispatch, Outcome.bind_done]
  cases (c.requestModbusData input.reading).processReflowStep s.presetsHolder input.freed <;> rfl

/-- **Stage access is safe exactly when no preset without stages is run.** -/
theorem stageAccessSafe_iff (hs : (operations tc).Reachable s) (input : TickInput) :
    s.StageAccessSafe tc input ↔
      ∀ ptr, s.drained = some ⟨true, some ptr⟩ → 0 < (s.presetsHolder.objects ptr).numStages := by
  have hdrain := dispatchCommandsQueue_drain tc s.presetsHolder s.reflowController
  have hkeeps := (RunInvariant.of_reachable hs).dispatchCommandsQueue tc
  unfold drained
  rw [← hdrain]
  cases hdispatch : s.reflowController.dispatchCommandsQueue tc s.presetsHolder with
  | raised e c =>
    obtain ⟨⟨what, rfl⟩, -⟩ := dispatchCommandsQueue_raised hdispatch
    have hraised := error?_runnable_of_raised hdispatch input
    refine iff_of_true ⟨?_, ?_, fun c' hdone => ?_⟩ (by simp)
    · simp [hraised]
    · simp [hraised]
    · rw [hdispatch] at hdone
      cases hdone
  | done c =>
    rw [hdispatch] at hkeeps
    let c' := c.requestModbusData input.reading
    have hI : RunInvariant s.presetsHolder c' := by
      simp only [c']
      cases input.reading <;> exact hkeeps.congr rfl rfl rfl
    have hsel : c'.selection = c.selection := by
      simp only [c']
      cases input.reading <;> rfl
    have herror : (s.runnable tc input).error? =
        (c'.processReflowStep s.presetsHolder input.freed).error? :=
      error?_runnable_of_done hdispatch input
    simp only [Outcome.done?_done, Option.map_some, Option.some.injEq, ← hsel]
    by_cases hstages : ∀ ptr, c'.selection = ⟨true, some ptr⟩ →
        0 < (s.presetsHolder.objects ptr).numStages
    · have hnone : (c'.processReflowStep s.presetsHolder input.freed).error? = none :=
        processReflowStep_of_stages hI hstages
      refine iff_of_true ⟨?_, ?_, fun d hdone hrun hstep => ?_⟩ hstages
      · simp [herror, hnone]
      · simp [herror, hnone]
      · obtain rfl : c = d := by
          rw [hdispatch] at hdone
          exact Outcome.done.inj hdone
        exact hkeeps.entered hrun (by rcases hstep with hstep | hstep <;> simp [hstep])
    · refine iff_of_false (fun hsafe => hsafe.in_range ?_) hstages
      push Not at hstages
      obtain ⟨ptr, hptr, hempty⟩ := hstages
      rw [herror]
      exact processReflowStep_of_empty hI hptr (by omega)

/-- A preset has been created, selected and started. -/
def emptyPresetRun : List Operation :=
  [.addNewPreset "lead", .postCommand (.selectPreset 4), .postCommand .startReflow]

/-- On a started preset with a stage the access is safe. -/
theorem stageAccessSafe_iff_selectedRun :
    let s := (operations .sample).run make
      (emptyPresetRun ++ [.addStageItem 4 ⟨183, 30⟩])
    s.StageAccessSafe .sample ⟨none, ⟨0, 0⟩⟩ ↔
      ∀ ptr, s.drained = some ⟨true, some ptr⟩ → 0 < (s.presetsHolder.objects ptr).numStages :=
  stageAccessSafe_iff (reachable_run .sample _) _

/-- Starting a fresh preset ends the tick with `std::out_of_range`. -/
theorem not_stageAccessSafe_emptyPresetRun :
    let s := (operations .sample).run make emptyPresetRun
    (operations .sample).Reachable s ∧
      (s.runnable .sample ⟨none, ⟨0, 0⟩⟩).error? = some .outOfRange ∧
      ¬ s.StageAccessSafe .sample ⟨none, ⟨0, 0⟩⟩ := by
  have hraised : (((operations .sample).run make emptyPresetRun).runnable .sample
      ⟨none, ⟨0, 0⟩⟩).error? = some .outOfRange := by decide
  exact ⟨reachable_run .sample _, hraised, fun hsafe => hsafe.in_range hraised⟩

end Server

end ReflowTable

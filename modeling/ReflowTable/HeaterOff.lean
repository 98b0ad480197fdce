import ReflowTable.Operations

/-!
# An idle controller has switched the heater off

However a run ends, by `StopReflow`, by a skipped or a soaked last stage, the controller writes
`0` to the target register before it clears the running flag. So the last word requested for
that register while the controller is idle is `0`.
-/

namespace ReflowTable

open ReflowProcessController

/-- An idle controller's last target write, if it ever made one, carried `0`. -/
def HeaterOff (c : ReflowProcessController) : Prop :=
  c.isReflowRunning = false →
    targetWords c.trace = [] ∨ (targetWords c.trace).getLast? = some 0

namespace HeaterOff

variable {tc : Toolchain} {h : PresetsHolder} {freed : StageItem}
  {c c' : ReflowProcessController}

theorem make (t : ℤ) : HeaterOff (.make t) := fun _ => .inl rfl

/-- Only the flag and the target writes matter. -/
theorem congr (hoff : HeaterOff c) (hrun : c'.isReflowRunning = c.isReflowRunning)
    (htrace : targetWords c'.trace = targetWords c.trace) : HeaterOff c' := by
  unfold HeaterOff
  rw [hrun, htrace]
  exact hoff

theorem of_running (hrun : c.isReflowRunning = true) : HeaterOff c := by
  intro hidle
  rw [hrun] at hidle
  exact absurd hidle Bool.true_eq_false.mp

/-- Every way a run ends appends the write of `0`. -/
theorem ended : HeaterOff c.ended := by
  intro _
  right
  rw [targetWords_ended, List.getLast?_concat]

/-- **Step lemma.** -/
theorem step (hstep : Transition tc h freed c c') (hoff : HeaterOff c) : HeaterOff c' := by
  cases hstep with
  | command hcommand =>
    cases hcommand with
    | pop => exact hoff.congr rfl rfl
    | start => exact of_running rfl
    | stop => exact ended
    | select => exact hoff.congr rfl rfl
    | selectUnknown => exact hoff.congr rfl rfl
    | setParams params =>
      -- two words from `kFactorAddr` on, one register short of the target
      refine hoff.congr rfl ?_
      simp [setRegulatorParams]
  | read => exact hoff.congr rfl rfl
  | process hprocess =>
    cases hprocess with
    | enter hrun => exact of_running hrun
    | moveOn hrun => exact of_running hrun
    | finish => exact ended
    | soak hrun => exact of_running hrun
    | soakDone hrun => exact of_running hrun
    | advance hrun => exact of_running hrun

end HeaterOff

namespace Server

variable {tc : Toolchain} {s : Server}

/-- **Run lemma.** -/
theorem heaterOff_of_reachable (hs : (operations tc).Reachable s) :
    HeaterOff s.reflowController :=
  reachable_invariant (I := fun _ c => HeaterOff c) HeaterOff.make (fun _ _ _ _ hoff => hoff)
    (fun _ _ _ hoff => hoff.congr rfl rfl) (fun _ _ _ _ hstep hoff => hoff.step hstep) hs

/-- **The heater is off while the controller is idle.** -/
theorem heater_off_of_idle (hs : (operations tc).Reachable s)
    (hidle : s.reflowController.isRunning = false) :
    targetWords s.reflowController.trace = [] ∨
      (targetWords s.reflowController.trace).getLast? = some 0 :=
  heaterOff_of_reachable hs hidle

/-- A run stopped during its first stage. -/
def stoppedRun : List Operation :=
  [.addNewPreset "lead", .addStageItem 4 ⟨183, 30⟩, .postCommand (.selectPreset 4),
    .postCommand .startReflow, silentTick, .postCommand .stopReflow, silentTick]

/-- The run requested the stage's temperature before it was stopped. -/
theorem heater_off_stoppedRun :
    let s := (operations .sample).run make stoppedRun
    targetWords s.reflowController.trace = [183, 0] ∧
      (targetWords s.reflowController.trace = [] ∨
        (targetWords s.reflowController.trace).getLast? = some 0) :=
  ⟨by decide, heater_off_of_idle (reachable_run .sample stoppedRun) (by decide)⟩

end Server

end ReflowTable

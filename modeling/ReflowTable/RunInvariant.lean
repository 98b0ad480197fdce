import ReflowTable.Operations

/-!
# The run invariant

What ties the running flag, the process step, the stage index, the cached stage and the
active preset together, in every reachable state. It makes no assumption about the presets a
client selects and starts: a run that has not entered a stage yet may be on a preset without
stages, and that is the only way its index can be out of range.
-/

namespace ReflowTable

open ReflowProcessController

structure RunInvariant (h : PresetsHolder) (c : ReflowProcessController) : Prop where
  /-- a run has a preset -/
  selected : c.isReflowRunning = true → ∃ ptr, c.activePreset = some ptr
  /-- the active preset exists -/
  live : ∀ ptr, c.activePreset = some ptr → ptr < h.allocated
  /-- every run begins at stage 0 -/
  idle_index : c.isReflowRunning = false → c.reflowProcessData.activeStageIndex = 0
  /-- the stage about to be entered exists, unless it is the first one -/
  index_lt : c.isReflowRunning = true → ∀ ptr, c.activePreset = some ptr →
    c.reflowProcessData.activeStageIndex = 0 ∨
      c.reflowProcessData.activeStageIndex < (h.objects ptr).numStages
  /-- a stage that was entered exists -/
  entered_lt : c.isReflowRunning = true → c.reflowProcessData.reflowStep ≠ .kInitStep →
    ∀ ptr, c.activePreset = some ptr →
      c.reflowProcessData.activeStageIndex < (h.objects ptr).numStages
  /-- a stage that was entered is cached -/
  entered : c.isReflowRunning = true → c.reflowProcessData.reflowStep ≠ .kInitStep →
    ∃ sp, c.reflowProcessData.activePresetState = some sp

namespace RunInvariant

variable {tc : Toolchain} {h h' : PresetsHolder} {freed : StageItem}
  {c c' : ReflowProcessController}

theorem make (t : ℤ) : RunInvariant .make (.make t) where
  selected hrun := by simp [ReflowProcessController.make] at hrun
  live ptr hp := by simp [ReflowProcessController.make] at hp
  idle_index _ := rfl
  index_lt hrun := by simp [ReflowProcessController.make] at hrun
  entered_lt hrun := by simp [ReflowProcessController.make] at hrun
  entered hrun := by simp [ReflowProcessController.make] at hrun

/-- Stages only appear, so a growing holder keeps the invariant. -/
theorem grow (hgrow : h.GrowsTo h') (hI : RunInvariant h c) : RunInvariant h' c where
  selected := hI.selected
  live ptr hp := (hI.live ptr hp).trans_le hgrow.allocated
  idle_index := hI.idle_index
  index_lt hrun ptr hp :=
    (hI.index_lt hrun ptr hp).imp_right fun hlt =>
      hlt.trans_le (hgrow.numStages (hI.live ptr hp))
  entered_lt hrun hstep ptr hp :=
    (hI.entered_lt hrun hstep ptr hp).trans_le (hgrow.numStages (hI.live ptr hp))
  entered := hI.entered

/-- The invariant does not see the queue, the clock, the register data or the trace. -/
theorem congr (hI : RunInvariant h c) (hrun : c'.isReflowRunning = c.isReflowRunning)
    (hactive : c'.activePreset = c.activePreset)
    (hdata : c'.reflowProcessData = c.reflowProcessData) : RunInvariant h c' := by
  cases c
  cases c'
  simp only at hrun hactive hdata
  subst hrun hactive hdata
  exact ⟨hI.selected, hI.live, hI.idle_index, hI.index_lt, hI.entered_lt, hI.entered⟩

/-- Draining the queue keeps the invariant. -/
theorem command (hstep : CommandChange tc h c c') (hI : RunInvariant h c) :
    RunInvariant h c' := by
  cases hstep with
  | pop => exact hI.congr rfl rfl rfl
  | setParams => exact hI.congr rfl rfl rfl
  | start hp =>
    -- a start during a run leaves the index where it is; an idle one finds it at 0
    refine ⟨fun _ => ⟨_, hp⟩, hI.live, fun hrun => ?_, fun _ ptr hptr => ?_, ?_, ?_⟩
    · simp [started] at hrun
    · cases hrun : c.isReflowRunning with
      | false => exact .inl (hI.idle_index hrun)
      | true => exact hI.index_lt hrun ptr hptr
    · exact fun _ hne => absurd rfl hne
    · exact fun _ hne => absurd rfl hne
  | stop hrun =>
    -- the run is over, so only the index is spoken of
    refine ⟨fun hr => ?_, fun ptr hp => ?_, fun _ => rfl, fun hr => ?_, fun hr => ?_,
      fun hr => ?_⟩ <;> simp [ended] at *
  | select hidle hl =>
    refine ⟨fun hr => ?_, fun ptr hp => ?_, hI.idle_index, fun hr => ?_, fun hr => ?_,
      fun hr => ?_⟩
    · simp [hidle] at hr
    · obtain rfl : _ = ptr := Option.some.inj hp
      exact h.live hl
    · simp [hidle] at hr
    · simp [hidle] at hr
    · simp [hidle] at hr
  | selectUnknown hidle => exact hI.congr rfl rfl rfl

/-- The process step keeps the invariant. -/
theorem process (hstep : ProcessChange h freed c c') (hI : RunInvariant h c) :
    RunInvariant h c' := by
  cases hstep with
  | advance => exact hI.congr rfl rfl rfl
  | finish hrun =>
    refine ⟨fun hr => ?_, fun ptr hp => ?_, fun _ => rfl, fun hr => ?_, fun hr => ?_,
      fun hr => ?_⟩ <;> simp [ended] at *
  | @enter ptr item hrun hp hinit hitem =>
    have hlt : c.reflowProcessData.activeStageIndex < (h.objects ptr).numStages :=
      (List.getElem?_eq_some_iff.mp hitem).1
    have hlt' : ∀ ptr', c.activePreset = some ptr' →
        c.reflowProcessData.activeStageIndex < (h.objects ptr').numStages := by
      intro ptr' hp'
      obtain rfl : ptr = ptr' := Option.some.inj (hp.symm.trans hp')
      exact hlt
    exact ⟨hI.selected, hI.live, hI.idle_index, fun _ ptr' hp' => .inr (hlt' ptr' hp'),
      fun _ _ => hlt', fun _ _ => ⟨_, rfl⟩⟩
  | @moveOn ptr hrun hp hover hlt =>
    -- `moveToNextStage` has compared the new index with the number of stages
    refine ⟨hI.selected, hI.live, fun hidle => ?_, fun _ ptr' hp' => .inr ?_, ?_, ?_⟩
    · simp [movedOn, hrun] at hidle
    · obtain rfl : ptr = ptr' := Option.some.inj (hp.symm.trans hp')
      exact hlt
    · exact fun _ hne => absurd rfl hne
    · exact fun _ hne => absurd rfl hne
  | soak hrun hstep hsp =>
    have hne : c.reflowProcessData.reflowStep ≠ .kInitStep := by simp [hstep]
    exact ⟨hI.selected, hI.live, hI.idle_index, hI.index_lt, fun _ _ => hI.entered_lt hrun hne,
      fun _ _ => hI.entered hrun hne⟩
  | soakDone hrun hstep =>
    have hne : c.reflowProcessData.reflowStep ≠ .kInitStep := by simp [hstep]
    exact ⟨hI.selected, hI.live, hI.idle_index, hI.index_lt, fun _ _ => hI.entered_lt hrun hne,
      fun _ _ => hI.entered hrun hne⟩

/-- **Step lemma.** Every elementary change keeps the invariant. -/
theorem step (hstep : Transition tc h freed c c') (hI : RunInvariant h c) :
    RunInvariant h c' := by
  cases hstep with
  | command hcommand => exact hI.command hcommand
  | read => exact hI.congr rfl rfl rfl
  | process hprocess => exact hI.process hprocess

variable (tc) in
theorem handleOperation (hI : RunInvariant h c) (command : CommandVariant) :
    RunInvariant h (c.handleOperation tc h command).state :=
  (handleOperation_follows command).keeps (fun _ _ hstep hI => hI.command hstep) c hI

variable (tc) in
theorem dispatchCommandsQueue (hI : RunInvariant h c) :
    RunInvariant h (c.dispatchCommandsQueue tc h).state :=
  (dispatchCommandsQueue_follows tc h).keeps (fun _ _ hstep hI => hI.command hstep) c hI

variable (tc) in
theorem runnable (hI : RunInvariant h c) (input : TickInput) :
    RunInvariant h (c.runnable tc h input).state :=
  runnable_keeps tc h input (fun _ _ hstep hI => hI.step hstep) c hI

/-- **Run lemma.** The invariant holds in every reachable state. -/
theorem of_reachable {s : Server} (hs : (Server.operations tc).Reachable s) :
    RunInvariant s.presetsHolder s.reflowController :=
  Server.reachable_invariant make (fun _ _ _ hgrow hI => hI.grow hgrow)
    (fun _ _ _ hI => hI.congr rfl rfl rfl) (fun _ _ _ _ hstep hI => hI.step hstep) hs

end RunInvariant

end ReflowTable

import ReflowTable.History
import ReflowTable.Lib.Lockstep
import Mathlib.Tactic.Tauto

/-!
# A repeated start

`handlePresetSelection` does nothing during a run and `handleReflowEnd` nothing while idle.
`handleReflowStart` has no such guard: it sets the step back to `kInitStep`, whatever the step
was. Here two servers receive the same operations, one of them also retries of `StartReflow`.
They do the same as long as every retry finds the step at `kInitStep` or is followed, in the
same queue, by a command that overwrites the step anyway; and no longer.
-/

namespace ReflowTable

open ReflowProcessController
open Outcome (Lockstep)

/-! ## Retries in the queue -/

/-- A posted command: one of the client's own, or a `StartReflow` that repeats an earlier one. -/
inductive Posted
  | original (command : CommandVariant)
  | retry

namespace Posted

def command : Posted → CommandVariant
  | original command => command
  | retry => .startReflow

/-- The commands without the retries. -/
def originals : List Posted → List CommandVariant
  | [] => []
  | original command :: queue => command :: originals queue
  | retry :: queue => originals queue

@[simp] theorem originals_nil : originals [] = [] := rfl

@[simp] theorem originals_original (command : CommandVariant) (queue : List Posted) :
    originals (original command :: queue) = command :: originals queue := rfl

@[simp] theorem originals_retry (queue : List Posted) :
    originals (retry :: queue) = originals queue := rfl

theorem originals_append (queue rest : List Posted) :
    originals (queue ++ rest) = originals queue ++ originals rest := by
  induction queue with
  | nil => rfl
  | cons posted queue ih =>
    cases posted with
    | original command => exact congrArg (command :: ·) ih
    | retry => exact ih

end Posted

open Posted (originals)

/-- Among the client's own commands in the queue is one that sets the step of a run. -/
def SetsStep (queue : List Posted) : Prop :=
  .startReflow ∈ originals queue ∨ .stopReflow ∈ originals queue

instance (queue : List Posted) : Decidable (SetsStep queue) :=
  inferInstanceAs (Decidable (_ ∨ _))

/-- A retry at the moment it is handled, with what is queued behind it. -/
structure Retry where
  before : ReflowProcessController
  behind : List Posted

namespace Retry

/-- It is handled while a run is on. -/
def DuringRun (r : Retry) : Prop := r.before.isReflowRunning = true

/-- The stage has not begun yet, or a command behind the retry sets the step anyway. -/
def Harmless (r : Retry) : Prop :=
  r.before.reflowProcessData.reflowStep = .kInitStep ∨ SetsStep r.behind

instance (r : Retry) : Decidable r.DuringRun := inferInstanceAs (Decidable (_ = _))

instance (r : Retry) : Decidable r.Harmless := inferInstanceAs (Decidable (_ ∨ _))

end Retry

section Dispatch

variable (tc : Toolchain) (holder : PresetsHolder)

/-- The retries among the commands that the dispatch loop handles. -/
def retriesHandled : List Posted → ReflowProcessController → List Retry
  | [], _ => []
  | posted :: queue, c =>
    (match posted with
      | .retry => [⟨c, queue⟩]
      | .original _ => []) ++
      match handleOperation tc holder posted.command c with
      | .done c' => retriesHandled queue c'
      | .raised _ _ => []

/-- What the dispatch loop leaves in the queue. -/
def leftover : List Posted → ReflowProcessController → List Posted
  | [], _ => []
  | posted :: queue, c =>
    match handleOperation tc holder posted.command c with
    | .done c' => leftover queue c'
    | .raised _ _ => queue

variable {tc holder} {command : CommandVariant} {posted : Posted} {queue : List Posted}
  {c c' : ReflowProcessController} {e : Fault}

theorem retriesHandled_original_done (h : handleOperation tc holder command c = .done c') :
    retriesHandled tc holder (.original command :: queue) c =
      retriesHandled tc holder queue c' := by
  rw [retriesHandled, Posted.command, h, List.nil_append]

theorem retriesHandled_original_raised (h : handleOperation tc holder command c = .raised e c') :
    retriesHandled tc holder (.original command :: queue) c = [] := by
  rw [retriesHandled, Posted.command, h, List.nil_append]

theorem retriesHandled_retry_done (h : handleOperation tc holder .startReflow c = .done c') :
    retriesHandled tc holder (.retry :: queue) c =
      ⟨c, queue⟩ :: retriesHandled tc holder queue c' := by
  rw [retriesHandled, Posted.command, h, List.singleton_append]

theorem leftover_done (h : handleOperation tc holder posted.command c = .done c') :
    leftover tc holder (posted :: queue) c = leftover tc holder queue c' := by
  rw [leftover, h]

theorem leftover_raised (h : handleOperation tc holder posted.command c = .raised e c') :
    leftover tc holder (posted :: queue) c = queue := by
  rw [leftover, h]

end Dispatch

namespace ReflowProcessController

/-- The controller that has not got the retries and is at this step. -/
def twin (queue : List Posted) (step : ReflowStage) (c : ReflowProcessController) :
    ReflowProcessController :=
  { c with requestsQueue := originals queue, reflowProcessData.reflowStep := step }

/-- The twin's step is the controller's, unless a retry has set that one back. -/
def TwinStep (c : ReflowProcessController) (step : ReflowStage) : Prop :=
  step = c.reflowProcessData.reflowStep ∨
    (c.isReflowRunning = true ∧ c.reflowProcessData.reflowStep = .kInitStep)

/-- The second controller is the first one's twin, and their steps are the same if `agree`, and
not otherwise. -/
def TwinAfter (queue : List Posted) (agree : Prop) (c d : ReflowProcessController) : Prop :=
  ∃ step, d = c.twin queue step ∧ c.TwinStep step ∧
    (step = c.reflowProcessData.reflowStep ↔ agree)

variable {tc : Toolchain} {holder : PresetsHolder} {c : ReflowProcessController}
  {step : ReflowStage}

theorem TwinAfter.congr {queue : List Posted} {agree agree' : Prop} {d : ReflowProcessController}
    (h : TwinAfter queue agree c d) (hagree : agree ↔ agree') : TwinAfter queue agree' c d := by
  obtain ⟨step, hd, hback, hiff⟩ := h
  exact ⟨step, hd, hback, hiff.trans hagree⟩

theorem TwinStep.eq_of_idle (h : c.TwinStep step) (hidle : c.isReflowRunning = false) :
    step = c.reflowProcessData.reflowStep := by
  refine h.resolve_right fun hon => ?_
  rw [hidle] at hon
  cases hon.1

variable (tc) in
/-- The client's own commands do the same to both, and set the step of both alike. -/
theorem original_lockstep (hI : RunInvariant holder c) (hback : c.TwinStep step)
    (command : CommandVariant) (queue : List Posted) :
    Lockstep
      (TwinAfter queue (step = c.reflowProcessData.reflowStep ∨ command = .startReflow ∨
        command = .stopReflow))
      (handleOperation tc holder command c)
      (handleOperation tc holder command (c.twin (.original command :: queue) step)) := by
  generalize hs : ({ c with requestsQueue := c.requestsQueue.tail } : ReflowProcessController) = s
  have hrun : s.isReflowRunning = c.isReflowRunning := by rw [← hs]
  have hstep : s.reflowProcessData = c.reflowProcessData := by rw [← hs]
  have hpreset : s.activePreset = c.activePreset := by rw [← hs]
  have hone : handleOperation tc holder command c = visitCommand tc holder command s := by
    rw [← hs]
    rfl
  have htwo : handleOperation tc holder command (c.twin (.original command :: queue) step) =
      visitCommand tc holder command (s.twin queue step) := by
    rw [← hs]
    rfl
  have hback' : s.TwinStep step := by rwa [TwinStep, hrun, hstep]
  rw [hone, htwo, ← hstep]
  have hidle := hback'.eq_of_idle
  have heffect := visitCommand_effect tc holder command s
  generalize visitCommand tc holder command s = o at heffect ⊢
  -- the twin has the same flag and the same preset, so its handler takes the same branch
  cases heffect with
  | startUnselected hnone =>
    have hagree : step = s.reflowProcessData.reflowStep := by
      refine hidle (Bool.eq_false_iff.mpr fun hon => ?_)
      obtain ⟨ptr, hptr⟩ := hI.selected (hrun ▸ hon)
      rw [← hpreset, hnone] at hptr
      cases hptr
    rw [(CommandEffect.startUnselected (s := s.twin queue step) hnone).eq]
    exact .done ⟨step, rfl, hback', by simp [hagree]⟩
  | start hptr =>
    rw [(CommandEffect.start (s := s.twin queue step) hptr).eq]
    exact .done ⟨.kInitStep, rfl, .inl rfl, by simp [started]⟩
  | stopIdle hoff =>
    rw [(CommandEffect.stopIdle (s := s.twin queue step) hoff).eq]
    exact .done ⟨step, rfl, hback', by simp [hidle hoff]⟩
  | stop hon =>
    rw [(CommandEffect.stop (s := s.twin queue step) hon).eq]
    exact .done ⟨.kStageCompleted, rfl, .inl rfl, by simp [ended]⟩
  | selectRunning hon =>
    rw [(CommandEffect.selectRunning (s := s.twin queue step) hon).eq]
    exact .done ⟨step, rfl, hback', by simp⟩
  | select hoff hl =>
    rw [(CommandEffect.select (s := s.twin queue step) hoff hl).eq]
    exact .done ⟨step, rfl, hback', by simp⟩
  | selectUnknown hoff hl =>
    rw [(CommandEffect.selectUnknown (s := s.twin queue step) hoff hl).eq]
    exact .raised _ ⟨step, rfl, hback', by simp⟩
  | setParams =>
    exact .done ⟨step, rfl, hback', by simp [setRegulatorParams, scheduleRegistersWrite]⟩

variable (tc holder step) in
/-- A retry during a run sets the step back, and the twin knows nothing of it. -/
theorem handleOperation_retry (hI : RunInvariant holder c) (hrun : c.isReflowRunning = true)
    (queue : List Posted) :
    ∃ c', handleOperation tc holder .startReflow c = .done c' ∧ c'.isReflowRunning = true ∧
      c'.reflowProcessData.reflowStep = .kInitStep ∧
        c.twin (.retry :: queue) step = c'.twin queue step := by
  obtain ⟨ptr, hptr⟩ := hI.selected hrun
  have hpopped : ({ c with requestsQueue := c.requestsQueue.tail } :
      ReflowProcessController).activePreset = some ptr := hptr
  refine ⟨_, rfl, ?_⟩
  rw [handleReflowStart_of_some hpopped]
  exact ⟨rfl, rfl, by simp [twin, started, hrun]⟩

theorem setsStep_original (command : CommandVariant) (queue : List Posted) :
    SetsStep (.original command :: queue) ↔
      (command = .startReflow ∨ command = .stopReflow) ∨ SetsStep queue := by
  unfold SetsStep
  rw [Posted.originals_original, List.mem_cons, List.mem_cons, eq_comm,
    eq_comm (a := CommandVariant.stopReflow)]
  exact or_or_or_comm

variable (tc) in
/-- **Run lemma for the dispatch loop.** The steps agree in the end if every retry handled was
harmless, and not otherwise. -/
theorem dispatch_lockstep (queue : List Posted) (hI : RunInvariant holder c)
    (hback : c.TwinStep step)
    (hduring : ∀ r ∈ retriesHandled tc holder queue c, r.DuringRun) :
    Lockstep
      (TwinAfter (leftover tc holder queue c)
        ((∀ r ∈ retriesHandled tc holder queue c, r.Harmless) ∧
          (step = c.reflowProcessData.reflowStep ∨ SetsStep queue)))
      (Outcome.sweep (handleOperation tc holder) (queue.map Posted.command) c)
      (Outcome.sweep (handleOperation tc holder) (originals queue) (c.twin queue step)) := by
  induction queue generalizing c step with
  | nil => exact .done ⟨step, rfl, hback, by simp [retriesHandled, SetsStep]⟩
  | cons posted queue ih =>
    have hnext := hI.handleOperation tc posted.command
    rw [List.map_cons, Outcome.sweep_cons]
    cases posted with
    | original command =>
      rw [Posted.originals_original, Outcome.sweep_cons, setsStep_original]
      rw [Posted.command] at hnext ⊢
      refine (original_lockstep tc hI hback command queue).bind
        (fun e c' d' hone htwin => ?_) fun c' d' hone htwin => ?_
      · -- nothing behind the exception is handled, and a controller that throws is idle
        have hsame := hback.eq_of_idle (handleOperation_raised hone).1
        rw [retriesHandled_original_raised hone, leftover_raised hone]
        exact htwin.congr (by simp [hsame])
      · obtain ⟨step', rfl, hback', hagree⟩ := htwin
        rw [retriesHandled_original_done hone] at hduring ⊢
        rw [leftover_done hone]
        rw [hone] at hnext
        refine (ih hnext hback' hduring).mono fun _ _ hafter => hafter.congr ?_
        rw [Outcome.state_done, hagree]
        exact and_congr_right fun _ => or_assoc
    | retry =>
      have hrun : c.isReflowRunning = true := hduring ⟨c, queue⟩ (by simp [retriesHandled])
      obtain ⟨c', hone, hrun', hinit', htwin⟩ :=
        handleOperation_retry tc holder step hI hrun queue
      rw [Posted.command] at hnext ⊢
      rw [retriesHandled_retry_done hone] at hduring ⊢
      rw [leftover_done hone, hone, htwin, Posted.originals_retry, List.forall_mem_cons]
      rw [hone] at hnext
      have hback' : c'.TwinStep step := .inr ⟨hrun', hinit'⟩
      have hlater := ih hnext hback'
        fun r hr => hduring r (List.mem_cons_of_mem _ hr)
      refine hlater.mono fun _ _ hafter => hafter.congr ?_
      -- set back to `kInitStep`, the step agrees with the twin's if both were there before
      have hagree : step = .kInitStep ↔ c.reflowProcessData.reflowStep = .kInitStep ∧
          step = c.reflowProcessData.reflowStep := by
        constructor
        · intro hinit
          rcases hback with heq | ⟨-, hback⟩
          · exact ⟨heq ▸ hinit, heq⟩
          · exact ⟨hback, hinit.trans hback.symm⟩
        · rintro ⟨hinit, heq⟩
          exact heq.trans hinit
      have hfirst : Retry.Harmless ⟨c, queue⟩ ↔
        c.reflowProcessData.reflowStep = .kInitStep ∨ SetsStep queue := Iff.rfl
      have hsets : SetsStep (.retry :: queue) ↔ SetsStep queue := Iff.rfl
      show _ ∧ (step = c'.reflowProcessData.reflowStep ∨ _) ↔ _
      rw [hinit', hagree, hfirst, hsets]
      tauto

/-- The queue after the dispatch loop, with the retries in it. -/
theorem requestsQueue_sweep_posted (queue : List Posted)
    (hqueue : c.requestsQueue = queue.map Posted.command) :
    (Outcome.sweep (handleOperation tc holder)
        (queue.map Posted.command) c).state.requestsQueue =
      (leftover tc holder queue c).map Posted.command := by
  induction queue generalizing c with
  | nil => exact hqueue
  | cons posted queue ih =>
    have hvisit : (handleOperation tc holder posted.command c).state.requestsQueue =
        queue.map Posted.command := by
      rw [handleOperation, requestsQueue_visitCommand]
      show c.requestsQueue.tail = _
      rw [hqueue, List.map_cons, List.tail_cons]
    rw [List.map_cons, Outcome.sweep_cons]
    cases hone : handleOperation tc holder posted.command c with
    | done c' =>
      rw [hone] at hvisit
      rw [leftover_done hone]
      exact ih hvisit
    | raised e c' =>
      rw [hone] at hvisit
      rw [leftover_raised hone]
      exact hvisit

theorem requestsQueue_process (freed : StageItem) (c : ReflowProcessController) :
    ((c.processReflowStep holder freed).bind fun s =>
      .done s.advanceSysTick).state.requestsQueue = c.requestsQueue :=
  (process_follows holder freed).keeps (I := fun c' => c'.requestsQueue = c.requestsQueue)
    (fun _ _ hstep hqueue => hstep.requestsQueue_eq.trans hqueue) c rfl

end ReflowProcessController

/-- A moment that takes a stage and one that takes none. -/
theorem Moment.stagesEntered_after_ne (tc : Toolchain) (m m' : Moment) {ptr : PresetPtr}
    {item : StageItem} (htrace : m.before.trace = m'.before.trace) (hinit : m.ExecutesInit)
    (hptr : m.before.activePreset = some ptr)
    (hitem : (m.holder.objects ptr).presetItems.items[
      m.before.reflowProcessData.activeStageIndex]? = some item) (hnot : ¬ m'.ExecutesInit) :
    stagesEntered (m.after tc).trace ≠ stagesEntered (m'.after tc).trace := by
  intro heq
  rw [m.trace_after, m'.trace_after, stagesEntered_append, stagesEntered_append, htrace,
    stagesEntered_effects_of_not hnot] at heq
  have hnone : stagesEntered (m.effects tc) = [] := List.append_cancel_left heq
  have hsome : (ptr, _, item) ∈ stagesEntered (m.effects tc) :=
    mem_stagesEntered_effects_iff.mpr ⟨hinit, hptr, rfl, hitem⟩
  rw [hnone] at hsome
  cases hsome

/-! ## Two servers -/

/-- What happens to the two servers: the same to both, or a retry to the first. -/
inductive Trial
  | operation (op : Operation)
  | retry

/-- A server that gets retries and one that does not. -/
structure Servers where
  retried : Server
  single : Server
  /-- what is queued at the first -/
  posted : List Posted

namespace Servers

variable (tc : Toolchain)

def apply (t : Servers) : Trial → Servers
  | .retry =>
    { t with
      retried := t.retried.postCommand .startReflow
      posted := t.posted ++ [.retry] }
  | .operation op =>
    { retried := t.retried.apply tc op
      single := t.single.apply tc op
      posted :=
        match op with
        | .postCommand command => t.posted ++ [.original command]
        | .tick _ => leftover tc t.retried.presetsHolder t.posted t.retried.reflowController
        | _ => t.posted }

/-- One server twice. -/
def trials : System Servers Trial :=
  ⟨fun t => Server.Constructed t.retried ∧ t.single = t.retried ∧ t.posted = [], apply tc⟩

/-- The retries that the next tick will handle. -/
def retries (t : Servers) : List Retry :=
  retriesHandled tc t.retried.presetsHolder t.posted t.retried.reflowController

/-- Retries are handled during runs only, and are harmless. -/
def NoHarm (t : Servers) : Trial → Prop
  | .operation (.tick _) => ∀ r ∈ t.retries tc, r.DuringRun ∧ r.Harmless
  | _ => True

/-- The same target temperatures were written, the same stages begun, and the same run is on. -/
structure Unnoticed (t : Servers) : Prop where
  targetWords : targetWords t.retried.reflowController.trace =
    targetWords t.single.reflowController.trace
  stages : stagesEntered t.retried.reflowController.trace =
    stagesEntered t.single.reflowController.trace
  running : t.retried.reflowController.isRunning = t.single.reflowController.isRunning

/-- The servers differ in the retries that are queued. -/
structure InStep (t : Servers) : Prop where
  queue : t.retried.reflowController.requestsQueue = t.posted.map Posted.command
  single : t.single = { t.retried with
    reflowController.requestsQueue := originals t.posted }
  invariant : RunInvariant t.retried.presetsHolder t.retried.reflowController

variable {tc} {t : Servers}

theorem InStep.unnoticed (h : t.InStep) : t.Unnoticed := by
  constructor
  · rw [h.single]
  · rw [h.single]
  · rw [h.single]
    rfl

/-- The controllers after the dispatch loop. -/
theorem InStep.dispatch_lockstep (h : t.InStep) (hduring : ∀ r ∈ t.retries tc, r.DuringRun) :
    Lockstep
      (TwinAfter (leftover tc t.retried.presetsHolder t.posted t.retried.reflowController)
        (∀ r ∈ t.retries tc, r.Harmless))
      (t.retried.reflowController.dispatchCommandsQueue tc t.retried.presetsHolder)
      (t.single.reflowController.dispatchCommandsQueue tc t.single.presetsHolder) := by
  have hdispatch := ReflowProcessController.dispatch_lockstep tc t.posted h.invariant
    (.inl rfl) hduring
  unfold dispatchCommandsQueue
  rw [h.queue, h.single]
  exact hdispatch.mono fun _ _ hafter => hafter.congr (by simp [retries])

variable (tc) in
/-- What the dispatch loop leaves in the queue. -/
theorem InStep.requestsQueue_dispatch (h : t.InStep) :
    (t.retried.reflowController.dispatchCommandsQueue tc
        t.retried.presetsHolder).state.requestsQueue =
      (leftover tc t.retried.presetsHolder t.posted
        t.retried.reflowController).map Posted.command := by
  unfold dispatchCommandsQueue
  rw [h.queue]
  exact requestsQueue_sweep_posted t.posted h.queue

theorem InStep.leftover_eq_nil (h : t.InStep) {c' : ReflowProcessController}
    (hdone : t.retried.reflowController.dispatchCommandsQueue tc t.retried.presetsHolder =
      .done c') :
    leftover tc t.retried.presetsHolder t.posted t.retried.reflowController = [] ∧
      c'.requestsQueue = [] := by
  have hempty := requestsQueue_dispatchCommandsQueue hdone
  have hqueue := h.requestsQueue_dispatch tc
  rw [hdone, Outcome.state_done, hempty] at hqueue
  exact ⟨List.map_eq_nil_iff.mp hqueue.symm, hempty⟩

/-- **Step lemma for ticks with harmless retries.** -/
theorem InStep.tick (h : t.InStep) (input : TickInput)
    (hduring : ∀ r ∈ t.retries tc, r.DuringRun) (hharmless : ∀ r ∈ t.retries tc, r.Harmless) :
    (t.apply tc (.operation (.tick input))).InStep := by
  have hinvariant := h.invariant.runnable tc input
  have hholder : t.single.presetsHolder = t.retried.presetsHolder := by rw [h.single]
  have hdispatch := h.dispatch_lockstep hduring
  suffices hqueue : let c := t.retried.reflowController.runnable tc t.retried.presetsHolder input
      c.state.requestsQueue = (leftover tc t.retried.presetsHolder t.posted
        t.retried.reflowController).map Posted.command ∧
      (t.single.reflowController.runnable tc t.single.presetsHolder input).state =
        { c.state with requestsQueue := originals (leftover tc t.retried.presetsHolder t.posted
          t.retried.reflowController) } by
    refine ⟨hqueue.1, ?_, hinvariant⟩
    show t.single.tick tc input = _
    unfold Server.tick Server.runnable
    rw [hqueue.2, hholder]
    rfl
  intro c
  unfold c runnable
  rcases hdispatch.ends with ⟨c', d', hone, htwo, step, hd', hback, hagree⟩ |
    ⟨e, c', d', hone, htwo, step, hd', hback, hagree⟩
  · obtain ⟨hleft, hempty⟩ := h.leftover_eq_nil hone
    have hsame : d' = c' := by
      rw [hd', hagree.mpr hharmless, hleft, twin, Posted.originals_nil, ← hempty]
    have hkept : ((c'.requestModbusData input.reading).processReflowStep t.retried.presetsHolder
        input.freed |>.bind fun s => .done s.advanceSysTick).state.requestsQueue = [] := by
      rw [requestsQueue_process]
      cases input.reading <;> exact hempty
    rw [hone, htwo, hsame, hleft, hholder, Outcome.bind_done]
    refine ⟨hkept, ?_⟩
    rw [Posted.originals_nil, ← hkept]
  · have hqueue := h.requestsQueue_dispatch tc
    rw [hone] at hqueue
    rw [hone, htwo, hd', hagree.mpr hharmless]
    exact ⟨hqueue, rfl⟩

/-- **Step lemma for the other ticks**: a stage is begun again. -/
theorem InStep.tick_apart (h : t.InStep) (input : TickInput)
    (hduring : ∀ r ∈ t.retries tc, r.DuringRun) (hharm : ¬ ∀ r ∈ t.retries tc, r.Harmless) :
    ¬ (t.apply tc (.operation (.tick input))).Unnoticed := by
  have hholder : t.single.presetsHolder = t.retried.presetsHolder := by rw [h.single]
  have hdispatch := h.dispatch_lockstep hduring
  -- the run of the server without retries has entered a stage, so that stage exists
  have hsingle : RunInvariant t.retried.presetsHolder
      (t.single.reflowController.dispatchCommandsQueue tc t.retried.presetsHolder).state := by
    have hsame : RunInvariant t.retried.presetsHolder t.single.reflowController := by
      rw [h.single]
      exact h.invariant.congr rfl rfl rfl
    exact hsame.dispatchCommandsQueue tc
  suffices hne : stagesEntered (t.retried.reflowController.runnable tc
      t.retried.presetsHolder input).state.trace ≠
        stagesEntered (t.single.reflowController.runnable tc
          t.single.presetsHolder input).state.trace from
    fun hunnoticed => hne hunnoticed.stages
  unfold runnable
  rw [hholder] at hdispatch ⊢
  rcases hdispatch.ends with ⟨c', d', hone, htwo, step, hd', hback, hagree⟩ |
    ⟨e, c', d', hone, htwo, step, hd', hback, hagree⟩
  · obtain ⟨hrun, hinit⟩ := hback.resolve_left (mt hagree.mp hharm)
    rw [htwo, hd'] at hsingle
    rw [hone, htwo, hd']
    obtain ⟨ptr, hptr⟩ := hsingle.selected hrun
    have hlt := hsingle.entered_lt hrun (fun heq => hharm (hagree.mp (heq.trans hinit.symm)))
      ptr hptr
    obtain ⟨queue, data, hread⟩ := sameRun_requestModbusData (c := c') input.reading
    obtain ⟨queue', data', hread'⟩ := sameRun_requestModbusData
      (c := c'.twin (leftover tc t.retried.presetsHolder t.posted t.retried.reflowController) step)
      input.reading
    rw [Outcome.bind_done, Outcome.bind_done, hread, hread']
    have hselected : c'.activePreset ≠ none := Option.ne_none_iff_exists'.mpr ⟨ptr, hptr⟩
    refine Moment.stagesEntered_after_ne tc ⟨t.retried.presetsHolder, .process input.freed, _⟩
      ⟨t.retried.presetsHolder, .process input.freed, _⟩ rfl ⟨⟨_, rfl⟩, hrun, hselected, hinit⟩
      hptr (List.getElem?_eq_getElem hlt) fun hexecutes => ?_
    exact hharm (hagree.mp (hexecutes.step.trans hinit.symm))
  · -- the run would still be on, but commands throw only while idle
    obtain ⟨hrun, -⟩ := hback.resolve_left (mt hagree.mp hharm)
    obtain ⟨-, hidle, -⟩ := dispatchCommandsQueue_raised hone
    rw [hidle] at hrun
    cases hrun

/-- Edits of presets concern the holder only, which is the same in both. -/
theorem InStep.edit (h : t.InStep) {holder : PresetsHolder}
    (hgrow : t.retried.presetsHolder.GrowsTo holder) :
    InStep { t with
      retried.presetsHolder := holder
      single.presetsHolder := holder } where
  queue := h.queue
  single := by rw [h.single]
  invariant := h.invariant.grow hgrow

theorem InStep.onPreset (h : t.InStep) (id : UInt64) {f : Preset → Preset}
    (hf : ∀ p : Preset, p.numStages ≤ (f p).numStages) :
    InStep { t with retried := t.retried.onPreset id f, single := t.single.onPreset id f } := by
  have hgrow : t.retried.presetsHolder.GrowsTo (t.retried.onPreset id f).presetsHolder :=
    Server.growsTo_onPreset hf
  have hholder : t.single.presetsHolder = t.retried.presetsHolder := by rw [h.single]
  cases hl : t.retried.presetsHolder.presetsStorage.lookup id with
  | none =>
    rw [Server.onPreset_of_none f hl, Server.onPreset_of_none f (hholder ▸ hl)]
    exact h
  | some ptr =>
    rw [Server.onPreset_of_lookup f hl] at hgrow ⊢
    rw [Server.onPreset_of_lookup f (hholder ▸ hl), hholder]
    exact h.edit hgrow

theorem InStep.addNewPreset (h : t.InStep) (name : String) :
    InStep { t with
      retried := t.retried.addNewPreset tc name
      single := t.single.addNewPreset tc name } := by
  have hgrow : t.retried.presetsHolder.GrowsTo (t.retried.addNewPreset tc name).presetsHolder :=
    Server.growsTo_addNewPreset name
  have hholder : t.single.presetsHolder = t.retried.presetsHolder := by rw [h.single]
  unfold Server.addNewPreset at hgrow ⊢
  rw [hholder]
  cases hadd : t.retried.presetsHolder.addNewPreset tc name with
  | ok added =>
    rw [hadd] at hgrow
    exact h.edit hgrow
  | error e => exact h

theorem InStep.requestsQueue_single (h : t.InStep) :
    t.single.reflowController.requestsQueue = originals t.posted := by
  rw [h.single]

theorem InStep.post (h : t.InStep) (posted : Posted) :
    InStep { t with
      retried := t.retried.postCommand posted.command
      single.reflowController.requestsQueue := originals (t.posted ++ [posted])
      posted := t.posted ++ [posted] } where
  queue := by
    rw [List.map_append, ← h.queue]
    rfl
  single := by
    rw [h.single]
    rfl
  invariant := h.invariant.congr rfl rfl rfl

/-- **Step lemma.** -/
theorem InStep.step (h : t.InStep) (trial : Trial) (hharm : t.NoHarm tc trial) :
    (t.apply tc trial).InStep := by
  cases trial with
  | retry =>
    have hposted := h.post .retry
    rwa [Posted.originals_append, Posted.originals_retry, Posted.originals_nil, List.append_nil,
      ← h.requestsQueue_single] at hposted
  | operation op =>
    cases op with
    | postCommand command =>
      have hposted := h.post (.original command)
      rwa [Posted.originals_append, ← h.requestsQueue_single] at hposted
    | tick input => exact h.tick input (fun r hr => (hharm r hr).1) fun r hr => (hharm r hr).2
    | addNewPreset name => exact h.addNewPreset name
    | setName id name => exact h.onPreset id fun _ => Nat.le_refl _
    | addStageItem id item => exact h.onPreset id (Preset.numStages_le_addStageItem tc item)
    | replaceStageItem id idx item =>
      exact h.onPreset id (Preset.numStages_le_replaceStageItem tc idx item)

/-- **Run lemma.** -/
theorem inStep_of_reachableVia (h : (trials tc).ReachableVia (NoHarm tc) t) : t.InStep := by
  refine h.invariant (fun t hinit => ?_) fun t trial _ hI hharm => hI.step trial hharm
  obtain ⟨⟨hholder, time, hcontroller⟩, hsingle, hposted⟩ := hinit
  refine ⟨?_, ?_, ?_⟩
  · rw [hcontroller, hposted]
    rfl
  · rw [hsingle, hposted, Posted.originals_nil]
    have hempty : t.retried.reflowController.requestsQueue = [] := by rw [hcontroller]; rfl
    rw [← hempty]
  · rw [hholder, hcontroller]
    exact .make time

/-- **A repeated start is noticed** exactly when it is handled while the step is not `kInitStep`
and no other command sets the step before the next process step. -/
theorem unnoticed_iff (h : (trials tc).ReachableVia (NoHarm tc) t) :
    t.Unnoticed ∧ ∀ input, (∀ r ∈ t.retries tc, r.DuringRun) →
      ((t.apply tc (.operation (.tick input))).Unnoticed ↔ ∀ r ∈ t.retries tc, r.Harmless) := by
  have hI := inStep_of_reachableVia h
  refine ⟨hI.unnoticed, fun input hduring => ⟨fun hunnoticed => ?_, fun hharmless => ?_⟩⟩
  · by_contra hharm
    exact hI.tick_apart input hduring hharm hunnoticed
  · exact (hI.tick input hduring hharmless).unnoticed

/-- Two servers with a preset selected and started, nothing handled yet. -/
def startedTrials : List Trial :=
  [.operation (.addNewPreset "lead"), .operation (.addStageItem 4 ⟨183, 30⟩),
    .operation (.postCommand (.selectPreset 4)), .operation (.postCommand .startReflow)]

/-- Two new servers. -/
def newServers : Servers := ⟨.make, .make, []⟩

theorem startedTrials_reachableVia :
    (trials .sample).ReachableVia (NoHarm .sample)
      ((trials .sample).run newServers startedTrials) :=
  have hinit : (trials .sample).init newServers := ⟨Server.constructed_make, rfl, rfl⟩
  .step (.step (.step (.step (.start hinit) trivial) trivial) trivial) trivial

/-- A retry in the queue of the start itself. -/
theorem unnoticed_iff_startedTrials :
    let t := (trials .sample).run newServers (startedTrials ++ [.retry])
    t.Unnoticed ∧ ((t.apply .sample (.operation Server.silentTick)).Unnoticed ↔
      ∀ r ∈ t.retries .sample, r.Harmless) := by
  have hduring : ∀ r ∈ ((trials .sample).run newServers
      (startedTrials ++ [.retry])).retries .sample, r.DuringRun := by
    decide
  have hiff := unnoticed_iff (.step startedTrials_reachableVia (i := Trial.retry) trivial)
  exact ⟨hiff.1, hiff.2 _ hduring⟩

/-- A retry one tick later, while the first stage preheats: the stage begins again. -/
theorem retry_noticed :
    let t := (trials .sample).run newServers
      (startedTrials ++ [.operation Server.silentTick, .retry])
    (trials .sample).ReachableVia (NoHarm .sample) t ∧
      (∀ r ∈ t.retries .sample, r.DuringRun) ∧
      stagesEntered (t.apply .sample (.operation Server.silentTick)).single.reflowController.trace =
        [(0, 0, ⟨183, 30⟩)] ∧
      stagesEntered (t.apply .sample (.operation Server.silentTick)).retried.reflowController.trace =
        [(0, 0, ⟨183, 30⟩), (0, 0, ⟨183, 30⟩)] ∧
      targetWords (t.apply .sample (.operation Server.silentTick)).retried.reflowController.trace =
        [183, 183] ∧
      ¬ (t.apply .sample (.operation Server.silentTick)).Unnoticed := by
  intro t
  have hsingle : stagesEntered (t.apply .sample
      (.operation Server.silentTick)).single.reflowController.trace = [(0, 0, ⟨183, 30⟩)] := by
    decide
  have hretried : stagesEntered (t.apply .sample
      (.operation Server.silentTick)).retried.reflowController.trace =
        [(0, 0, ⟨183, 30⟩), (0, 0, ⟨183, 30⟩)] := by
    decide
  have htick : NoHarm .sample ((trials .sample).run newServers startedTrials)
      (.operation Server.silentTick) := by
    show ∀ r ∈ ((trials .sample).run newServers startedTrials).retries .sample, _
    decide
  refine ⟨.step (.step startedTrials_reachableVia htick) (i := Trial.retry) trivial, by decide,
    hsingle, hretried, by decide, fun hunnoticed => ?_⟩
  have hstages := hunnoticed.stages
  rw [hsingle, hretried] at hstages
  cases hstages

end Servers

end ReflowTable

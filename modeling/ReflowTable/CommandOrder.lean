import ReflowTable.Lib.Runs
import ReflowTable.Transitions

/-!
# The queue between the threads

The controller with its worker thread cut into the steps between which another thread may get
in. `getOperation` and `postCommand` are atomic under the lock of the queue, so a post falls
before or after each of them, also between two iterations of the dispatch loop; requests may
change the holder as well. `log` records what the worker did, `posted` what the clients did;
nothing reads them.

An uninterrupted tick of this system is `runnable` (`worksTo_runnable`).
-/

namespace ReflowTable

namespace ReflowProcessController

/-- Something the worker does to the controller besides the queue, with what it meets. -/
inductive Deed
  | visit (holder : PresetsHolder) (command : CommandVariant)
  | read (reading : Option ModbusReading)
  | process (holder : PresetsHolder) (freed : StageItem)
  | advance

def Deed.run (tc : Toolchain) : Deed → ReflowProcessController →
    Outcome Fault ReflowProcessController
  | .visit holder command, s => visitCommand tc holder command s
  | .read reading, s => .done (s.requestModbusData reading)
  | .process holder freed, s => s.processReflowStep holder freed
  | .advance, s => .done s.advanceSysTick

/-- The command a deed handles. -/
def Deed.command? : Deed → Option CommandVariant
  | .visit _ command => some command
  | _ => none

/-- What some deeds make of a controller, each as its function left it. -/
def replay (tc : Toolchain) (log : List Deed) (s : ReflowProcessController) :
    ReflowProcessController :=
  log.foldl (fun s deed => (deed.run tc s).state) s

def withQueue (queue : List CommandVariant) (s : ReflowProcessController) :
    ReflowProcessController :=
  { s with requestsQueue := queue }

end ReflowProcessController

open ReflowProcessController

/-- Where the worker thread is in `runnable`. -/
inductive WorkerPlace
  /-- between two calls -/
  | sleeping
  /-- before `getOperation` -/
  | dispatching
  /-- with a command that has left the queue, before its handler -/
  | visiting (command : CommandVariant)
  /-- behind the dispatch loop, before `requestModbusData` -/
  | reading
  /-- before `processReflowStep` -/
  | processing
  /-- before the system time is advanced -/
  | ticking
deriving DecidableEq

/-- The command at hand. -/
def WorkerPlace.inHand : WorkerPlace → List CommandVariant
  | .visiting command => [command]
  | _ => []

/-- The dispatch loop of the tick has returned. -/
def WorkerPlace.dispatched : WorkerPlace → Bool
  | .reading | .processing | .ticking => true
  | _ => false

/-- The controller, its worker and the clients. -/
structure Threads where
  controller : ReflowProcessController
  presetsHolder : PresetsHolder
  place : WorkerPlace
  /-- the commands posted so far -/
  posted : List CommandVariant
  /-- those of them posted before the tick began -/
  postedBefore : List CommandVariant
  log : List Deed

/-- What one thread does next. -/
inductive ThreadStep
  | post (command : CommandVariant)
  | changeHolder (holder : PresetsHolder)
  | work (input : TickInput)

namespace Threads

/-- The commands handed to the handlers so far, the one at hand included. -/
def handed (s : Threads) : List CommandVariant :=
  s.log.filterMap Deed.command? ++ s.place.inHand

/-- The worker does something; an exception ends the tick. -/
def act (tc : Toolchain) (deed : Deed) (next : WorkerPlace) (s : Threads) : Threads :=
  match deed.run tc s.controller with
  | .done c => { s with controller := c, place := next, log := s.log ++ [deed] }
  | .raised _ c => { s with controller := c, place := .sleeping, log := s.log ++ [deed] }

/-- One step of the worker. -/
def work (tc : Toolchain) (input : TickInput) (s : Threads) : Threads :=
  match s.place with
  | .sleeping => { s with place := .dispatching, postedBefore := s.posted }
  | .dispatching =>
    match s.controller.getOperation with
    | none => { s with place := .reading }
    | some (command, c) => { s with controller := c, place := .visiting command }
  | .visiting command => s.act tc (.visit s.presetsHolder command) .dispatching
  | .reading => s.act tc (.read input.reading) .processing
  | .processing => s.act tc (.process s.presetsHolder input.freed) .ticking
  | .ticking => s.act tc .advance .sleeping

def step (tc : Toolchain) (s : Threads) : ThreadStep → Threads
  | .post command =>
    { s with controller := s.controller.postCommand command, posted := s.posted ++ [command] }
  | .changeHolder holder => { s with presetsHolder := holder }
  | .work input => s.work tc input

/-- Before the first tick: a new controller, whatever the holder. -/
def start (holder : PresetsHolder) (stageCompletionTimepoint : ℤ) : Threads where
  controller := .make stageCompletionTimepoint
  presetsHolder := holder
  place := .sleeping
  posted := []
  postedBefore := []
  log := []

/-- The clients and the worker in any interleaving. -/
def interleaving (tc : Toolchain) (holder : PresetsHolder) (stageCompletionTimepoint : ℤ) :
    System Threads ThreadStep where
  init s := s = start holder stageCompletionTimepoint
  step := step tc

end Threads

/-! ## Deeds and the queue

No function of the controller but `getOperation` and `postCommand` looks at the queue or touches
it. -/

namespace ReflowProcessController

variable {tc : Toolchain} {holder : PresetsHolder} {freed : StageItem}
  {s : ReflowProcessController} (queue : List CommandVariant)

variable {queue} in
/-- No branch of a handler looks at the queue. -/
theorem CommandEffect.withQueue {command : CommandVariant}
    {o : Outcome Fault ReflowProcessController} (h : CommandEffect tc holder s command o) :
    ∃ o', CommandEffect tc holder (s.withQueue queue) command o' ∧
      o'.state = o.state.withQueue queue := by
  cases h with
  | startUnselected hnone => exact ⟨_, .startUnselected hnone, rfl⟩
  | start hptr => exact ⟨_, .start hptr, rfl⟩
  | stopIdle hidle => exact ⟨_, .stopIdle hidle, rfl⟩
  | stop hrun => exact ⟨_, .stop hrun, rfl⟩
  | selectRunning hrun => exact ⟨_, .selectRunning hrun, rfl⟩
  | select hidle hl => exact ⟨_, .select hidle hl, rfl⟩
  | selectUnknown hidle hl => exact ⟨_, .selectUnknown hidle hl, rfl⟩
  | setParams => exact ⟨_, .setParams, rfl⟩

variable {queue} in
/-- Nor does one of the process step. -/
theorem StepEffect.withQueue {o : Outcome Fault ReflowProcessController}
    (h : StepEffect holder freed s o) :
    ∃ o', StepEffect holder freed (s.withQueue queue) o' ∧
      o'.state = o.state.withQueue queue := by
  cases h with
  | idle hidle => exact ⟨_, .idle hidle, rfl⟩
  | enter hrun hptr hstep hitem => exact ⟨_, .enter hrun hptr hstep hitem, rfl⟩
  | enterNothing hrun hptr hstep hle => exact ⟨_, .enterNothing hrun hptr hstep hle, rfl⟩
  | preheatNothing hrun hptr hstep hnone => exact ⟨_, .preheatNothing hrun hptr hstep hnone, rfl⟩
  | preheat hrun hptr hstep hsp hskip hband =>
    exact ⟨_, .preheat hrun hptr hstep hsp hskip hband, rfl⟩
  | soak hrun hptr hstep hsp hskip hband => exact ⟨_, .soak hrun hptr hstep hsp hskip hband, rfl⟩
  | dwell hrun hptr hstep hwait => exact ⟨_, .dwell hrun hptr hstep hwait, rfl⟩
  | soakDone hrun hptr hstep hsp htime => exact ⟨_, .soakDone hrun hptr hstep hsp htime, rfl⟩
  | moveOn hrun hptr hover hlt => exact ⟨_, .moveOn hrun hptr hover hlt, rfl⟩
  | finish hrun hptr hover hle => exact ⟨_, .finish hrun hptr hover hle, rfl⟩

theorem visitCommand_withQueue (command : CommandVariant) :
    (visitCommand tc holder command (s.withQueue queue)).state =
      (visitCommand tc holder command s).state.withQueue queue := by
  obtain ⟨o, heffect, hstate⟩ := (visitCommand_effect tc holder command s).withQueue
  rw [heffect.eq, hstate]

theorem processReflowStep_withQueue (s : ReflowProcessController) :
    ((s.withQueue queue).processReflowStep holder freed).state =
      (s.processReflowStep holder freed).state.withQueue queue := by
  obtain ⟨o, heffect, hstate⟩ := (processReflowStep_effect holder freed s).withQueue
  rw [heffect.eq, hstate]

theorem advanceSysTick_withQueue :
    (s.withQueue queue).advanceSysTick = s.advanceSysTick.withQueue queue := by
  cases hrun : s.isReflowRunning <;> simp [advanceSysTick, withQueue, hrun]

/-- **What a deed does does not depend on the queue.** -/
theorem run_withQueue (deed : Deed) (s : ReflowProcessController) :
    (deed.run tc (s.withQueue queue)).state = (deed.run tc s).state.withQueue queue := by
  cases deed with
  | visit holder command => exact visitCommand_withQueue queue command
  | read reading => cases reading <;> rfl
  | process holder freed => exact processReflowStep_withQueue queue s
  | advance => exact advanceSysTick_withQueue queue

/-- **A deed leaves the queue alone.** -/
theorem requestsQueue_run (deed : Deed) (s : ReflowProcessController) :
    (deed.run tc s).state.requestsQueue = s.requestsQueue := by
  have hself : s.withQueue s.requestsQueue = s := rfl
  rw [← hself, run_withQueue]
  rfl

theorem replay_concat (log : List Deed) (deed : Deed) (s : ReflowProcessController) :
    replay tc (log ++ [deed]) s = (deed.run tc (replay tc log s)).state := by
  rw [replay, List.foldl_append]
  rfl

end ReflowProcessController

/-! ## Every interleaving -/

namespace Threads

variable {tc : Toolchain}

/-- What holds at all times. The last field is what lets a dispatch loop that found the queue
empty say something about the commands posted before its tick. -/
structure InOrder (tc : Toolchain) (c₀ : ReflowProcessController) (s : Threads) : Prop where
  order : s.handed ++ s.controller.requestsQueue = s.posted
  effects : s.controller.withQueue [] = replay tc s.log c₀
  drained : s.place.dispatched = true → s.postedBefore <+: s.handed
  postedBefore : s.postedBefore <+: s.posted

variable (tc) in
/-- How a deed leaves the threads: behind it, or asleep after an exception. -/
theorem act_eq (deed : Deed) (next : WorkerPlace) (s : Threads) :
    ∃ place, (place = next ∨ place = .sleeping) ∧
      s.act tc deed next =
        { s with
          controller := (deed.run tc s.controller).state
          place := place
          log := s.log ++ [deed] } := by
  unfold act
  cases deed.run tc s.controller with
  | done c => exact ⟨next, .inl rfl, rfl⟩
  | raised e c => exact ⟨.sleeping, .inr rfl, rfl⟩

variable {c₀ : ReflowProcessController} {s : Threads}

/-- **Step lemma for the deeds**: the command at hand becomes the last one of the log. -/
theorem InOrder.act (h : s.InOrder tc c₀) {deed : Deed} {next : WorkerPlace}
    (hhand : s.place.inHand = deed.command?.toList) (hnext : next.inHand = [])
    (hdispatched : next.dispatched = true → s.place.dispatched = true) :
    (s.act tc deed next).InOrder tc c₀ := by
  obtain ⟨place, hplace, heq⟩ := act_eq tc deed next s
  have hplaceHand : place.inHand = [] := by
    obtain rfl | rfl := hplace
    · exact hnext
    · rfl
  have hplaceDispatched : place.dispatched = true → s.place.dispatched = true := by
    obtain rfl | rfl := hplace
    · exact hdispatched
    · exact fun h => by cases h
  have hhanded : (s.act tc deed next).handed = s.handed := by
    have hone : [deed].filterMap Deed.command? = deed.command?.toList := by cases deed <;> rfl
    rw [heq, handed, handed, hhand, hplaceHand, List.append_nil, List.filterMap_append, hone]
  rw [heq] at hhanded ⊢
  refine ⟨?_, ?_, ?_, h.postedBefore⟩
  · rw [hhanded, requestsQueue_run]
    exact h.order
  · rw [replay_concat, ← h.effects, run_withQueue]
  · intro hdone
    rw [hhanded]
    exact h.drained (hplaceDispatched hdone)

/-- With no command at hand, those handed over are those of the log. -/
theorem handed_of_inHand (h : s.place.inHand = []) :
    s.handed = s.log.filterMap Deed.command? := by
  rw [handed, h, List.append_nil]

/-- **Step lemma for the worker.** -/
theorem InOrder.work (h : s.InOrder tc c₀) (input : TickInput) :
    (s.work tc input).InOrder tc c₀ := by
  unfold Threads.work
  cases hplace : s.place with
  | sleeping =>
    have hhanded := handed_of_inHand (s := s) (by rw [hplace]; rfl)
    refine ⟨?_, h.effects, fun hdone => (by cases hdone), List.prefix_refl _⟩
    show (s.log.filterMap Deed.command? ++ []) ++ s.controller.requestsQueue = s.posted
    rw [List.append_nil, ← hhanded]
    exact h.order
  | dispatching =>
    have hhanded := handed_of_inHand (s := s) (by rw [hplace]; rfl)
    have horder := h.order
    rw [hhanded] at horder
    unfold getOperation
    cases hqueue : s.controller.requestsQueue with
    | nil =>
      -- the queue is empty, so everything posted so far has been handed over
      rw [hqueue, List.append_nil] at horder
      refine ⟨?_, h.effects, fun _ => ?_, h.postedBefore⟩
      · show (s.log.filterMap Deed.command? ++ []) ++ s.controller.requestsQueue = s.posted
        rw [hqueue, List.append_nil, List.append_nil, horder]
      · show s.postedBefore <+: s.log.filterMap Deed.command? ++ []
        rw [List.append_nil, horder]
        exact h.postedBefore
    | cons command rest =>
      refine ⟨?_, h.effects, fun hdone => (by cases hdone), h.postedBefore⟩
      show (s.log.filterMap Deed.command? ++ [command]) ++ rest = s.posted
      rw [← horder, hqueue, List.append_assoc]
      rfl
  | visiting command =>
    exact h.act (by rw [hplace]; rfl) rfl fun hdone => by cases hdone
  | reading => exact h.act (by rw [hplace]; rfl) rfl fun _ => by rw [hplace]; rfl
  | processing => exact h.act (by rw [hplace]; rfl) rfl fun _ => by rw [hplace]; rfl
  | ticking => exact h.act (by rw [hplace]; rfl) rfl fun hdone => by cases hdone

/-- **Step lemma**, whichever thread is next. -/
theorem InOrder.step (h : s.InOrder tc c₀) (i : ThreadStep) : (s.step tc i).InOrder tc c₀ := by
  cases i with
  | post command =>
    refine ⟨?_, h.effects, fun hdone => h.drained hdone, ?_⟩
    · show s.handed ++ (s.controller.requestsQueue ++ [command]) = s.posted ++ [command]
      rw [← List.append_assoc, h.order]
    · exact h.postedBefore.trans (List.prefix_append _ _)
  | changeHolder holder => exact ⟨h.order, h.effects, h.drained, h.postedBefore⟩
  | work input => exact h.work input

theorem inOrder_of_reachable {holder : PresetsHolder} {t : ℤ}
    (hs : (interleaving tc holder t).Reachable s) : s.InOrder tc (.make t) := by
  refine System.Reachable.invariant (M := interleaving tc holder t) ?_ ?_ hs
  · rintro s rfl
    exact ⟨rfl, rfl, fun hdone => (by cases hdone), List.prefix_refl _⟩
  · intro s i h
    exact h.step i

/-- What an exception of a handler leaves: its command is the last one of the log, the worker is
out of the tick, the controller is as the handler left it, and the queue as it was. -/
structure Consumed (command : CommandVariant) (c : ReflowProcessController) (s s' : Threads) :
    Prop where
  place : s'.place = .sleeping
  controller : s'.controller = c
  queue : s'.controller.requestsQueue = s.controller.requestsQueue
  log : s'.log = s.log ++ [.visit s.presetsHolder command]
  handed : s'.log.filterMap Deed.command? = s.log.filterMap Deed.command? ++ [command]
  posted : s'.posted = s.posted

theorem consumed_of_raised {command : CommandVariant} {e : Fault} {c : ReflowProcessController}
    (hplace : s.place = .visiting command)
    (hraised : visitCommand tc s.presetsHolder command s.controller = .raised e c)
    (input : TickInput) : Consumed command c s (s.work tc input) := by
  have hwork : s.work tc input =
      { s with
        controller := c
        place := .sleeping
        log := s.log ++ [.visit s.presetsHolder command] } := by
    simp only [work, hplace, Threads.act, Deed.run, hraised]
  have hqueue : c.requestsQueue = s.controller.requestsQueue := by
    have hvisit := requestsQueue_visitCommand tc s.presetsHolder command s.controller
    rwa [hraised] at hvisit
  rw [hwork]
  refine ⟨rfl, rfl, hqueue, rfl, ?_, rfl⟩
  rw [List.filterMap_append]
  rfl

/-- **Commands are handled once each and in order**, in every state of any interleaving. The
commands handed over and the queue make up the commands posted; the controller is what the
handlers of exactly the commands in the log, with the other deeds between them, made of a new
one; once a dispatch loop has returned every command posted before its tick has been handled; and
a handler that raises has consumed its own command alone. -/
theorem commands_in_order {holder : PresetsHolder} {t : ℤ}
    (hs : (interleaving tc holder t).Reachable s) :
    s.handed ++ s.controller.requestsQueue = s.posted ∧
      s.controller.withQueue [] = replay tc s.log (.make t) ∧
      (s.place.dispatched = true → s.postedBefore <+: s.log.filterMap Deed.command?) ∧
      ∀ command e c, s.place = .visiting command →
        visitCommand tc s.presetsHolder command s.controller = .raised e c →
        ∀ input, Consumed command c s (s.work tc input) := by
  have h := inOrder_of_reachable hs
  refine ⟨h.order, h.effects, fun hdone => ?_, fun command e c hplace hraised input => ?_⟩
  · have hhand : s.place.inHand = [] := by
      cases hplace : s.place with
      | visiting command => rw [hplace] at hdone; cases hdone
      | _ => rfl
    have hdrained := h.drained hdone
    rwa [handed_of_inHand hhand] at hdrained
  · exact consumed_of_raised hplace hraised input

/-- A selection of an unknown preset is at hand, with a stop and a start behind it, the last posted
between two steps of the dispatch loop. -/
theorem commands_in_order_unknownPreset :
    let tick : TickInput := ⟨none, ⟨0, 0⟩⟩
    let s := (interleaving .sample .make 0).run (start .make 0)
      [.post (.selectPreset 7), .post .stopReflow, .work tick, .work tick, .post .startReflow]
    s.place = .visiting (.selectPreset 7) ∧
      s.controller.requestsQueue = [.stopReflow, .startReflow] ∧
      s.handed ++ s.controller.requestsQueue = s.posted ∧
      s.controller.withQueue [] = replay .sample s.log (.make 0) ∧
      (s.place.dispatched = true → s.postedBefore <+: s.log.filterMap Deed.command?) ∧
      Consumed (.selectPreset 7) { s.controller with activePresetId := some 7 } s
        (s.work .sample tick) := by
  intro tick s
  have hs : (interleaving .sample .make 0).Reachable s := System.Reachable.run (.start rfl) _
  have hplace : s.place = .visiting (.selectPreset 7) := by decide
  obtain ⟨horder, heffects, hdispatched, hraised⟩ := commands_in_order hs
  exact ⟨hplace, by decide, horder, heffects, hdispatched, hraised _ _ _ hplace rfl tick⟩

/-! ## Ticks that nobody interrupts -/

variable {holder : PresetsHolder} {t : ℤ} {input : TickInput}

/-- The worker makes some steps, all of them with this input. -/
def WorksTo (tc : Toolchain) (input : TickInput) : Threads → Threads → Prop :=
  Relation.ReflTransGen fun s s' => s' = s.work tc input

variable (tc input) in
theorem worksTo_work (s : Threads) : WorksTo tc input s (s.work tc input) := .single rfl

/-- A deed, as the worker does it. -/
theorem act_done {deed : Deed} {next : WorkerPlace} {c : ReflowProcessController}
    (h : deed.run tc s.controller = .done c) :
    s.act tc deed next = { s with controller := c, place := next, log := s.log ++ [deed] } := by
  rw [Threads.act, h]

theorem act_raised {deed : Deed} {next : WorkerPlace} {e : Fault} {c : ReflowProcessController}
    (h : deed.run tc s.controller = .raised e c) :
    s.act tc deed next =
      { s with controller := c, place := .sleeping, log := s.log ++ [deed] } := by
  rw [Threads.act, h]

variable (tc input) in
/-- The dispatch loop, run to its end or to an exception. -/
theorem worksTo_dispatch {queue : List CommandVariant} (hplace : s.place = .dispatching)
    (hqueue : s.controller.requestsQueue = queue) :
    ∃ s', WorksTo tc input s s' ∧ s'.presetsHolder = s.presetsHolder ∧
      s'.controller = (s.controller.dispatchCommandsQueue tc s.presetsHolder).state ∧
      s'.place = ((s.controller.dispatchCommandsQueue tc s.presetsHolder).error?).elim .reading
        fun _ => .sleeping := by
  rw [dispatchCommandsQueue_eq]
  induction queue generalizing s with
  | nil =>
    have hnone : s.controller.getOperation = none := by rw [getOperation, hqueue]
    have hwork : s.work tc input = { s with place := .reading } := by
      simp only [Threads.work, hplace, hnone]
    rw [hnone]
    refine ⟨_, worksTo_work tc input s, ?_⟩
    rw [hwork]
    exact ⟨rfl, rfl, rfl⟩
  | cons command rest ih =>
    let c : ReflowProcessController := { s.controller with requestsQueue := rest }
    let s₁ : Threads := { s with controller := c, place := .visiting command }
    have htake : s.controller.getOperation = some (command, c) := by rw [getOperation, hqueue]
    have hwork : s.work tc input = s₁ := by simp only [Threads.work, hplace, htake, s₁]
    have htaken : WorksTo tc input s s₁ := hwork ▸ worksTo_work tc input s
    have hvisit : WorksTo tc input s₁ (s₁.act tc (.visit s.presetsHolder command) .dispatching) :=
      worksTo_work tc input s₁
    rw [htake]
    dsimp only
    cases houtcome : visitCommand tc s.presetsHolder command c with
    | raised e c' =>
      rw [act_raised (show Deed.run tc (.visit s.presetsHolder command) s₁.controller = _ from
        houtcome)] at hvisit
      exact ⟨_, htaken.trans hvisit, rfl, rfl, rfl⟩
    | done c' =>
      rw [act_done (show Deed.run tc (.visit s.presetsHolder command) s₁.controller = _ from
        houtcome)] at hvisit
      have hrest : c'.requestsQueue = rest := by
        have hkept := requestsQueue_visitCommand tc s.presetsHolder command c
        rwa [houtcome] at hkept
      obtain ⟨s', hto, hholder, hcontroller, hplace'⟩ := ih
        (s := { s₁ with
          controller := c'
          place := .dispatching
          log := s₁.log ++ [.visit s.presetsHolder command] }) rfl hrest
      rw [Outcome.bind_done, dispatchCommandsQueue_eq]
      exact ⟨s', (htaken.trans hvisit).trans hto, hholder, hcontroller, hplace'⟩

variable (tc input) in
/-- What follows the dispatch loop. -/
theorem worksTo_process (hplace : s.place = .reading) :
    ∃ s', WorksTo tc input s s' ∧ s'.place = .sleeping ∧ s'.presetsHolder = s.presetsHolder ∧
      s'.controller =
        (((s.controller.requestModbusData input.reading).processReflowStep s.presetsHolder
          input.freed).bind fun s => .done s.advanceSysTick).state := by
  let s₁ : Threads := { s with
    controller := s.controller.requestModbusData input.reading
    place := .processing
    log := s.log ++ [.read input.reading] }
  have hread : s.work tc input = s₁ := by
    simp only [Threads.work, hplace]
    exact act_done rfl
  have hfirst : WorksTo tc input s s₁ := hread ▸ worksTo_work tc input s
  have hsecond : WorksTo tc input s₁
      (s₁.act tc (.process s.presetsHolder input.freed) .ticking) := worksTo_work tc input s₁
  cases houtcome : s₁.controller.processReflowStep s.presetsHolder input.freed with
  | raised e c =>
    rw [act_raised (show Deed.run tc (.process s.presetsHolder input.freed) s₁.controller = _ from
      houtcome)] at hsecond
    exact ⟨_, hfirst.trans hsecond, rfl, rfl, rfl⟩
  | done c =>
    rw [act_done (show Deed.run tc (.process s.presetsHolder input.freed) s₁.controller = _ from
      houtcome)] at hsecond
    exact ⟨_, (hfirst.trans hsecond).trans (worksTo_work tc input _), rfl, rfl, rfl⟩

/-- **An uninterrupted tick is `runnable`.** -/
theorem worksTo_runnable (hplace : s.place = .sleeping) :
    ∃ s', WorksTo tc input s s' ∧ s'.place = .sleeping ∧ s'.presetsHolder = s.presetsHolder ∧
      s'.controller = (s.controller.runnable tc s.presetsHolder input).state := by
  have hbegin : s.work tc input = { s with place := .dispatching, postedBefore := s.posted } := by
    simp only [Threads.work, hplace]
  have hbegun := worksTo_work tc input s
  rw [hbegin] at hbegun
  obtain ⟨s₁, hdispatch, hholder, hcontroller, hplace₁⟩ :=
    worksTo_dispatch tc input
      (s := { s with place := .dispatching, postedBefore := s.posted }) rfl rfl
  have hdispatched := hbegun.trans hdispatch
  change s₁.presetsHolder = s.presetsHolder at hholder
  change s₁.controller =
    (s.controller.dispatchCommandsQueue tc s.presetsHolder).state at hcontroller
  unfold runnable
  cases houtcome : s.controller.dispatchCommandsQueue tc s.presetsHolder with
  | raised e c =>
    rw [houtcome] at hcontroller hplace₁
    exact ⟨s₁, hdispatched, hplace₁, hholder, hcontroller⟩
  | done c =>
    rw [houtcome] at hcontroller hplace₁
    obtain ⟨s₂, hprocess, hplace₂, hholder₂, hcontroller₂⟩ :=
      worksTo_process tc input hplace₁
    rw [hcontroller, hholder] at hcontroller₂
    exact ⟨s₂, hdispatched.trans hprocess, hplace₂, hholder₂.trans hholder, hcontroller₂⟩

end Threads

end ReflowTable

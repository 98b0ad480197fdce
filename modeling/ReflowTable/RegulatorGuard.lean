import ReflowTable.Handlers

/-!
# Regulator writes during a run

`SetRegulatorParams` is refused while a run is on, but the test is made when the request is
handled and the registers are written when the queue is drained. A `StartReflow` that waits in
the queue before the parameters makes a run in between. These are the only writes to the
regulator registers during a run.
-/

namespace ReflowTable

open ReflowProcessController

/-- No write to the regulator registers was made during a run. -/
def RegulatorsKept (trace : List Effect) : Prop :=
  ∀ call, Effect.registersWrite call true ∈ trace →
    call.wordAt kFactorAddr = none ∧ call.wordAt kHysteresisAddr = none

namespace RegulatorsKept

theorem append {t u : List Effect} (ht : RegulatorsKept t) (hu : RegulatorsKept u) :
    RegulatorsKept (t ++ u) := fun call hmem =>
  (List.mem_append.mp hmem).elim (ht call) (hu call)

theorem nil : RegulatorsKept [] := fun _ hmem => absurd hmem List.not_mem_nil

theorem registersWrite_idle (call : RegistersWrite) :
    RegulatorsKept [.registersWrite call false] := fun _ hmem => by simp at hmem

/-- The target register is none of the two. -/
theorem registersWrite_target (word : UInt16) (running : Bool) :
    RegulatorsKept [.registersWrite ⟨kTargetTemperatureAddr, [word]⟩ running] := by
  intro call hmem
  obtain ⟨rfl, -⟩ := Effect.registersWrite.inj (List.mem_singleton.mp hmem)
  rw [wordAt_single, wordAt_single]
  exact ⟨if_neg (by decide), if_neg (by decide)⟩

theorem stageEntered (ptr : PresetPtr) (idx : ℕ) (item : StageItem) :
    RegulatorsKept [.stageEntered ptr idx item] := fun _ hmem => by simp at hmem

/-- The process step writes the target register only. -/
theorem process {h : PresetsHolder} {freed : StageItem} {c c' : ReflowProcessController}
    (hstep : ProcessChange h freed c c') (hc : RegulatorsKept c.trace) :
    RegulatorsKept c'.trace := by
  cases hstep with
  | enter =>
    exact hc.append (append (stageEntered _ _ _) (registersWrite_target _ _))
  | finish => exact hc.append (registersWrite_target _ _)
  | _ => exact hc

end RegulatorsKept

namespace Server

variable {lib : Libraries} {tc : Toolchain} {s : Server}

/-- In the queue a `StartReflow` that takes effect stands before regulator parameters, without
a `StopReflow` between them: what comes before it leaves a preset selected. -/
def StartBeforeRegulators (s : Server) : Prop :=
  ∃ pre mid params post,
    s.reflowController.requestsQueue =
      pre ++ .startReflow :: (mid ++ .setRegulatorParams params :: post) ∧
    .stopReflow ∉ mid ∧
    ∃ sel, s.reflowController.selection.drain s.presetsHolder pre = some sel ∧ sel.preset ≠ none

/-- The guard of the handler as far as it goes: a run finds no parameters in the queue. -/
def GuardedQueue (c : ReflowProcessController) : Prop :=
  c.isReflowRunning = true → ∀ params, .setRegulatorParams params ∉ c.requestsQueue

/-- A tick leaves an empty queue behind, or an idle controller. -/
theorem guardedQueue_runnable (holder : PresetsHolder) (input : TickInput)
    (c : ReflowProcessController) : GuardedQueue (c.runnable tc holder input).state := by
  unfold ReflowProcessController.runnable
  cases hdispatch : c.dispatchCommandsQueue tc holder with
  | raised e c₁ =>
    -- commands are left in the queue, but a handler throws only while no run is on
    obtain ⟨-, hidle, -⟩ := dispatchCommandsQueue_raised hdispatch
    intro hrun
    rw [Outcome.bind_raised, Outcome.state_raised, hidle] at hrun
    cases hrun
  | done c₁ =>
    -- the loop has emptied the queue, and the process step posts nothing
    have hread : (c₁.requestModbusData input.reading).requestsQueue = [] := by
      rw [← requestsQueue_dispatchCommandsQueue hdispatch]
      cases input.reading <;> rfl
    have hqueue := (process_follows holder input.freed).keeps
      (I := fun c => c.requestsQueue = [])
      (fun _ _ hstep heq => hstep.requestsQueue_eq.trans heq) _ hread
    intro _ params
    rw [Outcome.bind_done, hqueue]
    exact List.not_mem_nil

/-- **The guard holds for posting.** -/
theorem guardedQueue_of_reachable (hs : (service lib).Reachable s) :
    GuardedQueue s.reflowController := by
  refine System.Reachable.invariant (M := service lib)
    (I := fun s => GuardedQueue s.reflowController) ?_ ?_ hs
  · rintro s ⟨-, t, hcontroller⟩ hrun
    rw [hcontroller] at hrun
    cases hrun
  · intro s e hguarded
    cases e with
    | request req =>
      show GuardedQueue (s.handle lib req).2.reflowController
      rcases handle_controller lib req s with heq | ⟨command, heq, hidle⟩
      · rw [heq]
        exact hguarded
      · rw [heq]
        intro hrun params hmem
        rcases List.mem_append.mp hmem with hmem | hmem
        · exact hguarded hrun params hmem
        · have hnot := hidle params (List.mem_singleton.mp hmem).symm
          rw [show s.reflowController.isReflowRunning = true from hrun] at hnot
          cases hnot
    | tick input => exact guardedQueue_runnable s.presetsHolder input s.reflowController

/-- The commands before a `SetRegulatorParams` in a guarded queue leave a run on only in the
way described. -/
theorem startBeforeRegulators_of_running (hguarded : GuardedQueue s.reflowController)
    {pre post : List CommandVariant} {params : RegulatorParams}
    (hqueue : s.reflowController.requestsQueue = pre ++ .setRegulatorParams params :: post)
    {sel : Selection}
    (hdrain : s.reflowController.selection.drain s.presetsHolder pre = some sel)
    (hrun : sel.running = true) : s.StartBeforeRegulators := by
  have hidle : s.reflowController.selection.running = false := by
    by_contra hnot
    refine hguarded (Bool.not_eq_false _ ▸ hnot) params ?_
    rw [hqueue]
    exact List.mem_append_right _ List.mem_cons_self
  obtain ⟨a, b, rfl, hstop, hpreset⟩ :=
    (Selection.drain_running_iff hidle pre).mp ⟨sel, hdrain, hrun⟩
  exact ⟨a, b, params, post, by rw [hqueue]; simp, hstop, hpreset⟩

variable (tc) in
/-- Without such a queue the dispatch loop keeps the registers. -/
theorem regulatorsKept_dispatch (hguarded : GuardedQueue s.reflowController)
    (hnot : ¬ s.StartBeforeRegulators) (hkept : RegulatorsKept s.reflowController.trace) :
    RegulatorsKept (s.reflowController.dispatchCommandsQueue tc s.presetsHolder).state.trace := by
  refine Outcome.sweep_state_of
    (I := fun c : ReflowProcessController => RegulatorsKept c.trace) hkept ?_
  intro pre command post c hqueue hpre hc
  -- a `SetRegulatorParams` writes the two registers, any other command the target at most
  by_cases hcommand : ∃ params, command = .setRegulatorParams params
  · obtain ⟨params, rfl⟩ := hcommand
    have hdrain : s.reflowController.selection.drain s.presetsHolder pre = some c.selection := by
      rw [← sweep_drain tc, hpre]
      rfl
    have hidle : c.isReflowRunning = false := by
      by_contra hrun
      exact hnot (startBeforeRegulators_of_running hguarded hqueue hdrain
        (Bool.not_eq_false _ ▸ hrun))
    refine hc.append ?_
    show RegulatorsKept [.registersWrite _ c.isReflowRunning]
    rw [hidle]
    exact RegulatorsKept.registersWrite_idle _
  · rcases trace_handleOperation tc s.presetsHolder
      (fun params heq => hcommand ⟨params, heq⟩) c with htrace | htrace
    · rw [htrace]
      exact hc
    · rw [htrace]
      exact hc.append (RegulatorsKept.registersWrite_target _ _)

variable (tc) in
/-- With such a queue it does not. -/
theorem not_regulatorsKept_dispatch (hstart : s.StartBeforeRegulators) :
    ¬ RegulatorsKept (s.reflowController.dispatchCommandsQueue tc s.presetsHolder).state.trace := by
  obtain ⟨pre, mid, params, post, hqueue, hstop, sel, hdrain, hpreset⟩ := hstart
  have hsplit : s.reflowController.requestsQueue =
      (pre ++ .startReflow :: mid) ++ (.setRegulatorParams params :: post) := by
    rw [hqueue]
    simp
  have hdone := sweep_drain tc s.presetsHolder (pre ++ .startReflow :: mid)
    s.reflowController
  rw [Selection.drain_startReflow hdrain hpreset hstop] at hdone
  cases hsweep : Outcome.sweep (handleOperation tc s.presetsHolder) (pre ++ .startReflow :: mid)
      s.reflowController with
  | raised e c => simp [hsweep] at hdone
  | done c =>
    have hrun : c.isReflowRunning = true := by
      rw [hsweep, Outcome.done?_done, Option.map_some, Option.some.injEq] at hdone
      exact congrArg Selection.running hdone
    -- the write of this command stays in the trace whatever the commands behind it do
    let c₁ : ReflowProcessController :=
      ReflowProcessController.setRegulatorParams tc params
        { c with requestsQueue := c.requestsQueue.tail }
    have hprefix := trace_prefix_sweep tc s.presetsHolder post c₁
    have hwrite : Effect.registersWrite
        ⟨kFactorAddr, [tc.toUInt16 params.k, params.hysteresis.toUInt16]⟩ true ∈ c₁.trace := by
      simp [c₁, ReflowProcessController.setRegulatorParams, hrun]
    intro hkept
    have hmem := hprefix.subset hwrite
    rw [dispatchCommandsQueue, hsplit, Outcome.sweep_append, hsweep, Outcome.bind_done] at hkept
    have hnone := (hkept _ hmem).1
    simp [RegistersWrite.wordAt] at hnone

/-- **A tick writes the regulator registers during a run exactly when a `StartReflow` stands
before them in the queue.** -/
theorem regulatorsKept_tick_iff (hguarded : GuardedQueue s.reflowController)
    (hkept : RegulatorsKept s.reflowController.trace) (input : TickInput) :
    RegulatorsKept (s.tick tc input).reflowController.trace ↔ ¬ s.StartBeforeRegulators := by
  constructor
  · intro htick hstart
    refine not_regulatorsKept_dispatch tc hstart fun call hmem => htick call ?_
    exact (trace_dispatch_extends input s.reflowController).subset hmem
  · intro hnot
    have hdispatch := regulatorsKept_dispatch tc hguarded hnot hkept
    show RegulatorsKept (s.reflowController.runnable tc s.presetsHolder input).state.trace
    unfold ReflowProcessController.runnable
    refine Outcome.state_bind_of
      (I := fun c : ReflowProcessController => RegulatorsKept c.trace) hdispatch fun c hc => ?_
    refine (process_follows s.presetsHolder input.freed).keeps
      (I := fun c : ReflowProcessController => RegulatorsKept c.trace)
      (fun _ _ hstep hc => RegulatorsKept.process hstep hc) _ ?_
    cases input.reading <;> exact hc

/-- At a tick no `StartReflow` stands before regulator parameters. -/
def RegulatorsFirst (s : Server) (e : Event) : Prop :=
  ∀ input, e = .tick input → ¬ s.StartBeforeRegulators

/-- **No regulator change during a run**, in every state the service reaches while no tick finds
a `StartReflow` before regulator parameters; the first tick that does makes one. -/
theorem regulators_kept_iff (hs : (service lib).ReachableVia RegulatorsFirst s) :
    RegulatorsKept s.reflowController.trace ∧
      ∀ input, RegulatorsKept (s.tick lib.toToolchain input).reflowController.trace ↔
        ¬ s.StartBeforeRegulators := by
  have hkept : RegulatorsKept s.reflowController.trace := by
    refine System.ReachableVia.invariant (M := service lib)
      (I := fun s => RegulatorsKept s.reflowController.trace) ?_ ?_ hs
    · rintro s ⟨-, t, hcontroller⟩
      rw [hcontroller]
      exact RegulatorsKept.nil
    · intro s e hs hkept hok
      cases e with
      | request req =>
        show RegulatorsKept (s.handle lib req).2.reflowController.trace
        rcases handle_controller lib req s with heq | ⟨command, heq, -⟩ <;>
          rw [heq] <;> exact hkept
      | tick input =>
        exact (regulatorsKept_tick_iff (guardedQueue_of_reachable hs.reachable) hkept input).mpr
          (hok input rfl)
  exact ⟨hkept, regulatorsKept_tick_iff (guardedQueue_of_reachable hs.reachable) hkept⟩

/-- Parameters that stand before a start, a tick that handles the queue, and parameters that are
refused during the run. -/
def guardedSession : List Event :=
  .request (.setRegulatorParams (asciiBytes regulatorText)) :: startSession ++
    [.tick ⟨none, ⟨0, 0⟩⟩, .request (.setRegulatorParams (asciiBytes regulatorText))]

/-- Only ticks are judged. -/
theorem reachableVia_requests (hs : (service lib).ReachableVia RegulatorsFirst s)
    {events : List Event} (hrequests : ∀ input, .tick input ∉ events) :
    (service lib).ReachableVia RegulatorsFirst ((service lib).run s events) := by
  refine hs.run fun pre e post heq input htick => ?_
  have hmem : e ∈ events := by
    rw [heq]
    exact List.mem_append_right pre List.mem_cons_self
  exact absurd (htick ▸ hmem) (hrequests input)

/-- The registers are written before the run and not in it. -/
theorem regulators_kept_iff_guardedSession :
    let s := (service sessionLibraries).run make guardedSession
    s.reflowController.isReflowRunning = true ∧
      Effect.registersWrite ⟨kFactorAddr, [1, 3]⟩ false ∈ s.reflowController.trace ∧
      RegulatorsKept s.reflowController.trace ∧
      ∀ input, RegulatorsKept (s.tick .sample input).reflowController.trace ↔
        ¬ s.StartBeforeRegulators := by
  let s₁ := (service sessionLibraries).run make
    (.request (.setRegulatorParams (asciiBytes regulatorText)) :: startSession)
  have hqueue : s₁.reflowController.requestsQueue =
      [.setRegulatorParams ⟨1, 3⟩, .selectPreset 4, .startReflow] := by decide +kernel
  -- behind the start there is nothing
  have hfirst : ¬ s₁.StartBeforeRegulators := by
    rintro ⟨pre, mid, params, post, hsplit, -⟩
    rw [hqueue] at hsplit
    rcases pre with _ | ⟨_, _ | ⟨_, _ | ⟨_, pre⟩⟩⟩ <;> simp at hsplit
  have hs₁ : (service sessionLibraries).ReachableVia RegulatorsFirst s₁ :=
    reachableVia_requests (.start constructed_make) fun input => by simp [startSession]
  have hs : (service sessionLibraries).ReachableVia RegulatorsFirst
      ((service sessionLibraries).run make guardedSession) :=
    .step (.step hs₁ fun input _ => hfirst) fun _ heq => by cases heq
  exact ⟨by decide +kernel, by decide +kernel, regulators_kept_iff hs⟩

/-- Parameters posted behind a start are written during the run it begins. -/
theorem not_regulatorsKept_startSession :
    let s := (service sessionLibraries).run make
      (startSession ++ [.request (.setRegulatorParams (asciiBytes regulatorText)),
        .tick ⟨none, ⟨0, 0⟩⟩])
    (service sessionLibraries).Reachable s ∧
      Effect.registersWrite ⟨kFactorAddr, [1, 3]⟩ true ∈ s.reflowController.trace ∧
      ¬ RegulatorsKept s.reflowController.trace := by
  have hmem : Effect.registersWrite ⟨kFactorAddr, [1, 3]⟩ true ∈
      ((service sessionLibraries).run make
        (startSession ++ [.request (.setRegulatorParams (asciiBytes regulatorText)),
          .tick ⟨none, ⟨0, 0⟩⟩])).reflowController.trace := by decide +kernel
  exact ⟨System.Reachable.run (.start constructed_make) _, hmem, fun hkept =>
    absurd (hkept _ hmem).1 (by decide)⟩

end Server

end ReflowTable

import ReflowTable.Interleavings
import ReflowTable.StageAccess

/-!
# The worker thread and its end

`async_executor.cpp` with the lambda `postInitCall` hands to it. The thread belongs to the
executor, the executor to the controller's implementation object, and the lambda holds that object
through a `std::weak_ptr` which it locks for the length of a tick. So the last reference may be
given up by the owner, whose `~jthread` then waits for the loop, or by the thread itself, whose
`~jthread` then joins its own thread; `join` throws, and the destructor is `noexcept`. An exception
that leaves a tick ends the process as well.

Ticks are atomic here, see `ReflowTable.Interleavings`.
-/

namespace ReflowTable

/-! ## Ticks that return -/

namespace Server

variable {tc : Toolchain} {s : Server}

/-- The queue selects no unknown preset while idle, and does not leave a run on a preset without
stages. -/
def QueueSound (s : Server) : Prop :=
  ∃ sel, s.drained = some sel ∧
    ∀ ptr, sel = ⟨true, some ptr⟩ → 0 < (s.presetsHolder.objects ptr).numStages

/-- **A tick returns exactly on a sound queue**, whatever it reads. -/
theorem error?_runnable_eq_none_iff (hs : (operations tc).Reachable s) (input : TickInput) :
    (s.runnable tc input).error? = none ↔ s.QueueSound := by
  have hdrain := ReflowProcessController.dispatchCommandsQueue_drain tc s.presetsHolder
    s.reflowController
  have hkeeps := (RunInvariant.of_reachable hs).dispatchCommandsQueue tc
  unfold QueueSound drained
  rw [← hdrain]
  cases hdispatch : s.reflowController.dispatchCommandsQueue tc s.presetsHolder with
  | raised e c =>
    rw [error?_runnable_of_raised hdispatch input]
    simp
  | done c =>
    rw [hdispatch] at hkeeps
    have hI : RunInvariant s.presetsHolder (c.requestModbusData input.reading) := by
      cases input.reading <;> exact hkeeps.congr rfl rfl rfl
    have hsel : (c.requestModbusData input.reading).selection = c.selection := by
      cases input.reading <;> rfl
    rw [error?_runnable_of_done hdispatch input]
    simp only [Outcome.done?_done, Option.map_some, Option.some.injEq, exists_eq_left', ← hsel]
    constructor
    · intro hnone ptr hptr
      by_contra hempty
      rw [processReflowStep_of_empty hI hptr (Nat.eq_zero_of_not_pos hempty)] at hnone
      cases hnone
    · exact processReflowStep_of_stages hI

end Server

/-! ## The threads -/

/-- Where the thread is in the loop of `AsyncExecutorImpl::start`. -/
inductive LoopPlace
  /-- before `stop_requested` -/
  | checking
  /-- before `pWeakThis.lock` -/
  | locking
  /-- with `pStrongThis`, before `runnable` -/
  | calling
  /-- behind `runnable`, before `pStrongThis` is given up -/
  | returning
  /-- in `sleep_for` -/
  | sleeping
  /-- behind the loop -/
  | left
deriving DecidableEq

/-- What the thread that made the `ReflowProcessController` has come to. -/
inductive OwnerPlace
  | owning
  /-- in `~jthread`, before the loop is left -/
  | joining
  /-- behind `~ReflowProcessController` -/
  | released
deriving DecidableEq

structure Process where
  server : Server
  loop : LoopPlace
  owner : OwnerPlace
  stopRequested : Bool
  /-- `~ReflowProcessControllerImpl` has been called -/
  destroyed : Bool
  /-- `std::terminate` has been called -/
  terminated : Bool
  /-- the ticks begun so far -/
  ticks : ℕ

/-- What a thread does next. -/
inductive ProcessStep
  | edit (edit : Edit)
  | post (command : CommandVariant)
  /-- `AsyncExecutor::stop` -/
  | stop
  /-- `~ReflowProcessController` -/
  | release
  /-- the `join` of its `~jthread` returns -/
  | join
  | work (input : TickInput)

def ProcessStep.isWork : ProcessStep → Bool
  | .work _ => true
  | _ => false

namespace Process

/-- `pStrongThis` is not null. -/
def holds (s : Process) : Bool := s.loop = .calling ∨ s.loop = .returning

/-- The number of references to the implementation object. -/
def useCount (s : Process) : ℕ := (decide (s.owner = .owning)).toNat + s.holds.toNat

/-- The loop, one step at a time. -/
def work (tc : Toolchain) (input : TickInput) (s : Process) : Process :=
  match s.loop with
  | .checking => { s with loop := if s.stopRequested then .left else .locking }
  | .locking =>
    if s.useCount = 0 then { s with loop := .sleeping }
    else { s with loop := .calling, ticks := s.ticks + 1 }
  | .calling =>
    { s with
      server := s.server.tick tc input
      loop := .returning
      -- nobody catches what leaves the thread function
      terminated := (s.server.runnable tc input).error?.isSome }
  | .returning =>
    if s.owner = .owning then { s with loop := .sleeping }
    else
      -- the last reference: the thread destroys the executor it runs on
      { s with loop := .sleeping, destroyed := true, stopRequested := true, terminated := true }
  | .sleeping => { s with loop := .checking }
  | .left => s

/-- The last reference is given up outside the thread, or there is another one. -/
def release (s : Process) : Process :=
  if s.owner = .owning then
    if s.holds then { s with owner := .released }
    else { s with owner := .joining, destroyed := true, stopRequested := true }
  else s

/-- One step of some thread. Only who owns the controller can call it. -/
def act (tc : Toolchain) (s : Process) : ProcessStep → Process
  | .edit edit =>
    if s.owner = .owning then { s with server := s.server.apply tc edit.operation } else s
  | .post command =>
    if s.owner = .owning then { s with server := s.server.postCommand command } else s
  | .stop => if s.owner = .owning then { s with stopRequested := true } else s
  | .release => s.release
  | .join => if s.owner = .joining ∧ s.loop = .left then { s with owner := .released } else s
  | .work input => s.work tc input

/-- Nobody does anything in a process that has been terminated. -/
def step (tc : Toolchain) (s : Process) (i : ProcessStep) : Process :=
  if s.terminated then s else s.act tc i

/-- Behind `postInitCall`. -/
def start (t : ℤ) : Process where
  server := ⟨.make, .make t⟩
  loop := .checking
  owner := .owning
  stopRequested := false
  destroyed := false
  terminated := false
  ticks := 0

def execution (tc : Toolchain) : System Process ProcessStep where
  init s := ∃ t, s = start t
  step := step tc

variable {tc : Toolchain} {s : Process}

@[simp] theorem holds_eq_true : s.holds = true ↔ s.loop = .calling ∨ s.loop = .returning := by
  simp [holds]

theorem holds_eq_false : s.holds = false ↔ s.loop ≠ .calling ∧ s.loop ≠ .returning := by
  simp [holds]

theorem step_of_terminated (h : s.terminated = true) (i : ProcessStep) : s.step tc i = s :=
  if_pos h

theorem step_of_alive (h : s.terminated = false) (i : ProcessStep) : s.step tc i = s.act tc i :=
  if_neg (by simp [h])

/-! ### The loop step by step -/

theorem work_of_checking (h : s.loop = .checking) (input : TickInput) :
    s.work tc input = { s with loop := if s.stopRequested then .left else .locking } := by
  simp only [work, h]

theorem work_of_locking (h : s.loop = .locking) (input : TickInput) :
    s.work tc input =
      if s.owner = .owning then { s with loop := .calling, ticks := s.ticks + 1 }
      else { s with loop := .sleeping } := by
  have hcount : s.useCount = 0 ↔ ¬ s.owner = .owning := by
    simp [useCount, holds, h]
  simp only [work, h, hcount, ite_not]

theorem work_of_calling (h : s.loop = .calling) (input : TickInput) :
    s.work tc input =
      { s with
        server := s.server.tick tc input
        loop := .returning
        terminated := (s.server.runnable tc input).error?.isSome } := by
  simp only [work, h]

theorem work_of_returning (h : s.loop = .returning) (input : TickInput) :
    s.work tc input =
      if s.owner = .owning then { s with loop := .sleeping }
      else { s with
        loop := .sleeping, destroyed := true, stopRequested := true, terminated := true } := by
  simp only [work, h]

theorem work_of_sleeping (h : s.loop = .sleeping) (input : TickInput) :
    s.work tc input = { s with loop := .checking } := by
  simp only [work, h]

theorem work_of_left (h : s.loop = .left) (input : TickInput) : s.work tc input = s := by
  simp only [work, h]

/-! ## Who holds the object -/

/-- What the owner and the thread have come to, as long as the process runs. -/
inductive Phase (s : Process) : Prop
  | owned : s.owner = .owning → s.destroyed = false → (s.loop = .left → s.stopRequested = true) →
      Phase s
  | joining : s.owner = .joining → s.destroyed = true → s.stopRequested = true →
      s.holds = false → Phase s
  | ended : s.owner = .released → s.destroyed = true → s.stopRequested = true →
      s.loop = .left → Phase s
  /-- the owner gave up its reference within a tick -/
  | orphaned : s.owner = .released → s.destroyed = false → s.holds = true → Phase s
  | terminated : s.terminated = true → Phase s

namespace Phase

theorem work (h : Phase s) (halive : s.terminated = false) (input : TickInput) :
    Phase (s.work tc input) := by
  cases hloop : s.loop with
  | checking =>
    rw [work_of_checking hloop]
    cases h with
    | owned howner hlive _ =>
      refine .owned howner hlive fun hleft => ?_
      by_contra hstop
      simp [hstop] at hleft
    | joining howner hdead hstop _ =>
      exact .joining howner hdead hstop (by simp [holds, hstop])
    | ended _ _ _ hleft => simp [hloop] at hleft
    | orphaned _ _ hholds => simp [hloop] at hholds
    | terminated hdead => simp [halive] at hdead
  | locking =>
    rw [work_of_locking hloop]
    cases h with
    | owned howner hlive _ =>
      rw [if_pos howner]
      exact .owned howner hlive nofun
    | joining howner hdead hstop _ =>
      rw [if_neg (by simp [howner])]
      exact .joining howner hdead hstop rfl
    | ended _ _ _ hleft => simp [hloop] at hleft
    | orphaned _ _ hholds => simp [hloop] at hholds
    | terminated hdead => simp [halive] at hdead
  | calling =>
    rw [work_of_calling hloop]
    cases h with
    | owned howner hlive _ => exact .owned howner hlive nofun
    | joining _ _ _ hholds => simp [holds, hloop] at hholds
    | ended _ _ _ hleft => simp [hloop] at hleft
    | orphaned howner hlive _ => exact .orphaned howner hlive rfl
    | terminated hdead => simp [halive] at hdead
  | returning =>
    rw [work_of_returning hloop]
    split_ifs with howner
    · cases h with
      | owned howner hlive _ => exact .owned howner hlive nofun
      | joining howner' => simp [howner] at howner'
      | ended howner' => simp [howner] at howner'
      | orphaned howner' => simp [howner] at howner'
      | terminated hdead => simp [halive] at hdead
    · exact .terminated rfl
  | sleeping =>
    rw [work_of_sleeping hloop]
    cases h with
    | owned howner hlive _ => exact .owned howner hlive nofun
    | joining howner hdead hstop _ => exact .joining howner hdead hstop rfl
    | ended _ _ _ hleft => simp [hloop] at hleft
    | orphaned _ _ hholds => simp [hloop] at hholds
    | terminated hdead => simp [halive] at hdead
  | left =>
    rw [work_of_left hloop]
    exact h

theorem withServer (h : Phase s) (server : Server) : Phase { s with server } := by
  cases h with
  | owned howner hlive hleft => exact .owned howner hlive hleft
  | joining howner hdead hstop hholds => exact .joining howner hdead hstop hholds
  | ended howner hdead hstop hleft => exact .ended howner hdead hstop hleft
  | orphaned howner hlive hholds => exact .orphaned howner hlive hholds
  | terminated hdead => exact .terminated hdead

theorem release (h : Phase s) : Phase s.release := by
  unfold Process.release
  split_ifs with howner hholds
  · cases h with
    | owned _ hlive _ => exact .orphaned rfl hlive hholds
    | terminated hdead => exact .terminated hdead
    | joining howner' | ended howner' | orphaned howner' => simp [howner] at howner'
  · exact .joining rfl rfl rfl (Bool.eq_false_iff.mpr hholds)
  · exact h

theorem act (h : Phase s) (halive : s.terminated = false) (i : ProcessStep) :
    Phase (s.act tc i) := by
  cases i with
  | work input => exact h.work halive input
  | edit edit =>
    dsimp only [Process.act]
    split_ifs
    · exact h.withServer _
    · exact h
  | post command =>
    dsimp only [Process.act]
    split_ifs
    · exact h.withServer _
    · exact h
  | stop =>
    dsimp only [Process.act]
    split_ifs with howner
    · cases h with
      | owned _ hlive _ => exact .owned howner hlive fun _ => rfl
      | terminated hdead => exact .terminated hdead
      | joining howner' | ended howner' | orphaned howner' => simp [howner] at howner'
    · exact h
  | release => exact h.release
  | join =>
    dsimp only [Process.act]
    split_ifs with hjoin
    · cases h with
      | joining _ hdead hstop _ => exact .ended rfl hdead hstop hjoin.2
      | terminated hdead => exact .terminated hdead
      | owned howner' | ended howner' | orphaned howner' => simp [hjoin.1] at howner'
    · exact h

/-- **Step lemma.** -/
theorem step (h : Phase s) (i : ProcessStep) : Phase (s.step tc i) := by
  cases halive : s.terminated with
  | true => rwa [step_of_terminated halive]
  | false =>
    rw [step_of_alive halive]
    exact h.act halive i

theorem of_reachable (hs : (execution tc).Reachable s) : Phase s := by
  refine System.Reachable.invariant (I := Phase) ?_ ?_ hs
  · rintro s ⟨t, rfl⟩
    exact .owned rfl rfl nofun
  · intro s i h
    exact h.step i

end Phase

/-- **Nothing is used after it has been destroyed.** As long as the process runs, the object is
destroyed exactly when nobody holds it any more; so a tick is never called on a destroyed one, and
once the destructor of the controller has returned the object is gone with its thread, or kept by
the tick under way. -/
theorem lifetime_safe (hs : (execution tc).Reachable s) (halive : s.terminated = false) :
    (s.destroyed = true ↔ s.useCount = 0) ∧
      (s.holds = true → s.destroyed = false) ∧
      (s.owner = .released → s.destroyed = true ∧ s.loop = .left ∨ s.holds = true) := by
  cases Phase.of_reachable hs with
  | owned howner hlive _ =>
    refine ⟨?_, fun _ => hlive, fun hreleased => ?_⟩
    · simp [useCount, howner, hlive]
    · simp [howner] at hreleased
  | joining howner hdead _ hholds =>
    refine ⟨?_, fun hholds' => ?_, fun hreleased => ?_⟩
    · simp [useCount, howner, hdead, hholds]
    · rw [hholds] at hholds'
      cases hholds'
    · simp [howner] at hreleased
  | ended howner hdead _ hleft =>
    have hholds : s.holds = false := by simp [holds, hleft]
    refine ⟨?_, fun hholds' => ?_, fun _ => .inl ⟨hdead, hleft⟩⟩
    · simp [useCount, howner, hdead, hholds]
    · rw [hholds] at hholds'
      cases hholds'
  | orphaned howner hlive hholds =>
    refine ⟨?_, fun _ => hlive, fun _ => .inr hholds⟩
    simp [useCount, howner, hlive, hholds]
  | terminated hdead => simp [halive] at hdead

/-- The owner has left within the first tick. -/
theorem lifetime_safe_releasedWithinTick :
    let tick : ProcessStep := .work ⟨none, ⟨0, 0⟩⟩
    let s := (execution .sample).run (start 0) [tick, tick, .release]
    s.terminated = false ∧ s.owner = .released ∧ (s.destroyed = true ↔ s.useCount = 0) ∧
      (s.holds = true → s.destroyed = false) ∧
      (s.owner = .released → s.destroyed = true ∧ s.loop = .left ∨ s.holds = true) := by
  intro tick s
  have hstart : (execution .sample).Reachable (start 0) := .start ⟨0, rfl⟩
  exact ⟨by decide, by decide, lifetime_safe (hstart.run [tick, tick, .release]) (by decide)⟩

/-- A step of the loop is a tick, or leaves the server alone. -/
theorem server_work (input : TickInput) :
    (s.work tc input).server =
      if s.loop = .calling then s.server.tick tc input else s.server := by
  cases hloop : s.loop with
  | checking => rw [work_of_checking hloop]; rfl
  | locking => rw [work_of_locking hloop]; split <;> rfl
  | calling => rw [work_of_calling hloop]; rfl
  | returning => rw [work_of_returning hloop]; split <;> rfl
  | sleeping => rw [work_of_sleeping hloop]; rfl
  | left => rw [work_of_left hloop]; rfl

/-- Every step comes to operations on the server. -/
theorem server_step (i : ProcessStep) :
    ∃ ops, (s.step tc i).server = (Server.operations tc).run s.server ops := by
  cases halive : s.terminated with
  | true => exact ⟨[], by rw [step_of_terminated halive]; rfl⟩
  | false =>
    rw [step_of_alive halive]
    cases i with
    | edit edit =>
      dsimp only [act]
      split_ifs
      · exact ⟨[edit.operation], rfl⟩
      · exact ⟨[], rfl⟩
    | post command =>
      dsimp only [act]
      split_ifs
      · exact ⟨[.postCommand command], rfl⟩
      · exact ⟨[], rfl⟩
    | stop | join => dsimp only [act]; split_ifs <;> exact ⟨[], rfl⟩
    | release => dsimp only [act, release]; split_ifs <;> exact ⟨[], rfl⟩
    | work input =>
      show ∃ ops, (s.work tc input).server = _
      rw [server_work]
      split_ifs
      · exact ⟨[.tick input], rfl⟩
      · exact ⟨[], rfl⟩

/-- The server in the process is one of the operations'. -/
theorem server_of_reachable (hs : (execution tc).Reachable s) :
    (Server.operations tc).Reachable s.server := by
  refine System.Reachable.map (N := Server.operations tc) Process.server ?_
    (fun _ i => server_step i) hs
  rintro s ⟨t, rfl⟩
  exact ⟨rfl, t, rfl⟩

/-! ## What ends the process -/

/-- The owner does not give up its reference within a tick, and ticks find a sound queue. -/
def Sound (s : Process) (i : ProcessStep) : Prop :=
  (i = .release → s.owner = .owning → s.holds = false) ∧
    ∀ input, i = .work input → s.loop = .calling → s.server.QueueSound

/-- The process runs, and only an owner outlives a tick. -/
structure Surviving (s : Process) : Prop where
  alive : s.terminated = false
  held : s.holds = true → s.owner = .owning

theorem Surviving.step (h : Surviving s) (hs : (execution tc).Reachable s) {i : ProcessStep}
    (hsound : s.Sound i) : Surviving (s.step tc i) := by
  rw [step_of_alive h.alive]
  cases i with
  | edit edit => dsimp only [act]; split_ifs <;> exact ⟨h.alive, h.held⟩
  | post command => dsimp only [act]; split_ifs <;> exact ⟨h.alive, h.held⟩
  | stop => dsimp only [act]; split_ifs <;> exact ⟨h.alive, h.held⟩
  | join =>
    dsimp only [act]
    split_ifs with hjoin
    · exact ⟨h.alive, fun hholds => by simp [holds, hjoin.2] at hholds⟩
    · exact h
  | release =>
    dsimp only [act, release]
    split_ifs with howner hholds
    · rw [hsound.1 rfl howner] at hholds
      cases hholds
    · exact ⟨h.alive, fun hholds' => absurd hholds' hholds⟩
    · exact h
  | work input =>
    show Surviving (s.work tc input)
    cases hloop : s.loop with
    | checking =>
      rw [work_of_checking hloop]
      refine ⟨h.alive, fun hholds => ?_⟩
      simp only [holds_eq_true] at hholds
      split_ifs at hholds <;> simp at hholds
    | locking =>
      rw [work_of_locking hloop]
      split_ifs with howner
      · exact ⟨h.alive, fun _ => howner⟩
      · exact ⟨h.alive, nofun⟩
    | calling =>
      have hnone := (Server.error?_runnable_eq_none_iff (server_of_reachable hs) input).mpr
        (hsound.2 input rfl hloop)
      rw [work_of_calling hloop]
      refine ⟨?_, fun _ => h.held (by simp [hloop])⟩
      show (s.server.runnable tc input).error?.isSome = false
      rw [hnone]
      rfl
    | returning =>
      have howner := h.held (by simp [hloop])
      rw [work_of_returning hloop, if_pos howner]
      exact ⟨h.alive, nofun⟩
    | sleeping =>
      rw [work_of_sleeping hloop]
      exact ⟨h.alive, nofun⟩
    | left =>
      rw [work_of_left hloop]
      exact h

theorem surviving_of_reachableVia (hs : (execution tc).ReachableVia Sound s) : Surviving s := by
  refine System.ReachableVia.invariant (I := Surviving) ?_ ?_ hs
  · rintro s ⟨t, rfl⟩
    exact ⟨rfl, nofun⟩
  · intro s i hs h hsound
    exact h.step hs.reachable hsound

theorem terminated_run (h : s.terminated = true) (is : List ProcessStep) :
    ((execution tc).run s is).terminated = true := by
  induction is with
  | nil => exact h
  | cons i is ih =>
    rw [System.run_cons]
    show ((execution tc).run (s.step tc i) is).terminated = true
    rwa [step_of_terminated h i]

/-- A tick that the owner did not wait for ends the process: it raises, or its end does. -/
theorem terminated_of_orphaned (howner : s.owner = .released) {n : ℕ}
    (hloop : s.loop = .returning ∧ 1 ≤ n ∨ s.loop = .calling ∧ 2 ≤ n) {is : List ProcessStep}
    (hwork : is.countP ProcessStep.isWork = n) :
    ((execution tc).run s is).terminated = true := by
  induction is generalizing s n with
  | nil =>
    subst hwork
    obtain ⟨-, h⟩ | ⟨-, h⟩ := hloop <;> simp at h
  | cons i is ih =>
    rw [System.run_cons]
    show ((execution tc).run (s.step tc i) is).terminated = true
    cases halive : s.terminated with
    | true =>
      rw [step_of_terminated halive]
      exact terminated_run halive is
    | false =>
      rw [step_of_alive halive]
      -- the steps of the owner are over
      have hother (hwork' : is.countP ProcessStep.isWork = n) :
          ((execution tc).run s is).terminated = true := ih howner hloop hwork'
      cases i with
      | edit edit => simpa [act, howner] using hother hwork
      | post command => simpa [act, howner] using hother hwork
      | stop => simpa [act, howner] using hother hwork
      | release => simpa [act, release, howner] using hother hwork
      | join => simpa [act, howner] using hother hwork
      | work input =>
        show ((execution tc).run (s.work tc input) is).terminated = true
        rcases hloop with ⟨hloop, hn⟩ | ⟨hloop, hn⟩
        · rw [work_of_returning hloop, if_neg (by simp [howner])]
          exact terminated_run rfl is
        · rw [work_of_calling hloop]
          rw [List.countP_cons_of_pos rfl] at hwork
          exact ih howner (.inl ⟨rfl, by omega⟩) rfl

/-- A tick on a queue that is not sound raises. -/
theorem terminated_work (hs : (execution tc).Reachable s) {input : TickInput}
    (hunsound : ¬ s.Sound (.work input)) : (s.step tc (.work input)).terminated = true := by
  cases halive : s.terminated with
  | true => rwa [step_of_terminated halive]
  | false =>
    have hcalling : s.loop = .calling ∧ ¬ s.server.QueueSound := by
      by_contra hnot
      refine hunsound ⟨nofun, fun _ _ hloop => ?_⟩
      by_contra hqueue
      exact hnot ⟨hloop, hqueue⟩
    have hraises := mt (Server.error?_runnable_eq_none_iff (server_of_reachable hs) input).mp
      hcalling.2
    rw [step_of_alive halive]
    show (s.work tc input).terminated = true
    rw [work_of_calling hcalling.1]
    exact Option.isSome_iff_ne_none.mpr hraises

/-- **A step that is not sound ends the process** once the thread has made two more steps. -/
theorem terminated_of_unsound (hs : (execution tc).Reachable s) {i : ProcessStep}
    (hunsound : ¬ s.Sound i) {is : List ProcessStep} (hwork : 2 ≤ is.countP ProcessStep.isWork) :
    ((execution tc).run (s.step tc i) is).terminated = true := by
  cases i with
  | work input => exact terminated_run (terminated_work hs hunsound) is
  | edit edit => exact absurd ⟨nofun, nofun⟩ hunsound
  | post command => exact absurd ⟨nofun, nofun⟩ hunsound
  | stop => exact absurd ⟨nofun, nofun⟩ hunsound
  | join => exact absurd ⟨nofun, nofun⟩ hunsound
  | release =>
    have howner : s.owner = .owning ∧ s.holds = true := by
      by_contra hnot
      refine hunsound ⟨fun _ howner => ?_, nofun⟩
      by_contra hholds
      exact hnot ⟨howner, by simpa using hholds⟩
    cases halive : s.terminated with
    | true =>
      rw [step_of_terminated halive]
      exact terminated_run halive is
    | false =>
      have hstep : s.step tc .release = { s with owner := .released } := by
        rw [step_of_alive halive]
        simp only [act, release, howner.1, howner.2, if_true]
      rw [hstep]
      refine terminated_of_orphaned rfl (n := is.countP ProcessStep.isWork) ?_ rfl
      rcases holds_eq_true.mp howner.2 with hcalling | hreturning
      · exact .inr ⟨hcalling, hwork⟩
      · exact .inl ⟨hreturning, by omega⟩

/-- **What ends the process.** Let the thread make two more steps at the end of a run: the process
has been terminated exactly if at some point of the run a tick began on a queue that selects an
unknown preset while idle or leaves a run on a preset without stages, or the owner gave up the
controller while a tick was under way. -/
theorem terminated_iff (tc : Toolchain) (t : ℤ) (is js : List ProcessStep)
    (hjs : ∀ j ∈ js, j.isWork = true) (hlength : 2 ≤ js.length) :
    ((execution tc).run (start t) (is ++ js)).terminated = true ↔
      ∃ pre i post, is ++ js = pre ++ i :: post ∧
        ¬ ((execution tc).run (start t) pre).Sound i := by
  have hstart : (execution tc).ReachableVia Sound (start t) := .start ⟨t, rfl⟩
  constructor
  · intro hterminated
    by_contra hnone
    push Not at hnone
    have halive := (surviving_of_reachableVia (hstart.run hnone)).alive
    rw [hterminated] at halive
    cases halive
  · rintro ⟨pre, i, post, hsplit, hunsound⟩
    have hpre : (execution tc).Reachable ((execution tc).run (start t) pre) :=
      hstart.reachable.run pre
    rw [hsplit, System.run_append, System.run_cons]
    have hlast (hi : i ∈ js) : ((execution tc).run
        (step tc ((execution tc).run (start t) pre) i) post).terminated = true := by
      have hwork := hjs i hi
      cases i with
      | work input => exact terminated_run (terminated_work hpre hunsound) post
      | _ => cases hwork
    rcases List.append_eq_append_iff.mp hsplit with ⟨as, -, htail⟩ | ⟨bs, -, htail⟩
    · exact hlast (by rw [htail]; simp)
    · cases bs with
      | nil => exact hlast (by rw [List.nil_append] at htail; rw [← htail]; simp)
      | cons b bs =>
        -- the two steps of the thread are still to come
        obtain ⟨rfl, rfl⟩ := List.cons.inj htail
        have hcount : 2 ≤ (bs ++ js).countP ProcessStep.isWork := by
          rw [List.countP_append, List.countP_eq_length.mpr hjs]
          omega
        exact terminated_of_unsound hpre hunsound hcount

/-- The owner leaves during the first tick of a new process. -/
theorem terminated_iff_releasedWithinTick :
    let tick : ProcessStep := .work ⟨none, ⟨0, 0⟩⟩
    let is : List ProcessStep := [tick, tick, .release]
    ((execution .sample).run (start 0) (is ++ [tick, tick])).terminated = true ↔
      ∃ pre i post, is ++ [tick, tick] = pre ++ i :: post ∧
        ¬ ((execution .sample).run (start 0) pre).Sound i :=
  terminated_iff .sample 0 _ _ (by decide) (Nat.le_refl 2)

/-! ## The end of the loop -/

/-- The steps the thread makes at most once its stop is requested. -/
def stepsLeft (s : Process) : ℕ :=
  match s.loop with
  | .left => 0
  | .checking => 1
  | .sleeping => 2
  | .returning => 3
  | .calling => 4
  | .locking => if s.owner = .owning then 5 else 3

theorem stepsLeft_le (s : Process) : s.stepsLeft ≤ 5 := by
  unfold stepsLeft
  cases s.loop <;> dsimp only <;> try omega
  split_ifs <;> omega

theorem left_of_stepsLeft (h : s.stepsLeft = 0) : s.loop = .left := by
  unfold stepsLeft at h
  cases hloop : s.loop with
  | left => rfl
  | locking =>
    rw [hloop] at h
    dsimp only at h
    split_ifs at h
  | _ => simp [hloop] at h

theorem stepsLeft_work (hstop : s.stopRequested = true) (input : TickInput) :
    (s.work tc input).stepsLeft ≤ s.stepsLeft - 1 := by
  cases hloop : s.loop with
  | checking => rw [work_of_checking hloop]; simp [stepsLeft, hstop]
  | locking =>
    rw [work_of_locking hloop]
    split_ifs with howner <;> simp [stepsLeft, hloop, howner]
  | calling => rw [work_of_calling hloop]; simp [stepsLeft, hloop]
  | returning =>
    rw [work_of_returning hloop]
    split_ifs <;> simp [stepsLeft, hloop]
  | sleeping => rw [work_of_sleeping hloop]; simp [stepsLeft, hloop]
  | left => rw [work_of_left hloop]; simp [stepsLeft, hloop]

/-- The tick the thread may still begin once its stop is requested. -/
def ticksLeft (s : Process) : ℕ := (decide (s.loop = .locking ∧ s.owner = .owning)).toNat

theorem ticks_work (hstop : s.stopRequested = true) (input : TickInput) :
    (s.work tc input).ticks + (s.work tc input).ticksLeft ≤ s.ticks + s.ticksLeft := by
  cases hloop : s.loop with
  | checking => rw [work_of_checking hloop]; simp [ticksLeft, hstop]
  | locking =>
    rw [work_of_locking hloop]
    split_ifs with howner <;> simp [ticksLeft, hloop, howner]
  | calling => rw [work_of_calling hloop]; simp [ticksLeft]
  | returning =>
    rw [work_of_returning hloop]
    split_ifs <;> simp [ticksLeft]
  | sleeping => rw [work_of_sleeping hloop]; simp [ticksLeft]
  | left => rw [work_of_left hloop]

theorem stopRequested_work (hstop : s.stopRequested = true) (input : TickInput) :
    (s.work tc input).stopRequested = true := by
  cases hloop : s.loop with
  | checking => rwa [work_of_checking hloop]
  | locking => rw [work_of_locking hloop]; split_ifs <;> exact hstop
  | calling => rwa [work_of_calling hloop]
  | returning => rw [work_of_returning hloop]; split_ifs <;> first | rfl | exact hstop
  | sleeping => rwa [work_of_sleeping hloop]
  | left => rwa [work_of_left hloop]

/-- What the other threads do to the loop. -/
structure Frame (s s' : Process) : Prop where
  loop : s'.loop = s.loop
  ticks : s'.ticks = s.ticks
  stopRequested : s.stopRequested = true → s'.stopRequested = true
  owning : s'.owner = .owning → s.owner = .owning

theorem frame_act {i : ProcessStep} (hi : i.isWork = false) : Frame s (s.act tc i) := by
  have hrefl : Frame s s := ⟨rfl, rfl, id, id⟩
  cases i with
  | work input => cases hi
  | edit edit => dsimp only [act]; split_ifs <;> exact ⟨rfl, rfl, id, id⟩
  | post command => dsimp only [act]; split_ifs <;> exact ⟨rfl, rfl, id, id⟩
  | stop =>
    dsimp only [act]
    split_ifs
    · exact ⟨rfl, rfl, fun _ => rfl, id⟩
    · exact hrefl
  | join =>
    dsimp only [act]
    split_ifs
    · exact ⟨rfl, rfl, id, nofun⟩
    · exact hrefl
  | release =>
    dsimp only [act, release]
    split_ifs
    · exact ⟨rfl, rfl, id, nofun⟩
    · exact ⟨rfl, rfl, fun _ => rfl, nofun⟩
    · exact hrefl

theorem Frame.stepsLeft_le {s' : Process} (h : Frame s s') : s'.stepsLeft ≤ s.stepsLeft := by
  unfold stepsLeft
  rw [h.loop]
  cases s.loop with
  | locking =>
    dsimp only
    split_ifs with howner' howner
    · exact Nat.le_refl _
    · exact absurd (h.owning howner') howner
    · omega
    · exact Nat.le_refl _
  | _ => exact Nat.le_refl _

theorem Frame.ticks_le {s' : Process} (h : Frame s s') :
    s'.ticks + s'.ticksLeft ≤ s.ticks + s.ticksLeft := by
  rw [h.ticks]
  refine Nat.add_le_add_left ?_ _
  by_cases hlocked : s'.loop = .locking ∧ s'.owner = .owning
  · have hbefore : s.loop = .locking ∧ s.owner = .owning :=
      ⟨h.loop ▸ hlocked.1, h.owning hlocked.2⟩
    simp [ticksLeft, hbefore, hlocked]
  · simp [ticksLeft, hlocked]

variable (tc) in
/-- **Step lemma.** A stop stays requested, the end of the loop comes no further away, and a step
of the thread brings it nearer. -/
theorem stopping_step (hstop : s.stopRequested = true) (halive : s.terminated = false)
    (i : ProcessStep) :
    (s.step tc i).stopRequested = true ∧
      (s.step tc i).stepsLeft ≤ s.stepsLeft - i.isWork.toNat ∧
      (s.step tc i).ticks + (s.step tc i).ticksLeft ≤ s.ticks + s.ticksLeft := by
  rw [step_of_alive halive]
  cases hi : i.isWork with
  | false =>
    have hframe : Frame s (s.act tc i) := frame_act hi
    exact ⟨hframe.stopRequested hstop, hframe.stepsLeft_le, hframe.ticks_le⟩
  | true =>
    cases i with
    | work input =>
      exact ⟨stopRequested_work hstop input, stepsLeft_work hstop input, ticks_work hstop input⟩
    | _ => cases hi

variable (tc) in
/-- **Run lemma.** -/
theorem stopping_run (hstop : s.stopRequested = true) (is : List ProcessStep) :
    ((execution tc).run s is).ticks + ((execution tc).run s is).ticksLeft ≤
        s.ticks + s.ticksLeft ∧
      (((execution tc).run s is).terminated = true ∨
        ((execution tc).run s is).stepsLeft ≤ s.stepsLeft - is.countP ProcessStep.isWork) := by
  induction is generalizing s with
  | nil => exact ⟨Nat.le_refl _, .inr (Nat.le_refl _)⟩
  | cons i is ih =>
    have hrun : (execution tc).run s (i :: is) = (execution tc).run (s.step tc i) is := rfl
    rw [hrun]
    cases halive : s.terminated with
    | true =>
      rw [step_of_terminated halive]
      exact ⟨(ih hstop).1, .inl (terminated_run halive is)⟩
    | false =>
      obtain ⟨hstop', hsteps, hticks⟩ := stopping_step tc hstop halive i
      obtain ⟨hticks', hsteps'⟩ := ih hstop'
      refine ⟨hticks'.trans hticks, hsteps'.imp_right fun hle => ?_⟩
      cases hi : i.isWork with
      | false =>
        rw [hi, Bool.toNat_false] at hsteps
        rw [List.countP_cons_of_neg (by simp [hi])]
        omega
      | true =>
        rw [hi, Bool.toNat_true] at hsteps
        rw [List.countP_cons_of_pos hi]
        omega

/-- **A stop is obeyed.** Once it is requested the thread begins no tick, except the one it has
already tested for, and after five more steps of its own it has left the loop; or the process has
been terminated. -/
theorem stop_obeyed (hstop : s.stopRequested = true) (is : List ProcessStep) :
    ((execution tc).run s is).ticks ≤ s.ticks + (decide (s.loop = .locking)).toNat ∧
      (5 ≤ is.countP ProcessStep.isWork → ((execution tc).run s is).terminated = true ∨
        ((execution tc).run s is).loop = .left) := by
  obtain ⟨hticks, hsteps⟩ := stopping_run tc hstop is
  constructor
  · have hleft : s.ticksLeft ≤ (decide (s.loop = .locking)).toNat := by
      unfold ticksLeft
      cases s.loop <;> cases s.owner <;> simp
    omega
  · refine fun hwork => hsteps.imp_right fun hle => left_of_stepsLeft ?_
    have hfive := s.stepsLeft_le
    omega

/-- The stop comes between the test of the loop and the tick. -/
theorem stop_obeyed_locking :
    let tick : ProcessStep := .work ⟨none, ⟨0, 0⟩⟩
    let s := (execution .sample).run (start 0) [tick, .stop]
    let is : List ProcessStep := List.replicate 5 tick
    s.loop = .locking ∧
      ((execution .sample).run s is).ticks ≤ s.ticks + (decide (s.loop = .locking)).toNat ∧
      (5 ≤ is.countP ProcessStep.isWork → ((execution .sample).run s is).terminated = true ∨
        ((execution .sample).run s is).loop = .left) := by
  intro tick s is
  exact ⟨by decide, stop_obeyed (by decide) is⟩

/-- The owner has destroyed the object and waits for the loop, or has seen it end. -/
structure ClosingDown (s₀ s : Process) : Prop where
  alive : s.terminated = false
  destroyed : s.destroyed = true
  stopRequested : s.stopRequested = true
  away : s.holds = false
  owner : s.owner = .joining ∨ s.owner = .released ∧ s.loop = .left
  server : s.server = s₀.server
  ticks : s.ticks = s₀.ticks

namespace ClosingDown

variable {s₀ : Process}

theorem not_owning (h : ClosingDown s₀ s) : s.owner ≠ .owning := by
  rcases h.owner with howner | ⟨howner, -⟩ <;> simp [howner]

theorem stepsLeft_le (h : ClosingDown s₀ s) : s.stepsLeft ≤ 3 := by
  have haway := holds_eq_false.mp h.away
  unfold stepsLeft
  cases hloop : s.loop with
  | locking => simp [h.not_owning]
  | calling => exact absurd hloop haway.1
  | _ => simp

theorem work (h : ClosingDown s₀ s) (input : TickInput) : ClosingDown s₀ (s.work tc input) := by
  have haway := holds_eq_false.mp h.away
  cases hloop : s.loop with
  | left => rwa [work_of_left hloop]
  | calling => exact absurd hloop haway.1
  | returning => exact absurd hloop haway.2
  | checking =>
    rw [work_of_checking hloop]
    refine ⟨h.alive, h.destroyed, h.stopRequested, ?_, ?_, h.server, h.ticks⟩
    · simp [holds, h.stopRequested]
    · exact h.owner.imp_right fun hover => ⟨hover.1, by simp [h.stopRequested]⟩
  | locking =>
    rw [work_of_locking hloop, if_neg h.not_owning]
    refine ⟨h.alive, h.destroyed, h.stopRequested, rfl, ?_, h.server, h.ticks⟩
    exact h.owner.imp_right fun hover => by simp [hloop] at hover
  | sleeping =>
    rw [work_of_sleeping hloop]
    refine ⟨h.alive, h.destroyed, h.stopRequested, rfl, ?_, h.server, h.ticks⟩
    exact h.owner.imp_right fun hover => by simp [hloop] at hover

/-- **Step lemma.** -/
theorem step (h : ClosingDown s₀ s) (i : ProcessStep) : ClosingDown s₀ (s.step tc i) := by
  rw [step_of_alive h.alive]
  cases i with
  | work input => exact h.work input
  | edit edit => simpa only [act, if_neg h.not_owning] using h
  | post command => simpa only [act, if_neg h.not_owning] using h
  | stop => simpa only [act, if_neg h.not_owning] using h
  | release => simpa only [act, Process.release, if_neg h.not_owning] using h
  | join =>
    dsimp only [act]
    split_ifs with hjoin
    · exact ⟨h.alive, h.destroyed, h.stopRequested, h.away, .inr ⟨rfl, hjoin.2⟩, h.server, h.ticks⟩
    · exact h

theorem run (h : ClosingDown s₀ s) (is : List ProcessStep) :
    ClosingDown s₀ ((execution tc).run s is) := by
  induction is generalizing s with
  | nil => exact h
  | cons i is ih => exact ih (h.step i)

/-- Behind the `join` nothing is left to happen. -/
theorem step_of_released (h : ClosingDown s₀ s) (hreleased : s.owner = .released)
    (i : ProcessStep) : s.step tc i = s := by
  have hleft : s.loop = .left := by
    rcases h.owner with hjoining | ⟨-, hleft⟩
    · rw [hreleased] at hjoining
      cases hjoining
    · exact hleft
  rw [step_of_alive h.alive]
  cases i with
  | work input => exact work_of_left hleft input
  | edit edit => exact if_neg h.not_owning
  | post command => exact if_neg h.not_owning
  | stop => exact if_neg h.not_owning
  | release => exact if_neg h.not_owning
  | join => exact if_neg (by simp [hreleased])

theorem run_of_released (h : ClosingDown s₀ s) (hreleased : s.owner = .released)
    (is : List ProcessStep) : (execution tc).run s is = s := by
  induction is with
  | nil => rfl
  | cons i is ih =>
    have hstep : (execution tc).step s i = s := h.step_of_released hreleased i
    rw [System.run_cons, hstep, ih]

end ClosingDown

/-- **A shutdown between two ticks completes.** An owner that gives up the controller while no tick
is under way destroys it, and its `join` returns once the thread has made three more steps. Until
then and ever after no tick begins and the server stays as it was, and nothing ends the process. -/
theorem shutdown_completes (halive : s.terminated = false) (howner : s.owner = .owning)
    (hholds : s.holds = false) (is js : List ProcessStep)
    (hwork : 3 ≤ is.countP ProcessStep.isWork) :
    let s' := (execution tc).run s (.release :: (is ++ .join :: js))
    s'.owner = .released ∧ s'.loop = .left ∧ s'.destroyed = true ∧ s'.terminated = false ∧
      s'.ticks = s.ticks ∧ s'.server = s.server := by
  intro s'
  let s₁ : Process := { s with owner := .joining, destroyed := true, stopRequested := true }
  have hrelease : s.step tc .release = s₁ := by
    rw [step_of_alive halive]
    simp only [act, release, howner, hholds, if_true, Bool.false_eq_true, if_false, s₁]
  have hclosing : ClosingDown s s₁ := ⟨halive, rfl, rfl, hholds, .inl rfl, rfl, rfl⟩
  let s₂ := (execution tc).run s₁ is
  have hs' : s' = (execution tc).run (s₂.step tc .join) js := by
    show (execution tc).run (s.step tc .release) (is ++ .join :: js) = _
    rw [hrelease, System.run_append]
    rfl
  have hclosing₂ : ClosingDown s s₂ := hclosing.run is
  have hleft : s₂.loop = .left := by
    have hsteps : s₂.stepsLeft ≤ s₁.stepsLeft - is.countP ProcessStep.isWork :=
      (stopping_run tc hclosing.stopRequested is).2.resolve_left
        (Bool.eq_false_iff.mp hclosing₂.alive)
    have hthree := hclosing.stepsLeft_le
    exact left_of_stepsLeft (by omega)
  have hclosing₃ : ClosingDown s (s₂.step tc .join) := hclosing₂.step .join
  have hjoined : (s₂.step tc .join).owner = .released := by
    rw [step_of_alive hclosing₂.alive]
    dsimp only [act]
    split_ifs with hjoin
    · rfl
    · rcases hclosing₂.owner with hjoining | ⟨hreleased, -⟩
      · exact absurd ⟨hjoining, hleft⟩ hjoin
      · exact hreleased
  have hlast : (s₂.step tc .join).loop = .left := by
    rcases hclosing₃.owner with hjoining | ⟨-, hleft'⟩
    · rw [hjoined] at hjoining
      cases hjoining
    · exact hleft'
  rw [hs', hclosing₃.run_of_released hjoined]
  exact ⟨hjoined, hlast, hclosing₃.destroyed, hclosing₃.alive, hclosing₃.ticks, hclosing₃.server⟩

/-- A server is shut down while its thread sleeps. -/
theorem shutdown_completes_sleeping :
    let tick : ProcessStep := .work ⟨none, ⟨0, 0⟩⟩
    let s := (execution .sample).run (start 0) [tick, tick, tick, tick]
    let s' := (execution .sample).run s (.release :: ([tick, tick, tick] ++ .join :: [tick]))
    s.loop = .sleeping ∧ s'.owner = .released ∧ s'.loop = .left ∧ s'.destroyed = true ∧
      s'.terminated = false ∧ s'.ticks = s.ticks ∧ s'.server = s.server := by
  intro tick s s'
  exact ⟨by decide, shutdown_completes (by decide) (by decide) (by decide) _ _ (by decide)⟩

end Process

end ReflowTable

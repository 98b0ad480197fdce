import ReflowTable.CommandOrder
import ReflowTable.Operations

/-!
# Ticks that others get into

The holder and the queue are shared with the HTTP threads: a preset may be created or edited, and
a command posted, between any two steps of a tick. `serving` is this system. Every one of its runs
comes to what a run of `Server.operations` comes to, in which ticks are atomic
(`serving_refines`): what an HTTP thread does before the process step is moved in front of the
tick, and what it posts after the dispatch loop, or edits after the process step, is moved behind
it. The edits keep their order, and so do the posts.

The argument is a forward simulation. `UnderWay` says how far the worker is with a tick that the
atomic run has yet to take.
-/

namespace ReflowTable

open ReflowProcessController

/-! ## The threads and the server -/

/-- What an HTTP thread does to the holder. -/
inductive Edit
  | addNewPreset (presetName : String)
  | setName (presetId : UInt64) (presetName : String)
  | addStageItem (presetId : UInt64) (stageItem : StageItem)
  | replaceStageItem (presetId : UInt64) (stageItemIdx : ℕ) (stageItem : StageItem)

def Edit.operation : Edit → Operation
  | .addNewPreset presetName => .addNewPreset presetName
  | .setName presetId presetName => .setName presetId presetName
  | .addStageItem presetId stageItem => .addStageItem presetId stageItem
  | .replaceStageItem presetId stageItemIdx stageItem =>
    .replaceStageItem presetId stageItemIdx stageItem

/-- An edit looks at the holder alone, so any controller will do. -/
def Edit.apply (tc : Toolchain) (edit : Edit) (holder : PresetsHolder) : PresetsHolder :=
  (Server.apply tc ⟨holder, .make 0⟩ edit.operation).presetsHolder

/-- One step of some thread. -/
inductive ServerStep
  | edit (edit : Edit)
  | post (command : CommandVariant)
  | work (input : TickInput)

def ServerStep.edit? : ServerStep → Option Edit
  | edit e => some e
  | _ => none

def ServerStep.post? : ServerStep → Option CommandVariant
  | .post command => some command
  | _ => none

namespace Operation

def edit? : Operation → Option Edit
  | .addNewPreset presetName => some (.addNewPreset presetName)
  | .setName presetId presetName => some (.setName presetId presetName)
  | .addStageItem presetId stageItem => some (.addStageItem presetId stageItem)
  | .replaceStageItem presetId stageItemIdx stageItem =>
    some (.replaceStageItem presetId stageItemIdx stageItem)
  | .postCommand _ => none
  | .tick _ => none

def post? : Operation → Option CommandVariant
  | .postCommand command => some command
  | _ => none

def isTick : Operation → Bool
  | .tick _ => true
  | _ => false

end Operation

namespace Threads

/-- What the threads share. -/
def server (s : Threads) : Server := ⟨s.presetsHolder, s.controller⟩

def serve (tc : Toolchain) (s : Threads) : ServerStep → Threads
  | .edit edit => s.step tc (.changeHolder (edit.apply tc s.presetsHolder))
  | .post command => s.step tc (.post command)
  | .work input => s.step tc (.work input)

/-- The HTTP threads and the worker over a new server, in any interleaving. -/
def serving (tc : Toolchain) : System Threads ServerStep where
  init s := ∃ t, s = start .make t
  step := serve tc

/-- Whether the worker begins a tick with this step. -/
def wakes (s : Threads) : ServerStep → Bool
  | .work _ => decide (s.place = .sleeping)
  | _ => false

/-- The number of ticks the worker begins along some steps. -/
def wakeUps (tc : Toolchain) (s : Threads) : List ServerStep → ℕ
  | [] => 0
  | i :: is => (s.wakes i).toNat + wakeUps tc (s.serve tc i) is

theorem wakeUps_concat (tc : Toolchain) (s : Threads) (is : List ServerStep) (i : ServerStep) :
    wakeUps tc s (is ++ [i]) =
      wakeUps tc s is + (wakes ((serving tc).run s is) i).toNat := by
  induction is generalizing s with
  | nil => simp [wakeUps]
  | cons j is ih =>
    rw [List.cons_append, wakeUps, wakeUps, ih, Nat.add_assoc]
    rfl

end Threads

namespace Edit

variable {tc : Toolchain}

/-- An edit is an operation that leaves the controller alone. -/
theorem apply_operation (edit : Edit) (holder : PresetsHolder) (c : ReflowProcessController) :
    Server.apply tc ⟨holder, c⟩ edit.operation = ⟨edit.apply tc holder, c⟩ := by
  have honPreset (id : UInt64) (f : Preset → Preset) :
      (Server.mk holder c).onPreset id f =
        ⟨((Server.mk holder (.make 0)).onPreset id f).presetsHolder, c⟩ := by
    cases hl : holder.presetsStorage.lookup id with
    | none => rw [Server.onPreset_of_none f hl, Server.onPreset_of_none f hl]
    | some ptr => rw [Server.onPreset_of_lookup f hl, Server.onPreset_of_lookup f hl]
  cases edit with
  | addNewPreset name =>
    show Server.addNewPreset tc name ⟨holder, c⟩ =
      ⟨(Server.addNewPreset tc name ⟨holder, .make 0⟩).presetsHolder, c⟩
    unfold Server.addNewPreset
    cases holder.addNewPreset tc name <;> rfl
  | setName id name => exact honPreset id _
  | addStageItem id item => exact honPreset id _
  | replaceStageItem id idx item => exact honPreset id _

theorem growsTo (edit : Edit) (holder : PresetsHolder) :
    holder.GrowsTo (edit.apply tc holder) := by
  have hcases := Server.apply_cases tc ⟨holder, .make 0⟩ edit.operation
  rcases hcases with ⟨hgrows, -⟩ | ⟨command, hop, -⟩ | ⟨input, hop, -⟩
  · exact hgrows
  · cases edit <;> cases hop
  · cases edit <;> cases hop

/-- Edits are taken by the atomic run as they are. -/
theorem run_operations (edits : List Edit) (holder : PresetsHolder)
    (c : ReflowProcessController) :
    (Server.operations tc).run ⟨holder, c⟩ (edits.map operation) =
      ⟨edits.foldl (fun holder edit => edit.apply tc holder) holder, c⟩ := by
  induction edits generalizing holder with
  | nil => rfl
  | cons edit edits ih =>
    rw [List.map_cons, System.run_cons, List.foldl_cons, ← ih]
    exact congrArg (fun s => (Server.operations tc).run s _) (apply_operation edit holder c)

@[simp] theorem edit?_operation (edit : Edit) : edit.operation.edit? = some edit := by
  cases edit <;> rfl

@[simp] theorem post?_operation (edit : Edit) : edit.operation.post? = none := by
  cases edit <;> rfl

@[simp] theorem isTick_operation (edit : Edit) : edit.operation.isTick = false := by
  cases edit <;> rfl

end Edit

/-- Posts are taken by the atomic run as they are. -/
theorem run_posts {tc : Toolchain} (posts : List CommandVariant) (holder : PresetsHolder)
    (c : ReflowProcessController) :
    (Server.operations tc).run ⟨holder, c⟩ (posts.map .postCommand) =
      ⟨holder, c.withQueue (c.requestsQueue ++ posts)⟩ := by
  induction posts generalizing c with
  | nil => rw [List.append_nil]; rfl
  | cons command posts ih =>
    rw [List.map_cons, System.run_cons]
    refine (ih (c.postCommand command)).trans ?_
    rw [postCommand, List.append_assoc]
    rfl

/-! ## A tick taken apart -/

section

variable {tc : Toolchain} {holder : PresetsHolder}

/-- A handler that returns does so over a holder that has grown. -/
theorem visitCommand_grow {holder' : PresetsHolder} (hgrows : holder.GrowsTo holder')
    {command : CommandVariant} {s s' : ReflowProcessController}
    (hdone : visitCommand tc holder command s = .done s') :
    visitCommand tc holder' command s = .done s' := by
  have heffect := visitCommand_effect tc holder command s
  rw [hdone] at heffect
  cases heffect with
  | startUnselected hnone => exact (CommandEffect.startUnselected hnone).eq
  | start hptr => exact (CommandEffect.start hptr).eq
  | stopIdle hidle => exact (CommandEffect.stopIdle hidle).eq
  | stop hrun => exact (CommandEffect.stop hrun).eq
  | selectRunning hrun => exact (CommandEffect.selectRunning hrun).eq
  | select hidle hl => exact (CommandEffect.select hidle (hgrows.lookup hl)).eq
  | setParams => rfl

theorem sweep_visitCommand_grow {holder' : PresetsHolder} (hgrows : holder.GrowsTo holder')
    {queue : List CommandVariant} {s s' : ReflowProcessController}
    (hdone : Outcome.sweep (visitCommand tc holder) queue s = .done s') :
    Outcome.sweep (visitCommand tc holder') queue s = .done s' := by
  induction queue generalizing s with
  | nil => exact hdone
  | cons command queue ih =>
    rw [Outcome.sweep_cons] at hdone ⊢
    cases hvisit : visitCommand tc holder command s with
    | raised e s₁ =>
      rw [hvisit] at hdone
      cases hdone
    | done s₁ =>
      rw [hvisit] at hdone
      rw [visitCommand_grow hgrows hvisit]
      exact ih hdone

variable (queue : List CommandVariant)

/-- A handler comes to the same over another queue. -/
theorem visitCommand_map_withQueue (command : CommandVariant) (s : ReflowProcessController) :
    visitCommand tc holder command (s.withQueue queue) =
      (visitCommand tc holder command s).map (withQueue queue) := by
  have heffect := visitCommand_effect tc holder command s
  generalize visitCommand tc holder command s = o at heffect ⊢
  cases heffect with
  | startUnselected hnone => exact (CommandEffect.startUnselected (s := s.withQueue queue) hnone).eq
  | start hptr => exact (CommandEffect.start (s := s.withQueue queue) hptr).eq
  | stopIdle hidle => exact (CommandEffect.stopIdle (s := s.withQueue queue) hidle).eq
  | stop hrun => exact (CommandEffect.stop (s := s.withQueue queue) hrun).eq
  | selectRunning hrun => exact (CommandEffect.selectRunning (s := s.withQueue queue) hrun).eq
  | select hidle hl => exact (CommandEffect.select (s := s.withQueue queue) hidle hl).eq
  | selectUnknown hidle hl =>
    exact (CommandEffect.selectUnknown (s := s.withQueue queue) hidle hl).eq
  | setParams => rfl

/-- So does the process step. -/
theorem processReflowStep_map_withQueue (freed : StageItem) (s : ReflowProcessController) :
    (s.withQueue queue).processReflowStep holder freed =
      (s.processReflowStep holder freed).map (withQueue queue) := by
  have heffect := processReflowStep_effect holder freed s
  generalize s.processReflowStep holder freed = o at heffect ⊢
  cases heffect with
  | idle hidle => exact (StepEffect.idle (s := s.withQueue queue) hidle).eq
  | enter hrun hptr hstep hitem =>
    exact (StepEffect.enter (s := s.withQueue queue) hrun hptr hstep hitem).eq
  | enterNothing hrun hptr hstep hle =>
    exact (StepEffect.enterNothing (s := s.withQueue queue) hrun hptr hstep hle).eq
  | preheatNothing hrun hptr hstep hnone =>
    exact (StepEffect.preheatNothing (s := s.withQueue queue) hrun hptr hstep hnone).eq
  | preheat hrun hptr hstep hsp hskip hband =>
    exact (StepEffect.preheat (s := s.withQueue queue) hrun hptr hstep hsp hskip hband).eq
  | soak hrun hptr hstep hsp hskip hband =>
    exact (StepEffect.soak (s := s.withQueue queue) hrun hptr hstep hsp hskip hband).eq
  | dwell hrun hptr hstep hwait =>
    exact (StepEffect.dwell (s := s.withQueue queue) hrun hptr hstep hwait).eq
  | soakDone hrun hptr hstep hsp htime =>
    exact (StepEffect.soakDone (s := s.withQueue queue) hrun hptr hstep hsp htime).eq
  | moveOn hrun hptr hover hlt =>
    exact (StepEffect.moveOn (s := s.withQueue queue) hrun hptr hover hlt).eq
  | finish hrun hptr hover hle =>
    exact (StepEffect.finish (s := s.withQueue queue) hrun hptr hover hle).eq

theorem requestModbusData_withQueue (reading : Option ModbusReading)
    (s : ReflowProcessController) :
    (s.withQueue queue).requestModbusData reading =
      (s.requestModbusData reading).withQueue queue := by
  cases reading <;> rfl

/-- The dispatch loop, as far as its handlers return, takes their commands off the queue. -/
theorem sweep_handleOperation_of_visits {handled rest : List CommandVariant}
    {s s' : ReflowProcessController} (hqueue : s.requestsQueue = handled ++ rest)
    (hvisits : Outcome.sweep (visitCommand tc holder) handled s = .done s') :
    Outcome.sweep (handleOperation tc holder) handled s = .done (s'.withQueue rest) := by
  induction handled generalizing s s' with
  | nil =>
    cases hvisits
    rw [List.nil_append] at hqueue
    rw [Outcome.sweep_nil, ← hqueue]
    rfl
  | cons command handled ih =>
    rw [Outcome.sweep_cons] at hvisits ⊢
    have htail : s.requestsQueue.tail = handled ++ rest := by
      rw [hqueue, List.cons_append, List.tail_cons]
    have hhandle : handleOperation tc holder command s =
        (visitCommand tc holder command s).map (withQueue (handled ++ rest)) := by
      rw [handleOperation, htail]
      exact visitCommand_map_withQueue _ command s
    rw [hhandle]
    cases hvisit : visitCommand tc holder command s with
    | raised e s₁ =>
      rw [hvisit] at hvisits
      cases hvisits
    | done s₁ =>
      rw [hvisit, Outcome.bind_done] at hvisits
      rw [Outcome.map_done, Outcome.bind_done]
      -- the handlers behind it do not see what is left of the queue either
      have hrest : Outcome.sweep (visitCommand tc holder) handled
          (s₁.withQueue (handled ++ rest)) = .done (s'.withQueue (handled ++ rest)) := by
        rw [Outcome.sweep_map (fun c s => visitCommand_map_withQueue _ c s), hvisits]
        rfl
      have hswept := ih rfl hrest
      exact hswept

end

/-- The handlers of `handled`, run on what `a` is like at the beginning of its tick, return and
come to `c`; `rest` is still in the queue. Queues are left out of account. -/
structure Handled (tc : Toolchain) (a : Server) (handled rest : List CommandVariant)
    (c : ReflowProcessController) : Prop where
  queue : a.reflowController.requestsQueue = handled ++ rest
  visited : Outcome.sweep (visitCommand tc a.presetsHolder) handled
    (a.reflowController.withQueue []) = .done c

namespace Handled

variable {tc : Toolchain} {a : Server} {handled rest : List CommandVariant}
  {c c' : ReflowProcessController} {command : CommandVariant}

variable (tc a) in
theorem nil : Handled tc a [] a.reflowController.requestsQueue
    (a.reflowController.withQueue []) := ⟨rfl, rfl⟩

/-- An edit may as well have been made before the tick. -/
theorem edit (h : Handled tc a handled rest c) (edit : Edit) :
    Handled tc ⟨edit.apply tc a.presetsHolder, a.reflowController⟩ handled rest c where
  queue := h.queue
  visited := sweep_visitCommand_grow (edit.growsTo a.presetsHolder) h.visited

/-- So may a post, as long as the queue is being drained. -/
theorem post (h : Handled tc a handled rest c) (command : CommandVariant) :
    Handled tc (a.postCommand command) handled (rest ++ [command]) c where
  queue := by
    show a.reflowController.requestsQueue ++ [command] = handled ++ (rest ++ [command])
    rw [h.queue, List.append_assoc]
  visited := h.visited

theorem visit (h : Handled tc a handled (command :: rest) c)
    (hvisit : visitCommand tc a.presetsHolder command c = .done c') :
    Handled tc a (handled ++ [command]) rest c' where
  queue := by rw [h.queue, List.append_cons]
  visited := by
    rw [Outcome.sweep_append, h.visited, Outcome.bind_done, Outcome.sweep_cons, hvisit]
    rfl

/-- The same handlers in the dispatch loop. -/
theorem sweep (h : Handled tc a handled rest c) :
    Outcome.sweep (handleOperation tc a.presetsHolder) handled a.reflowController =
      .done (c.withQueue rest) := by
  have hself : (a.reflowController.withQueue []).withQueue a.reflowController.requestsQueue =
      a.reflowController := rfl
  have hvisits : Outcome.sweep (visitCommand tc a.presetsHolder) handled a.reflowController =
      .done (c.withQueue a.reflowController.requestsQueue) := by
    rw [← hself, Outcome.sweep_map (fun c s => visitCommand_map_withQueue _ c s), h.visited]
    rfl
  have hswept := sweep_handleOperation_of_visits h.queue hvisits
  exact hswept

/-- A queue handled to its end. -/
theorem runnable (h : Handled tc a handled [] c) (input : TickInput) :
    a.runnable tc input =
      (((c.requestModbusData input.reading).processReflowStep a.presetsHolder input.freed).bind
        fun c => .done c.advanceSysTick).map (withQueue []) := by
  have hdispatch : a.reflowController.dispatchCommandsQueue tc a.presetsHolder =
      .done (c.withQueue []) := by
    rw [dispatchCommandsQueue, h.queue, List.append_nil]
    exact h.sweep
  rw [Server.runnable, ReflowProcessController.runnable, hdispatch, Outcome.bind_done,
    requestModbusData_withQueue, processReflowStep_map_withQueue]
  cases (c.requestModbusData input.reading).processReflowStep a.presetsHolder input.freed with
  | raised e d => rfl
  | done d =>
    rw [Outcome.map_done, Outcome.bind_done, advanceSysTick_withQueue]
    rfl

/-- A handler that raises ends the tick. -/
theorem runnable_of_raised (h : Handled tc a handled (command :: rest) c) {e : Fault}
    (hvisit : visitCommand tc a.presetsHolder command c = .raised e c') (input : TickInput) :
    a.runnable tc input = .raised e (c'.withQueue rest) := by
  have hraised : handleOperation tc a.presetsHolder command (c.withQueue (command :: rest)) =
      .raised e (c'.withQueue rest) := by
    rw [handleOperation]
    refine (visitCommand_map_withQueue rest command c).trans ?_
    rw [hvisit]
    rfl
  have hdispatch : a.reflowController.dispatchCommandsQueue tc a.presetsHolder =
      .raised e (c'.withQueue rest) := by
    rw [dispatchCommandsQueue, h.queue, Outcome.sweep_append, h.sweep, Outcome.bind_done,
      Outcome.sweep_cons, hraised]
    rfl
  rw [Server.runnable, ReflowProcessController.runnable, hdispatch]
  rfl

end Handled

/-! ## The simulation -/

/-- `s` is in a tick that began on `a`, give or take what could be moved in front of it; `edits`
and `posts` are what has to be moved behind it. -/
inductive UnderWay (tc : Toolchain) (a : Server) :
    List Edit → List CommandVariant → Threads → Prop
  | sleeping {s : Threads} : s.place = .sleeping → s.server = a → UnderWay tc a [] [] s
  | dispatching {s : Threads} {handled : List CommandVariant} :
      s.place = .dispatching → s.presetsHolder = a.presetsHolder →
      Handled tc a handled s.controller.requestsQueue (s.controller.withQueue []) →
      UnderWay tc a [] [] s
  /-- the command at hand is the next one of the queue -/
  | visiting {s : Threads} {handled : List CommandVariant} {command : CommandVariant} :
      s.place = .visiting command → s.presetsHolder = a.presetsHolder →
      Handled tc a handled (command :: s.controller.requestsQueue) (s.controller.withQueue []) →
      UnderWay tc a [] [] s
  /-- a post now comes too late for this tick -/
  | reading {s : Threads} {handled posts : List CommandVariant} {c : ReflowProcessController} :
      s.place = .reading → s.presetsHolder = a.presetsHolder → Handled tc a handled [] c →
      s.controller = c.withQueue posts → UnderWay tc a [] posts s
  | processing {s : Threads} {handled posts : List CommandVariant} {c : ReflowProcessController}
      {reading : Option ModbusReading} :
      s.place = .processing → s.presetsHolder = a.presetsHolder → Handled tc a handled [] c →
      s.controller = (c.requestModbusData reading).withQueue posts → UnderWay tc a [] posts s
  /-- so does an edit -/
  | ticking {s : Threads} {edits : List Edit} {handled posts : List CommandVariant}
      {c d : ReflowProcessController} (input : TickInput) :
      s.place = .ticking →
      s.presetsHolder = edits.foldl (fun holder edit => edit.apply tc holder) a.presetsHolder →
      Handled tc a handled [] c →
      (c.requestModbusData input.reading).processReflowStep a.presetsHolder input.freed = .done d →
      s.controller = d.withQueue posts → UnderWay tc a edits posts s

/-- A tick of the atomic run, with the client steps moved behind it. -/
def tickThen (input : TickInput) (edits : List Edit) (posts : List CommandVariant) :
    List Operation :=
  .tick input :: (edits.map Edit.operation ++ posts.map .postCommand)

section

variable (input : TickInput) (edits : List Edit) (posts : List CommandVariant)

theorem edits_tickThen : (tickThen input edits posts).filterMap Operation.edit? = edits := by
  have hposts : (posts.map Operation.postCommand).filterMap Operation.edit? = [] := by
    simp [Operation.edit?]
  have hedits : (edits.map Edit.operation).filterMap Operation.edit? = edits := by
    simp
  rw [tickThen, List.filterMap_cons_none rfl, List.filterMap_append, hposts, hedits,
    List.append_nil]

theorem posts_tickThen : (tickThen input edits posts).filterMap Operation.post? = posts := by
  have hposts : (posts.map Operation.postCommand).filterMap Operation.post? = posts := by
    simp [List.filterMap_map, Function.comp_def, Operation.post?]
  have hedits : (edits.map Edit.operation).filterMap Operation.post? = [] := by simp
  rw [tickThen, List.filterMap_cons_none rfl, List.filterMap_append, hposts, hedits,
    List.nil_append]

theorem ticks_tickThen : (tickThen input edits posts).countP Operation.isTick = 1 := by
  have hposts : (posts.map Operation.postCommand).countP Operation.isTick = 0 := by
    simp [Operation.isTick]
  have hedits : (edits.map Edit.operation).countP Operation.isTick = 0 := by simp
  rw [tickThen, List.countP_cons_of_pos rfl, List.countP_append, hposts, hedits]

end

/-- The steps of the atomic run that account for a step of the threads, the set-aside client steps
before and behind it. -/
structure Accounts (ops : List Operation) (edits edits' : List Edit)
    (posts posts' : List CommandVariant) (i : ServerStep) : Prop where
  edits : ops.filterMap Operation.edit? ++ edits' = edits ++ i.edit?.toList
  posts : ops.filterMap Operation.post? ++ posts' = posts ++ i.post?.toList

/-- A tick that has begun and is not over. -/
def Threads.pending (s : Threads) : ℕ := (decide (s.place ≠ .sleeping)).toNat

/-- What a step of the threads comes to in the atomic run. -/
def Simulated (tc : Toolchain) (a : Server) (edits : List Edit) (posts : List CommandVariant)
    (s : Threads) (i : ServerStep) (s' : Threads) : Prop :=
  ∃ ops edits' posts', UnderWay tc ((Server.operations tc).run a ops) edits' posts' s' ∧
    Accounts ops edits edits' posts posts' i ∧
    ops.countP Operation.isTick + s'.pending = s.pending + (s.wakes i).toNat

namespace UnderWay

variable {tc : Toolchain} {a : Server} {edits : List Edit} {posts : List CommandVariant}
  {s : Threads}

theorem edit (h : UnderWay tc a edits posts s) (edit : Edit) :
    Simulated tc a edits posts s (.edit edit) (s.serve tc (.edit edit)) := by
  have hrun : (Server.operations tc).run a [edit.operation] =
      ⟨edit.apply tc a.presetsHolder, a.reflowController⟩ :=
    edit.apply_operation a.presetsHolder a.reflowController
  have haccounts (posts : List CommandVariant) :
      Accounts [edit.operation] [] [] posts posts (.edit edit) := by
    constructor <;> simp [ServerStep.edit?, ServerStep.post?]
  have hticks : [edit.operation].countP Operation.isTick + s.pending =
      s.pending + (s.wakes (.edit edit)).toNat := by
    simp [Threads.wakes]
  cases h with
  | sleeping hplace hserver =>
    refine ⟨[edit.operation], [], [], ?_, haccounts [], hticks⟩
    rw [hrun, ← hserver]
    exact .sleeping hplace rfl
  | dispatching hplace hholder hhandled =>
    refine ⟨[edit.operation], [], [], ?_, haccounts [], hticks⟩
    rw [hrun]
    exact .dispatching hplace (congrArg (edit.apply tc) hholder) (hhandled.edit edit)
  | visiting hplace hholder hhandled =>
    refine ⟨[edit.operation], [], [], ?_, haccounts [], hticks⟩
    rw [hrun]
    exact .visiting hplace (congrArg (edit.apply tc) hholder) (hhandled.edit edit)
  | reading hplace hholder hhandled hc =>
    refine ⟨[edit.operation], [], posts, ?_, haccounts posts, hticks⟩
    rw [hrun]
    exact .reading hplace (congrArg (edit.apply tc) hholder) (hhandled.edit edit) hc
  | processing hplace hholder hhandled hc =>
    refine ⟨[edit.operation], [], posts, ?_, haccounts posts, hticks⟩
    rw [hrun]
    exact .processing hplace (congrArg (edit.apply tc) hholder) (hhandled.edit edit) hc
  | ticking input hplace hholder hhandled hstep hc =>
    -- the process step has seen the holder as it was before
    refine ⟨[], edits ++ [edit], posts, .ticking input hplace ?_ hhandled hstep hc, ⟨rfl, ?_⟩,
      Nat.zero_add _⟩
    · show edit.apply tc s.presetsHolder = _
      rw [List.foldl_append, hholder]
      rfl
    · exact (List.append_nil posts).symm

theorem post (h : UnderWay tc a edits posts s) (command : CommandVariant) :
    Simulated tc a edits posts s (.post command) (s.serve tc (.post command)) := by
  have hearly : Accounts [.postCommand command] [] [] [] [] (.post command) := ⟨rfl, rfl⟩
  have hlate (edits : List Edit) (posts : List CommandVariant) :
      Accounts [] edits edits posts (posts ++ [command]) (.post command) :=
    ⟨(List.append_nil _).symm, rfl⟩
  have hticks (ops : List Operation) (hops : ops.countP Operation.isTick = 0) :
      ops.countP Operation.isTick + s.pending = s.pending + (s.wakes (.post command)).toNat := by
    rw [hops, Nat.zero_add]
    rfl
  cases h with
  | sleeping hplace hserver =>
    refine ⟨[.postCommand command], [], [], .sleeping hplace ?_, hearly, hticks _ rfl⟩
    rw [← hserver]
    rfl
  | dispatching hplace hholder hhandled =>
    exact ⟨[.postCommand command], [], [], .dispatching hplace hholder (hhandled.post command),
      hearly, hticks _ rfl⟩
  | visiting hplace hholder hhandled =>
    exact ⟨[.postCommand command], [], [], .visiting hplace hholder (hhandled.post command),
      hearly, hticks _ rfl⟩
  | reading hplace hholder hhandled hc =>
    have hposted := congrArg (postCommand command) hc
    exact ⟨[], [], _, .reading hplace hholder hhandled hposted, hlate _ _, hticks _ rfl⟩
  | processing hplace hholder hhandled hc =>
    have hposted := congrArg (postCommand command) hc
    exact ⟨[], [], _, .processing hplace hholder hhandled hposted, hlate _ _, hticks _ rfl⟩
  | ticking input hplace hholder hhandled hstep hc =>
    have hposted := congrArg (postCommand command) hc
    exact ⟨[], edits, _, .ticking input hplace hholder hhandled hstep hposted, hlate _ _,
      hticks _ rfl⟩

/-- The atomic run takes the tick, and what was set aside behind it. -/
theorem finish {c : ReflowProcessController} {input i : TickInput} {s' : Threads}
    (hawake : s.place ≠ .sleeping) (hstate : (a.runnable tc input).state = c)
    (hplace : s'.place = .sleeping)
    (hholder : s'.presetsHolder =
      edits.foldl (fun holder edit => edit.apply tc holder) a.presetsHolder)
    (hcontroller : s'.controller = c.withQueue (c.requestsQueue ++ posts)) :
    Simulated tc a edits posts s (.work i) s' := by
  have htick : Server.apply tc a (.tick input) = ⟨a.presetsHolder, c⟩ := by
    rw [← hstate]
    rfl
  have hserver : s'.server = (Server.operations tc).run a (tickThen input edits posts) := by
    rw [tickThen, System.run_cons, System.run_append]
    refine (congrArg₂ Server.mk hholder hcontroller).trans ?_
    rw [← run_posts, ← Edit.run_operations, ← htick]
    rfl
  refine ⟨tickThen input edits posts, [], [], .sleeping hplace hserver, ⟨?_, ?_⟩, ?_⟩
  · rw [edits_tickThen]
    rfl
  · rw [posts_tickThen]
    rfl
  · rw [ticks_tickThen, Threads.pending, Threads.pending, Threads.wakes]
    simp [hplace, hawake]

/-- A step of the worker within a tick is not seen by the atomic run. -/
theorem stutter {i : TickInput} {posts : List CommandVariant} {s' : Threads}
    (h : UnderWay tc a edits posts s') (hawake : s'.place ≠ .sleeping) :
    Simulated tc a edits posts s (.work i) s' := by
  refine ⟨[], edits, posts, h, ⟨(List.append_nil _).symm, (List.append_nil _).symm⟩, ?_⟩
  rw [Threads.pending, Threads.pending, Threads.wakes]
  cases s.place <;> simp [hawake]

/-! ### The worker, place by place -/

section

variable {c : ReflowProcessController} {handled : List CommandVariant} (input : TickInput)

theorem work_sleeping (hplace : s.place = .sleeping) (hserver : s.server = a) :
    Simulated tc a [] [] s (.work input) (s.work tc input) := by
  have hwork : s.work tc input = { s with place := .dispatching, postedBefore := s.posted } := by
    simp only [Threads.work, hplace]
  rw [hwork]
  subst hserver
  exact stutter (.dispatching rfl rfl (Handled.nil tc s.server)) (by simp)

theorem work_dispatching (hplace : s.place = .dispatching)
    (hholder : s.presetsHolder = a.presetsHolder)
    (hhandled : Handled tc a handled s.controller.requestsQueue (s.controller.withQueue [])) :
    Simulated tc a [] [] s (.work input) (s.work tc input) := by
  cases hqueue : s.controller.requestsQueue with
  | nil =>
    have hwork : s.work tc input = { s with place := .reading } := by
      simp only [Threads.work, hplace, getOperation, hqueue]
    have hself : s.controller = (s.controller.withQueue []).withQueue [] := by
      rw [← hqueue]
      rfl
    rw [hqueue] at hhandled
    rw [hwork]
    exact stutter (.reading rfl hholder hhandled hself) (by simp)
  | cons command rest =>
    have hwork : s.work tc input =
        { s with
          controller := s.controller.withQueue rest
          place := .visiting command } := by
      simp only [Threads.work, hplace, getOperation, hqueue, withQueue]
    rw [hqueue] at hhandled
    rw [hwork]
    exact stutter (.visiting rfl hholder hhandled) (by simp)

/-- A handler that raises ends the tick. -/
theorem work_visiting {command : CommandVariant} (hplace : s.place = .visiting command)
    (hholder : s.presetsHolder = a.presetsHolder)
    (hhandled : Handled tc a handled (command :: s.controller.requestsQueue)
      (s.controller.withQueue [])) :
    Simulated tc a [] [] s (.work input) (s.work tc input) := by
  have hwork : s.work tc input = s.act tc (.visit a.presetsHolder command) .dispatching := by
    simp only [Threads.work, hplace, hholder]
  have hvisit : visitCommand tc a.presetsHolder command s.controller =
      (visitCommand tc a.presetsHolder command (s.controller.withQueue [])).map
        (withQueue s.controller.requestsQueue) :=
    visitCommand_map_withQueue s.controller.requestsQueue command (s.controller.withQueue [])
  rw [hwork]
  cases houtcome : visitCommand tc a.presetsHolder command (s.controller.withQueue []) with
  | done c =>
    rw [houtcome, Outcome.map_done] at hvisit
    have hacted : s.act tc (.visit a.presetsHolder command) .dispatching = _ :=
      Threads.act_done hvisit
    have hqueue : c.requestsQueue = [] := by
      have hkept := requestsQueue_visitCommand tc a.presetsHolder command
        (s.controller.withQueue [])
      rwa [houtcome] at hkept
    have hself : (c.withQueue s.controller.requestsQueue).withQueue [] = c := by
      rw [← hqueue]
      rfl
    have hnext := hhandled.visit houtcome
    rw [← hself] at hnext
    rw [hacted]
    exact stutter (.dispatching rfl hholder hnext) (by simp)
  | raised e c =>
    rw [houtcome, Outcome.map_raised] at hvisit
    have hacted : s.act tc (.visit a.presetsHolder command) .dispatching = _ :=
      Threads.act_raised hvisit
    have hrun := congrArg Outcome.state (hhandled.runnable_of_raised houtcome input)
    rw [hacted]
    refine finish (by simp [hplace]) hrun rfl hholder ?_
    rw [List.append_nil]
    rfl

theorem work_reading (hplace : s.place = .reading) (hholder : s.presetsHolder = a.presetsHolder)
    (hhandled : Handled tc a handled [] c) (hc : s.controller = c.withQueue posts) :
    Simulated tc a [] posts s (.work input) (s.work tc input) := by
  have hwork : s.work tc input =
      { s with
        controller := s.controller.requestModbusData input.reading
        place := .processing
        log := s.log ++ [.read input.reading] } := by
    simp only [Threads.work, hplace]
    exact Threads.act_done rfl
  have hread : s.controller.requestModbusData input.reading =
      (c.requestModbusData input.reading).withQueue posts := by
    rw [hc, requestModbusData_withQueue]
  rw [hwork]
  exact stutter (.processing rfl hholder hhandled hread) (by simp)

/-- A process step that raises ends the tick as well. -/
theorem work_processing {reading : Option ModbusReading} (hplace : s.place = .processing)
    (hholder : s.presetsHolder = a.presetsHolder) (hhandled : Handled tc a handled [] c)
    (hc : s.controller = (c.requestModbusData reading).withQueue posts) :
    Simulated tc a [] posts s (.work input) (s.work tc input) := by
  have hwork : s.work tc input = s.act tc (.process a.presetsHolder input.freed) .ticking := by
    simp only [Threads.work, hplace, hholder]
  have hstep : s.controller.processReflowStep a.presetsHolder input.freed =
      ((c.requestModbusData reading).processReflowStep a.presetsHolder input.freed).map
        (withQueue posts) := by
    rw [hc]
    exact processReflowStep_map_withQueue posts input.freed _
  rw [hwork]
  cases houtcome : (c.requestModbusData reading).processReflowStep a.presetsHolder
    input.freed with
  | done d =>
    rw [houtcome, Outcome.map_done] at hstep
    have hacted : s.act tc (.process a.presetsHolder input.freed) .ticking = _ :=
      Threads.act_done hstep
    rw [hacted]
    -- the tick's register answer is the one it has read
    exact stutter (.ticking ⟨reading, input.freed⟩ rfl hholder hhandled houtcome rfl) (by simp)
  | raised e d =>
    rw [houtcome, Outcome.map_raised] at hstep
    have hacted : s.act tc (.process a.presetsHolder input.freed) .ticking = _ :=
      Threads.act_raised hstep
    have hstate := congrArg Outcome.state (hhandled.runnable ⟨reading, input.freed⟩)
    rw [houtcome] at hstate
    rw [hacted]
    exact finish (by simp [hplace]) hstate rfl hholder rfl

theorem work_ticking {tick : TickInput} {d : ReflowProcessController} (hplace : s.place = .ticking)
    (hholder : s.presetsHolder =
      edits.foldl (fun holder edit => edit.apply tc holder) a.presetsHolder)
    (hhandled : Handled tc a handled [] c)
    (hstep : (c.requestModbusData tick.reading).processReflowStep a.presetsHolder tick.freed =
      .done d)
    (hc : s.controller = d.withQueue posts) :
    Simulated tc a edits posts s (.work input) (s.work tc input) := by
  have hwork : s.work tc input =
      { s with
        controller := s.controller.advanceSysTick
        place := .sleeping
        log := s.log ++ [.advance] } := by
    simp only [Threads.work, hplace]
    exact Threads.act_done rfl
  have hstate := congrArg Outcome.state (hhandled.runnable tick)
  rw [hstep, Outcome.bind_done] at hstate
  rw [hwork]
  refine finish (by simp [hplace]) hstate rfl hholder ?_
  show s.controller.advanceSysTick = _
  rw [hc, advanceSysTick_withQueue]
  rfl

end

/-- **Step lemma for the worker.** -/
theorem work (h : UnderWay tc a edits posts s) (input : TickInput) :
    Simulated tc a edits posts s (.work input) (s.serve tc (.work input)) := by
  show Simulated tc a edits posts s (.work input) (s.work tc input)
  cases h with
  | sleeping hplace hserver => exact work_sleeping input hplace hserver
  | dispatching hplace hholder hhandled => exact work_dispatching input hplace hholder hhandled
  | visiting hplace hholder hhandled => exact work_visiting input hplace hholder hhandled
  | reading hplace hholder hhandled hc => exact work_reading input hplace hholder hhandled hc
  | processing hplace hholder hhandled hc => exact work_processing input hplace hholder hhandled hc
  | ticking tick hplace hholder hhandled hstep hc =>
    exact work_ticking input hplace hholder hhandled hstep hc

/-- **Step lemma**, whichever thread is next. -/
theorem step (h : UnderWay tc a edits posts s) (i : ServerStep) :
    Simulated tc a edits posts s i (s.serve tc i) := by
  cases i with
  | edit edit => exact h.edit edit
  | post command => exact h.post command
  | work input => exact h.work input

variable (tc) in
/-- **Run lemma.** -/
theorem run (t : ℤ) (steps : List ServerStep) :
    ∃ ops edits posts,
      UnderWay tc ((Server.operations tc).run ⟨.make, .make t⟩ ops) edits posts
        ((Threads.serving tc).run (.start .make t) steps) ∧
      ops.filterMap Operation.edit? ++ edits = steps.filterMap ServerStep.edit? ∧
      ops.filterMap Operation.post? ++ posts = steps.filterMap ServerStep.post? ∧
      ops.countP Operation.isTick + ((Threads.serving tc).run (.start .make t) steps).pending =
        Threads.wakeUps tc (.start .make t) steps := by
  induction steps using List.reverseRecOn with
  | nil => exact ⟨[], [], [], .sleeping rfl rfl, rfl, rfl, rfl⟩
  | append_singleton steps i ih =>
    obtain ⟨ops, edits, posts, hunderWay, hedits, hposts, hticks⟩ := ih
    obtain ⟨ops', edits', posts', hnext, haccounts, hticks'⟩ := hunderWay.step i
    have hconcat : (Threads.serving tc).run (.start .make t) (steps ++ [i]) =
        ((Threads.serving tc).run (.start .make t) steps).serve tc i := System.run_append _ _ _
    rw [← System.run_append] at hnext
    rw [hconcat]
    refine ⟨ops ++ ops', edits', posts', hnext, ?_, ?_, ?_⟩
    · rw [List.filterMap_append, List.append_assoc, haccounts.edits, ← List.append_assoc, hedits,
        List.filterMap_append]
      cases i <;> rfl
    · rw [List.filterMap_append, List.append_assoc, haccounts.posts, ← List.append_assoc, hposts,
        List.filterMap_append]
      cases i <;> rfl
    · rw [Threads.wakeUps_concat, ← hticks, List.countP_append]
      omega

end UnderWay

namespace Threads

variable {tc : Toolchain}

/-- **Interleavings refine atomic ticks.** Whatever the HTTP threads do between the steps of the
worker, the server found between two ticks is one that atomic ticks come to: as many of them as the
worker has begun, among the same edits in the same order and the same posts in the same order. -/
theorem serving_refines (t : ℤ) (steps : List ServerStep)
    (hsleeping : ((serving tc).run (.start .make t) steps).place = .sleeping) :
    ∃ ops, (Server.operations tc).run ⟨.make, .make t⟩ ops =
        ((serving tc).run (.start .make t) steps).server ∧
      ops.filterMap Operation.edit? = steps.filterMap ServerStep.edit? ∧
      ops.filterMap Operation.post? = steps.filterMap ServerStep.post? ∧
      ops.countP Operation.isTick = wakeUps tc (.start .make t) steps := by
  obtain ⟨ops, edits, posts, hunderWay, hedits, hposts, hticks⟩ := UnderWay.run tc t steps
  have hpending : ((serving tc).run (.start .make t) steps).pending = 0 := by
    simp [pending, hsleeping]
  cases hunderWay with
  | sleeping hplace hserver =>
    rw [List.append_nil] at hedits hposts
    rw [hpending] at hticks
    exact ⟨ops, hserver.symm, hedits, hposts, hticks⟩
  | dispatching hplace => simp [hplace] at hsleeping
  | visiting hplace => simp [hplace] at hsleeping
  | reading hplace => simp [hplace] at hsleeping
  | processing hplace => simp [hplace] at hsleeping
  | ticking _ hplace => simp [hplace] at hsleeping

/-- A preset is edited behind the process step and a start is posted behind the dispatch loop, both
within the first tick. -/
def interruptedTick : List ServerStep :=
  let tick : TickInput := ⟨none, ⟨0, 0⟩⟩
  [.edit (.addNewPreset "lead"), .post (.selectPreset 4), .work tick, .work tick, .work tick,
    .work tick, .post .startReflow, .work tick, .work tick, .edit (.addStageItem 4 ⟨183, 30⟩),
    .work tick]

theorem serving_refines_interruptedTick :
    ∃ ops, (Server.operations .sample).run ⟨.make, .make 0⟩ ops =
        ((serving .sample).run (.start .make 0) interruptedTick).server ∧
      ops.filterMap Operation.edit? = interruptedTick.filterMap ServerStep.edit? ∧
      ops.filterMap Operation.post? = interruptedTick.filterMap ServerStep.post? ∧
      ops.countP Operation.isTick = wakeUps .sample (.start .make 0) interruptedTick :=
  serving_refines 0 interruptedTick (by decide)

/-! ## Every atomic run is an interleaving -/

theorem reachable_serve {s : Threads} (hs : (serving tc).Reachable s) (i : ServerStep) :
    (serving tc).Reachable (s.serve tc i) := .step hs trivial

/-- The worker on its own. -/
theorem reachable_of_worksTo {input : TickInput} {s s' : Threads} (h : WorksTo tc input s s')
    (hs : (serving tc).Reachable s) : (serving tc).Reachable s' := by
  induction h with
  | refl => exact hs
  | tail _ hwork ih =>
    rw [hwork]
    exact reachable_serve ih (.work input)

theorem exists_of_reachable {S : Server} (hS : (Server.operations tc).Reachable S) :
    ∃ s, (serving tc).Reachable s ∧ s.place = .sleeping ∧ s.server = S := by
  induction hS with
  | start hinit =>
    obtain ⟨hholder, t, hcontroller⟩ := hinit
    exact ⟨.start .make t, .start ⟨t, rfl⟩, rfl, congrArg₂ Server.mk hholder.symm hcontroller.symm⟩
  | @step S op _ _ ih =>
    obtain ⟨s, hs, hplace, rfl⟩ := ih
    have hedit (edit : Edit) : ∃ s', (serving tc).Reachable s' ∧ s'.place = .sleeping ∧
        s'.server = Server.apply tc s.server edit.operation :=
      ⟨s.serve tc (.edit edit), reachable_serve hs _, hplace,
        (edit.apply_operation s.presetsHolder s.controller).symm⟩
    cases op with
    | addNewPreset name => exact hedit (.addNewPreset name)
    | setName id name => exact hedit (.setName id name)
    | addStageItem id item => exact hedit (.addStageItem id item)
    | replaceStageItem id idx item => exact hedit (.replaceStageItem id idx item)
    | postCommand command =>
      exact ⟨s.serve tc (.post command), reachable_serve hs _, hplace, rfl⟩
    | tick input =>
      obtain ⟨s', hworks, hplace', hholder, hcontroller⟩ : ∃ s', WorksTo tc input s s' ∧ _ :=
        worksTo_runnable hplace
      exact ⟨s', reachable_of_worksTo hworks hs, hplace', congrArg₂ Server.mk hholder hcontroller⟩

theorem exists_underWay {s : Threads} (hs : (serving tc).Reachable s) :
    ∃ a edits posts, (Server.operations tc).Reachable a ∧ UnderWay tc a edits posts s := by
  refine System.Reachable.invariant (M := serving tc)
    (I := fun s => ∃ a edits posts, (Server.operations tc).Reachable a ∧
      UnderWay tc a edits posts s) ?_ ?_ hs
  · rintro s ⟨t, rfl⟩
    exact ⟨_, [], [], .start ⟨rfl, t, rfl⟩, .sleeping rfl rfl⟩
  · rintro s i ⟨a, edits, posts, ha, hunderWay⟩
    obtain ⟨ops, edits', posts', hnext, -⟩ := hunderWay.step i
    exact ⟨_, edits', posts', ha.run ops, hnext⟩

/-- **Taking ticks as atomic loses no state and adds none**: the servers found between two ticks
are the reachable ones. -/
theorem between_ticks_iff (tc : Toolchain) (S : Server) :
    (∃ s, (serving tc).Reachable s ∧ s.place = .sleeping ∧ s.server = S) ↔
      (Server.operations tc).Reachable S := by
  refine ⟨?_, exists_of_reachable⟩
  rintro ⟨s, hs, hsleeping, rfl⟩
  obtain ⟨a, edits, posts, ha, hunderWay⟩ := exists_underWay hs
  cases hunderWay with
  | sleeping hplace hserver => exact hserver ▸ ha
  | dispatching hplace => simp [hplace] at hsleeping
  | visiting hplace => simp [hplace] at hsleeping
  | reading hplace => simp [hplace] at hsleeping
  | processing hplace => simp [hplace] at hsleeping
  | ticking _ hplace => simp [hplace] at hsleeping

end Threads

end ReflowTable

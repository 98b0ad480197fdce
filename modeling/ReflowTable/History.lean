import ReflowTable.Lib.Histories
import ReflowTable.RunInvariant

/-!
# The history of a server

A tick is a sequence of moments: one for every command the dispatch loop takes off the queue,
and one for the process step with the clock, unless an exception came first. The moments of a
run of operations are its history. They form a path (`history_path`): from one moment to the
next only the queue and the register data change, by commands posted and registers read.

The trace of a run is what its moments add to it (`trace_history`), so a statement about every
moment of a history is a statement about every register write.
-/

namespace ReflowTable

open ReflowProcessController

namespace ReflowProcessController

variable (c : ReflowProcessController)

theorem advanceSysTick_of_running (h : c.isReflowRunning = true) :
    c.advanceSysTick = { c with sysTickTime := c.sysTickTime + kSystickResolution } := if_pos h

theorem advanceSysTick_of_idle (h : c.isReflowRunning = false) : c.advanceSysTick = c :=
  if_neg (by simp [h])

@[simp] theorem isReflowRunning_advanceSysTick :
    c.advanceSysTick.isReflowRunning = c.isReflowRunning := by
  unfold advanceSysTick
  split_ifs <;> rfl

@[simp] theorem activePreset_advanceSysTick : c.advanceSysTick.activePreset = c.activePreset := by
  unfold advanceSysTick
  split_ifs <;> rfl

@[simp] theorem reflowProcessData_advanceSysTick :
    c.advanceSysTick.reflowProcessData = c.reflowProcessData := by
  unfold advanceSysTick
  split_ifs <;> rfl

@[simp] theorem trace_advanceSysTick : c.advanceSysTick.trace = c.trace := by
  unfold advanceSysTick
  split_ifs <;> rfl

end ReflowProcessController

/-- What the controller does at a moment of a tick. -/
inductive Activity
  /-- one iteration of the dispatch loop -/
  | handle (command : CommandVariant)
  /-- the process step and the clock; `freed` is what freed memory holds -/
  | process (freed : StageItem)

/-- A moment of a tick: what is done, with the holder and the controller it is done to. -/
structure Moment where
  holder : PresetsHolder
  activity : Activity
  before : ReflowProcessController

namespace Moment

variable (tc : Toolchain)

def outcome (m : Moment) : Outcome Fault ReflowProcessController :=
  match m.activity with
  | .handle command => handleOperation tc m.holder command m.before
  | .process freed =>
    (m.before.processReflowStep m.holder freed).bind fun s => .done s.advanceSysTick

def after (m : Moment) : ReflowProcessController := (m.outcome tc).state

/-- What the moment adds to the trace. -/
def effects (m : Moment) : List Effect := (m.after tc).trace.drop m.before.trace.length

variable {tc} {m : Moment}

variable (tc) in
/-- A process moment makes at most one change, and lets the time pass if a run is on. -/
theorem after_process {freed : StageItem} (h : m.activity = .process freed) :
    ∃ c, Relation.ReflGen (ProcessChange m.holder freed) m.before c ∧
      (m.after tc = c ∨ m.after tc = c.advanceSysTick) := by
  have hafter : m.after tc =
      ((m.before.processReflowStep m.holder freed).bind fun s => .done s.advanceSysTick).state := by
    unfold after outcome
    rw [h]
  refine ⟨_, processReflowStep_reflGen m.before, ?_⟩
  rw [hafter]
  cases m.before.processReflowStep m.holder freed with
  | raised e c => exact .inl rfl
  | done c => exact .inr rfl

/-- A moment only adds to the trace. -/
theorem trace_prefix_after (m : Moment) : m.before.trace <+: (m.after tc).trace := by
  unfold after outcome
  cases m.activity with
  | handle command =>
    exact (handleOperation_follows command).keeps (I := fun c => m.before.trace <+: c.trace)
      (fun _ _ hstep hprefix => hprefix.trans (CommandChange.trace_extends hstep)) _
      (List.prefix_refl _)
  | process freed =>
    exact (process_follows m.holder freed).keeps (I := fun c => m.before.trace <+: c.trace)
      (fun _ _ hstep hprefix => hprefix.trans (ProcessChange.trace_extends hstep)) _
      (List.prefix_refl _)

theorem trace_after (m : Moment) : (m.after tc).trace = m.before.trace ++ m.effects tc := by
  obtain ⟨added, hadded⟩ := m.trace_prefix_after
  rw [effects, ← hadded, List.drop_left]

/-! ## Runs begin and end -/

/-- A `SelectPreset` is handled while idle, and finds this preset. -/
def Selects (ptr : PresetPtr) (m : Moment) : Prop :=
  ∃ id, m.activity = .handle (.selectPreset id) ∧ m.before.isReflowRunning = false ∧
    m.holder.presetsStorage.lookup id = some ptr

/-- A `StartReflow` is handled while idle, with this preset selected. -/
def OpensRun (ptr : PresetPtr) (m : Moment) : Prop :=
  m.activity = .handle .startReflow ∧ m.before.isReflowRunning = false ∧
    m.before.activePreset = some ptr

variable (tc) in
/-- A run is on before this moment and no longer after it. -/
def EndsRun (m : Moment) : Prop :=
  m.before.isReflowRunning = true ∧ (m.after tc).isReflowRunning = false

instance (m : Moment) : Decidable (m.EndsRun tc) := inferInstanceAs (Decidable (_ ∧ _))

variable (tc) in
/-- What a moment can do to the run that is on, or to the selection for the next. -/
inductive RunStep (m : Moment) : Prop
  | waits : m.before.isReflowRunning = false → (m.after tc).isReflowRunning = false →
      (m.after tc).activePreset = m.before.activePreset → (∀ ptr, ¬ m.Selects ptr) → RunStep m
  | selects (ptr : PresetPtr) : m.Selects ptr → (m.after tc).isReflowRunning = false →
      (m.after tc).activePreset = some ptr → RunStep m
  | opens (ptr : PresetPtr) : m.OpensRun ptr → (m.after tc).isReflowRunning = true →
      (m.after tc).activePreset = some ptr → RunStep m
  | goesOn : m.before.isReflowRunning = true → (m.after tc).isReflowRunning = true →
      (m.after tc).activePreset = m.before.activePreset → RunStep m
  | ends : m.before.isReflowRunning = true → (m.after tc).isReflowRunning = false →
      (m.after tc).activePreset = none → RunStep m

variable (tc) in
/-- A process moment does nothing while idle. -/
theorem after_process_of_idle {freed : StageItem} (h : m.activity = .process freed)
    (hidle : m.before.isReflowRunning = false) : m.after tc = m.before := by
  obtain ⟨c, hchange, hafter⟩ := after_process tc h
  have hc : c = m.before := by
    cases hchange with
    | refl => rfl
    | single hstep => cases hstep <;> simp_all
  rw [hc, advanceSysTick, hidle] at hafter
  simpa using hafter

variable (tc) in
theorem runStep_process {freed : StageItem} (h : m.activity = .process freed) :
    m.RunStep tc := by
  have hnot : ∀ ptr, ¬ m.Selects ptr := by
    rintro ptr ⟨id, hactivity, -⟩
    rw [h] at hactivity
    cases hactivity
  cases hrun : m.before.isReflowRunning with
  | false =>
    have hafter : m.after tc = m.before := after_process_of_idle tc h hrun
    exact .waits hrun (hafter ▸ hrun) (by rw [hafter]) hnot
  | true =>
    obtain ⟨c, hchange, hafter⟩ := after_process tc h
    have hclock : (m.after tc).isReflowRunning = c.isReflowRunning ∧
        (m.after tc).activePreset = c.activePreset := by
      rcases hafter with heq | heq <;> simp [heq]
    have hcases : (c.isReflowRunning = true ∧ c.activePreset = m.before.activePreset) ∨
        (c.isReflowRunning = false ∧ c.activePreset = none) := by
      cases hchange with
      | refl => exact .inl ⟨hrun, rfl⟩
      | single hstep =>
        cases hstep with
        | finish => exact .inr ⟨rfl, rfl⟩
        | _ => exact .inl ⟨hrun, rfl⟩
    rcases hcases with ⟨hon, hsame⟩ | ⟨hoff, hnone⟩
    · exact .goesOn hrun (hclock.1.trans hon) (hclock.2.trans hsame)
    · exact .ends hrun (hclock.1.trans hoff) (hclock.2.trans hnone)

/-- A moment that leaves the flag and the preset alone. -/
theorem runStep_of_same (hrun : (m.after tc).isReflowRunning = m.before.isReflowRunning)
    (hpreset : (m.after tc).activePreset = m.before.activePreset)
    (hnot : ∀ ptr, ¬ m.Selects ptr) : m.RunStep tc := by
  cases hbefore : m.before.isReflowRunning with
  | false => exact .waits hbefore (hrun.trans hbefore) hpreset hnot
  | true => exact .goesOn hbefore (hrun.trans hbefore) hpreset

variable (tc) in
/-- At the moment of a command its handler sees the state with the command off the queue. -/
theorem after_handle {command : CommandVariant} (h : m.activity = .handle command) :
    ∃ o, CommandEffect tc m.holder
        { m.before with requestsQueue := m.before.requestsQueue.tail } command o ∧
      m.after tc = o.state := by
  refine ⟨_, visitCommand_effect tc m.holder command _, ?_⟩
  unfold after outcome
  rw [h]
  rfl

variable (tc) in
theorem runStep_handle {command : CommandVariant} (h : m.activity = .handle command) :
    m.RunStep tc := by
  obtain ⟨o, heffect, hafter⟩ := after_handle tc h
  have hrun := congrArg ReflowProcessController.isReflowRunning hafter
  have hpreset := congrArg ReflowProcessController.activePreset hafter
  have hnot (hother : ∀ id, command ≠ .selectPreset id) (ptr : PresetPtr) : ¬ m.Selects ptr := by
    rintro ⟨id, hselect, -⟩
    exact hother id (Activity.handle.inj (h.symm.trans hselect))
  cases heffect with
  | startUnselected => exact runStep_of_same hrun hpreset (hnot (by simp))
  | @start ptr hptr =>
    cases hidle : m.before.isReflowRunning with
    | false => exact .opens ptr ⟨h, hidle, hptr⟩ hrun (hpreset.trans hptr)
    | true => exact .goesOn hidle hrun hpreset
  | stopIdle => exact runStep_of_same hrun hpreset (hnot (by simp))
  | stop hon => exact .ends hon hrun hpreset
  | selectRunning hon => exact .goesOn hon (hrun.trans hon) hpreset
  | @select id ptr hidle hl => exact .selects ptr ⟨id, h, hidle, hl⟩ (hrun.trans hidle) hpreset
  | selectUnknown hidle hnone =>
    refine .waits hidle (hrun.trans hidle) hpreset ?_
    rintro ptr ⟨id', hselect, -, hl⟩
    cases h.symm.trans hselect
    rw [hnone] at hl
    cases hl
  | setParams => exact runStep_of_same hrun hpreset (hnot (by simp))

variable (tc) in
/-- **Step lemma.** -/
theorem runStep (m : Moment) : m.RunStep tc := by
  cases h : m.activity with
  | process freed => exact runStep_process tc h
  | handle command => exact runStep_handle tc h

/-- A `SelectPreset` handled during a run is only taken off the queue. -/
theorem after_selectPreset_of_running {id : UInt64}
    (h : m.activity = .handle (.selectPreset id)) (hrun : m.before.isReflowRunning = true) :
    m.after tc = { m.before with requestsQueue := m.before.requestsQueue.tail } := by
  obtain ⟨o, heffect, hafter⟩ := after_handle tc h
  rw [hafter]
  cases heffect with
  | selectRunning => rfl
  | select hidle => simp [hrun] at hidle
  | selectUnknown hidle => simp [hrun] at hidle

/-- A `StopReflow` handled during a run ends it. -/
theorem after_stopReflow_of_running (h : m.activity = .handle .stopReflow)
    (hrun : m.before.isReflowRunning = true) :
    m.after tc = ({ m.before with requestsQueue := m.before.requestsQueue.tail } :
      ReflowProcessController).ended := by
  obtain ⟨o, heffect, hafter⟩ := after_handle tc h
  rw [hafter]
  cases heffect with
  | stopIdle hidle => simp [hrun] at hidle
  | stop => rfl

variable (tc) in
/-- A command other than `StopReflow`, handled during a run, leaves the run on; if it changes the
process data, it rewinds the step. -/
theorem after_handle_of_running {command : CommandVariant} {ptr : PresetPtr}
    (h : m.activity = .handle command) (hstop : command ≠ .stopReflow)
    (hrun : m.before.isReflowRunning = true) (hptr : m.before.activePreset = some ptr) :
    (m.after tc).isReflowRunning = true ∧ (m.after tc).activePreset = some ptr ∧
      ((m.after tc).reflowProcessData = m.before.reflowProcessData ∨
        (m.after tc).reflowProcessData =
          { m.before.reflowProcessData with reflowStep := .kInitStep }) := by
  obtain ⟨o, heffect, hafter⟩ := after_handle tc h
  rw [hafter]
  cases heffect with
  | startUnselected hnone => simp [hptr] at hnone
  | start => exact ⟨rfl, hptr, .inr rfl⟩
  | stopIdle => exact absurd rfl hstop
  | stop => exact absurd rfl hstop
  | selectRunning => exact ⟨hrun, hptr, .inl rfl⟩
  | select hidle => simp [hrun] at hidle
  | selectUnknown hidle => simp [hrun] at hidle
  | setParams => exact ⟨hrun, hptr, .inl rfl⟩

/-! ## The init step -/

/-- The process step of this moment executes `handleInitStep`. -/
structure ExecutesInit (m : Moment) : Prop where
  process : ∃ freed, m.activity = .process freed
  running : m.before.isReflowRunning = true
  selected : m.before.activePreset ≠ none
  step : m.before.reflowProcessData.reflowStep = .kInitStep

namespace ExecutesInit

variable {ptr : PresetPtr}

theorem outcome_eq (hinit : m.ExecutesInit) :
    ∃ freed, m.outcome tc =
      (m.before.handleInitStep m.holder freed).bind fun s => .done s.advanceSysTick := by
  obtain ⟨⟨freed, hprocess⟩, hrun, hselected, hstep⟩ := hinit
  obtain ⟨ptr, hptr⟩ := Option.ne_none_iff_exists'.mp hselected
  refine ⟨freed, ?_⟩
  unfold outcome
  rw [hprocess, ← processReflowStep_of_init hptr hrun hstep]

/-- It takes the stage at the index. -/
theorem after_of_some (hinit : m.ExecutesInit) (hptr : m.before.activePreset = some ptr)
    {item : StageItem} (hitem : (m.holder.objects ptr).presetItems.items[
      m.before.reflowProcessData.activeStageIndex]? = some item) :
    m.after tc = (m.before.entered ⟨ptr, (m.holder.objects ptr).presetItems.ptrTo
      m.before.reflowProcessData.activeStageIndex⟩ item).advanceSysTick := by
  obtain ⟨freed, houtcome⟩ := hinit.outcome_eq
  rw [after, houtcome, handleInitStep_of_getElem? hptr hitem]
  rfl

variable (tc) in
theorem targetWords_after (hinit : m.ExecutesInit) (hptr : m.before.activePreset = some ptr)
    {item : StageItem} (hitem : (m.holder.objects ptr).presetItems.items[
      m.before.reflowProcessData.activeStageIndex]? = some item) :
    targetWords (m.after tc).trace =
      targetWords m.before.trace ++ [item.temperatureStep.toUInt16] := by
  rw [hinit.after_of_some hptr hitem, trace_advanceSysTick, targetWords_entered]

/-- It throws when there is none. -/
theorem after_of_none (hinit : m.ExecutesInit) (hptr : m.before.activePreset = some ptr)
    (hitem : (m.holder.objects ptr).presetItems.items[
      m.before.reflowProcessData.activeStageIndex]? = none) : m.after tc = m.before := by
  obtain ⟨freed, houtcome⟩ := hinit.outcome_eq
  rw [after, houtcome, handleInitStep_of_le hptr (List.getElem?_eq_none_iff.mp hitem)]
  rfl

end ExecutesInit

/-- Only `handleInitStep` takes stages. -/
theorem stagesEntered_effects_of_not (hnot : ¬ m.ExecutesInit) :
    stagesEntered (m.effects tc) = [] := by
  have hsame : stagesEntered (m.after tc).trace = stagesEntered m.before.trace := by
    cases h : m.activity with
    | handle command =>
      have hcommand (c c' : ReflowProcessController) (hstep : CommandChange tc m.holder c c') :
          stagesEntered c'.trace = stagesEntered c.trace := by
        cases hstep <;> simp [ended, started, setRegulatorParams]
      unfold after outcome
      rw [h]
      exact (handleOperation_follows command).keeps
        (I := fun c => stagesEntered c.trace = stagesEntered m.before.trace)
        (fun c c' hstep hc => (hcommand c c' hstep).trans hc) _ rfl
    | process freed =>
      obtain ⟨c, hchange, hafter⟩ := after_process tc h
      have htrace : (m.after tc).trace = c.trace := by
        rcases hafter with heq | heq <;> simp [heq]
      rw [htrace]
      cases hchange with
      | refl => rfl
      | single hstep =>
        cases hstep with
        | enter hrun hptr hinit =>
          exact absurd ⟨⟨freed, h⟩, hrun, by simp [hptr], hinit⟩ hnot
        | _ => simp [ended, movedOn, soaking, soaked]
  rw [m.trace_after, stagesEntered_append] at hsame
  exact List.append_right_eq_self.mp hsame

/-- The stages a moment takes. -/
theorem mem_stagesEntered_effects_iff {ptr : PresetPtr} {i : ℕ} {item : StageItem} :
    (ptr, i, item) ∈ stagesEntered (m.effects tc) ↔
      m.ExecutesInit ∧ m.before.activePreset = some ptr ∧
        m.before.reflowProcessData.activeStageIndex = i ∧
        (m.holder.objects ptr).presetItems.items[i]? = some item := by
  by_cases hinit : m.ExecutesInit
  · obtain ⟨ptr', hptr'⟩ := Option.ne_none_iff_exists'.mp hinit.selected
    cases hitem : (m.holder.objects ptr').presetItems.items[
        m.before.reflowProcessData.activeStageIndex]? with
    | none =>
      rw [effects, hinit.after_of_none hptr' hitem, List.drop_length]
      refine iff_of_false (List.not_mem_nil) ?_
      rintro ⟨-, hptr, rfl, hsome⟩
      obtain rfl : ptr' = ptr := Option.some.inj (hptr'.symm.trans hptr)
      rw [hitem] at hsome
      cases hsome
    | some item' =>
      have hentered : stagesEntered (m.effects tc) =
          [(ptr', m.before.reflowProcessData.activeStageIndex, item')] := by
        have hafter : stagesEntered (m.after tc).trace = stagesEntered m.before.trace ++
            [(ptr', m.before.reflowProcessData.activeStageIndex, item')] := by
          rw [hinit.after_of_some hptr' hitem, trace_advanceSysTick, stagesEntered_entered]
        rw [m.trace_after, stagesEntered_append] at hafter
        exact List.append_cancel_left hafter
      rw [hentered, List.mem_singleton, Prod.mk.injEq, Prod.mk.injEq]
      constructor
      · rintro ⟨rfl, rfl, rfl⟩
        exact ⟨hinit, hptr', rfl, hitem⟩
      · rintro ⟨-, hptr, rfl, hsome⟩
        obtain rfl : ptr' = ptr := Option.some.inj (hptr'.symm.trans hptr)
        exact ⟨rfl, rfl, Option.some.inj (hsome.symm.trans hitem)⟩
  · rw [stagesEntered_effects_of_not hinit]
    exact iff_of_false List.not_mem_nil fun hentered => hinit hentered.1

end Moment

namespace ReflowProcessController

variable (tc : Toolchain) (holder : PresetsHolder)

/-- The moments of the dispatch loop; an exception ends it. -/
def dispatchMoments : List CommandVariant → ReflowProcessController → List Moment
  | [], _ => []
  | command :: queue, c =>
    ⟨holder, .handle command, c⟩ ::
      match handleOperation tc holder command c with
      | .done c' => dispatchMoments queue c'
      | .raised _ _ => []

def tickMoments (input : TickInput) (c : ReflowProcessController) : List Moment :=
  dispatchMoments tc holder c.requestsQueue c ++
    match c.dispatchCommandsQueue tc holder with
    | .done c' => [⟨holder, .process input.freed, c'.requestModbusData input.reading⟩]
    | .raised _ _ => []

/-- Two states that differ in the queue and the register data only. -/
def SameRun (c c' : ReflowProcessController) : Prop :=
  ∃ queue data, c' = { c with requestsQueue := queue, lastModbusData := data }

theorem SameRun.refl (c : ReflowProcessController) : SameRun c c :=
  ⟨c.requestsQueue, c.lastModbusData, rfl⟩

theorem SameRun.trans {c c' c'' : ReflowProcessController} (h : SameRun c c')
    (h' : SameRun c' c'') : SameRun c c'' := by
  obtain ⟨queue, data, rfl⟩ := h
  obtain ⟨queue', data', rfl⟩ := h'
  exact ⟨queue', data', rfl⟩

/-- Moments as occurrences. -/
def moments : Occurrences ReflowProcessController Moment where
  before := Moment.before
  after := Moment.after tc
  between := SameRun
  refl := SameRun.refl
  trans := SameRun.trans

variable {tc holder} {c : ReflowProcessController}

theorem dispatchMoments_path (queue : List CommandVariant) (c : ReflowProcessController) :
    (moments tc).Path c (dispatchMoments tc holder queue c)
      (Outcome.sweep (handleOperation tc holder) queue c).state := by
  induction queue generalizing c with
  | nil => exact .refl c
  | cons command queue ih =>
    have hafter : Moment.after tc ⟨holder, .handle command, c⟩ =
        (handleOperation tc holder command c).state := rfl
    refine .cons (SameRun.refl c) ?_
    show (moments tc).Path (Moment.after tc ⟨holder, .handle command, c⟩) _ _
    rw [hafter, Outcome.sweep_cons]
    cases handleOperation tc holder command c with
    | done c' => exact ih c'
    | raised e c' => exact .refl c'

theorem sameRun_requestModbusData (reading : Option ModbusReading) :
    SameRun c (c.requestModbusData reading) := by
  cases reading with
  | none => exact .refl c
  | some words => exact ⟨c.requestsQueue, decodeReading words, rfl⟩

/-- **The moments of a tick lead from the state before it to the state after it.** -/
theorem tickMoments_path (input : TickInput) (c : ReflowProcessController) :
    (moments tc).Path c (tickMoments tc holder input c)
      (c.runnable tc holder input).state := by
  have hdispatch : (moments tc).Path c (dispatchMoments tc holder c.requestsQueue c)
      (c.dispatchCommandsQueue tc holder).state := dispatchMoments_path c.requestsQueue c
  unfold tickMoments runnable
  cases hend : c.dispatchCommandsQueue tc holder with
  | raised e c' =>
    rw [hend] at hdispatch
    rw [List.append_nil]
    exact hdispatch
  | done c' =>
    rw [hend] at hdispatch
    exact hdispatch.append (.cons (sameRun_requestModbusData input.reading) (.refl _))

/-- What every elementary change keeps holds before each moment of a tick. -/
theorem forall_tickMoments {I : PresetsHolder → ReflowProcessController → Prop}
    {input : TickInput} (hstep : ∀ c c', Transition tc holder input.freed c c' →
      I holder c → I holder c') (hI : I holder c) :
    ∀ m ∈ tickMoments tc holder input c, I m.holder m.before := by
  have hcommand : ∀ command, Outcome.Keeps (I holder) (handleOperation tc holder command) :=
    fun command => (handleOperation_follows command).keeps fun _ _ h => hstep _ _ (.command h)
  have hdispatch : ∀ queue c, I holder c →
      ∀ m ∈ dispatchMoments tc holder queue c, I m.holder m.before := by
    intro queue
    induction queue with
    | nil => simp [dispatchMoments]
    | cons command queue ih =>
      intro c hc m hm
      rcases List.mem_cons.mp hm with hfirst | hrest
      · rw [hfirst]
        exact hc
      · have hnext := hcommand command c hc
        cases hdone : handleOperation tc holder command c with
        | raised e c' => simp [hdone] at hrest
        | done c' =>
          rw [hdone] at hrest hnext
          exact ih c' hnext m hrest
  intro m hm
  rcases List.mem_append.mp hm with hqueue | hprocess
  · exact hdispatch _ c hI m hqueue
  · have hdrained : I holder (c.dispatchCommandsQueue tc holder).state :=
      Outcome.sweep_keeps c.requestsQueue (fun command _ => hcommand command) c hI
    cases hend : c.dispatchCommandsQueue tc holder with
    | raised e c' => simp [hend] at hprocess
    | done c' =>
      rw [hend] at hprocess hdrained
      rw [List.mem_singleton.mp hprocess]
      show I holder (c'.requestModbusData input.reading)
      cases input.reading with
      | none => exact hdrained
      | some words => exact hstep _ _ (.read words) hdrained

end ReflowProcessController

/-! ## Histories of operations -/

namespace Server

/-- The moments of an operation: only a tick has any. -/
def moments (tc : Toolchain) (s : Server) : Operation → List Moment
  | .tick input => s.reflowController.tickMoments tc s.presetsHolder input
  | _ => []

def history (tc : Toolchain) (s : Server) (ops : List Operation) : List Moment :=
  (operations tc).history (moments tc) s ops

variable {tc : Toolchain} {s : Server}

theorem moments_path (s : Server) (op : Operation) :
    (ReflowProcessController.moments tc).Path s.reflowController (s.moments tc op)
      (s.apply tc op).reflowController := by
  cases op with
  | tick input => exact tickMoments_path input s.reflowController
  | postCommand command =>
    exact .nil ⟨s.reflowController.requestsQueue ++ [command],
      s.reflowController.lastModbusData, rfl⟩
  | addNewPreset name =>
    show (ReflowProcessController.moments tc).Path _ [] (s.addNewPreset tc name).reflowController
    rw [reflowController_addNewPreset]
    exact .refl _
  -- the others call a member function of one preset
  | setName id _ | addStageItem id _ | replaceStageItem id _ _ =>
    show (ReflowProcessController.moments tc).Path _ [] (s.onPreset id _).reflowController
    rw [reflowController_onPreset]
    exact .refl _

/-- **The history of a run is a path** of the controller. -/
theorem history_path (s : Server) (ops : List Operation) :
    (ReflowProcessController.moments tc).Path s.reflowController (s.history tc ops)
      ((operations tc).run s ops).reflowController := by
  induction ops generalizing s with
  | nil => exact .refl _
  | cons op ops ih => exact (moments_path s op).append (ih (s.apply tc op))

/-- **Invariant rule for histories**, with the premises of `reachable_invariant`: what they keep
holds before every moment. -/
theorem forall_history {I : PresetsHolder → ReflowProcessController → Prop}
    (hinit : ∀ t, I .make (.make t))
    (hgrow : ∀ h h' c, h.GrowsTo h' → I h c → I h' c)
    (hqueue : ∀ h c q, I h c → I h { c with requestsQueue := q })
    (hstep : ∀ h freed c c', Transition tc h freed c c' → I h c → I h c')
    (hs : Constructed s) (ops : List Operation) :
    ∀ m ∈ s.history tc ops, I m.holder m.before := by
  have hreached : (operations tc).Reachable s := .start hs
  refine hreached.forall_history (fun s op hs m hm => ?_) ops
  have hI := reachable_invariant hinit hgrow hqueue hstep hs
  cases op with
  | tick input => exact forall_tickMoments (fun c c' => hstep _ _ c c') hI m hm
  | _ => simp [moments] at hm

/-- The run invariant holds before every moment. -/
theorem runInvariant_history (hs : Constructed s) (ops : List Operation) :
    ∀ m ∈ s.history tc ops, RunInvariant m.holder m.before :=
  forall_history RunInvariant.make (fun _ _ _ hgrow hI => hI.grow hgrow)
    (fun _ _ _ hI => hI.congr rfl rfl rfl) (fun _ _ _ _ hstep hI => hI.step hstep) hs ops

/-- **The trace of a run** is what its moments add to it. -/
theorem trace_history (s : Server) (ops : List Operation) :
    ((operations tc).run s ops).reflowController.trace =
      s.reflowController.trace ++ (s.history tc ops).flatMap (Moment.effects tc) := by
  refine (history_path s ops).rule
    (J := fun hist c => c.trace = s.reflowController.trace ++ hist.flatMap (Moment.effects tc))
    ?_ ?_ (List.append_nil _).symm
  · rintro hist c c' ⟨queue, data, rfl⟩ htrace
    exact htrace
  · intro hist m _ htrace
    show (m.after tc).trace = _
    rw [m.trace_after, show m.before.trace = _ from htrace, List.flatMap_append,
      List.flatMap_singleton, List.append_assoc]

end Server

end ReflowTable

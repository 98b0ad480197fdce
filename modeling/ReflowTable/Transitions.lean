import Mathlib.Tactic.SplitIfs
import ReflowTable.Controller

/-!
# The elementary changes of the controller

`CommandEffect` and `StepEffect` list the branches of the command handlers and of the process
step, each with its guards and its outcome, exceptions included; a proof about one command or one
step is a case analysis over them.

Everything a handler, a register read or a process step does to the controller is one of the
changes listed in `Transition`, each with the guard under which it happens. The functions of
`ReflowTable.Controller` follow this relation (`runnable_follows`), so an invariant of the
controller is proved by one case analysis over `Transition` and holds after every tick, also
after a tick that ended in an exception.
-/

namespace ReflowTable

/-! ## Reading the trace -/

/-- The register write an effect is, if it is one. -/
def Effect.write? : Effect → Option RegistersWrite
  | .registersWrite call _ => some call
  | .stageEntered .. => none

/-- The calls of `scheduleRegistersWrite` in a trace. -/
def writes (trace : List Effect) : List RegistersWrite := trace.filterMap Effect.write?

/-- The words requested for the target register, oldest first. -/
def targetWords (trace : List Effect) : List UInt16 :=
  wordsAt kTargetTemperatureAddr (writes trace)

/-- The stages `handleInitStep` took, oldest first. -/
def stagesEntered (trace : List Effect) : List (PresetPtr × ℕ × StageItem) :=
  trace.filterMap fun
    | .registersWrite .. => none
    | .stageEntered preset index item => some (preset, index, item)

@[simp] theorem writes_append (t u : List Effect) : writes (t ++ u) = writes t ++ writes u :=
  List.filterMap_append

@[simp] theorem writes_registersWrite (call : RegistersWrite) (running : Bool) :
    writes [.registersWrite call running] = [call] := rfl

@[simp] theorem writes_stageEntered (ptr : PresetPtr) (idx : ℕ) (item : StageItem) :
    writes [.stageEntered ptr idx item] = [] := rfl

@[simp] theorem targetWords_append (t u : List Effect) :
    targetWords (t ++ u) = targetWords t ++ targetWords u := by
  simp [targetWords]

@[simp] theorem targetWords_stageEntered (ptr : PresetPtr) (idx : ℕ) (item : StageItem) :
    targetWords [.stageEntered ptr idx item] = [] := rfl

/-- A write to the target register alone. -/
@[simp] theorem targetWords_target (word : UInt16) (running : Bool) :
    targetWords [.registersWrite ⟨kTargetTemperatureAddr, [word]⟩ running] = [word] := by
  simp [targetWords, wordAt_single]

/-- The two regulator words end one register short of the target register. -/
@[simp] theorem targetWords_regulator (k hysteresis : UInt16) (running : Bool) :
    targetWords [.registersWrite ⟨kFactorAddr, [k, hysteresis]⟩ running] = [] := by
  simp only [targetWords, writes_registersWrite, wordsAt_singleton, RegistersWrite.wordAt]
  rfl

@[simp] theorem stagesEntered_append (t u : List Effect) :
    stagesEntered (t ++ u) = stagesEntered t ++ stagesEntered u := List.filterMap_append

@[simp] theorem stagesEntered_registersWrite (call : RegistersWrite) (running : Bool) :
    stagesEntered [.registersWrite call running] = [] := rfl

@[simp] theorem stagesEntered_stageEntered (ptr : PresetPtr) (idx : ℕ) (item : StageItem) :
    stagesEntered [.stageEntered ptr idx item] = [(ptr, idx, item)] := rfl

namespace ReflowProcessController

/-! ## The states the handlers leave -/

@[simp] theorem trace_scheduleRegistersWrite (addr : UInt16) (words : List UInt16)
    (s : ReflowProcessController) :
    (s.scheduleRegistersWrite addr words).trace =
      s.trace ++ [.registersWrite ⟨addr, words⟩ s.isReflowRunning] := rfl

/-- `handleReflowStart` with a preset selected. -/
def started (s : ReflowProcessController) : ReflowProcessController :=
  { s with reflowProcessData.reflowStep := .kInitStep, isReflowRunning := true }

/-- `handleReflowEnd` during a run. -/
def ended (s : ReflowProcessController) : ReflowProcessController :=
  { s with
    reflowProcessData.activeStageIndex := 0
    reflowProcessData.reflowStep := .kStageCompleted
    activePreset := none
    activePresetId := none
    isReflowRunning := false
    sysTickTime := 1
    trace := s.trace ++ [Effect.registersWrite ⟨kTargetTemperatureAddr, [0]⟩ true] }

/-- `handleInitStep` on a stage that exists. -/
def entered (sp : StagePtr) (item : StageItem) (s : ReflowProcessController) :
    ReflowProcessController :=
  { s with
    reflowProcessData.activePresetState := some sp
    reflowProcessData.reflowStep := .kPreheat
    trace := s.trace ++
      [.stageEntered sp.preset s.reflowProcessData.activeStageIndex item,
        .registersWrite ⟨kTargetTemperatureAddr, [item.temperatureStep.toUInt16]⟩
          s.isReflowRunning] }

/-- `moveToNextStage` with a further stage. -/
def movedOn (s : ReflowProcessController) : ReflowProcessController :=
  { s with
    reflowProcessData.activeStageIndex := s.reflowProcessData.activeStageIndex + 1
    reflowProcessData.reflowStep := .kInitStep }

/-- `handlePreheatState` once the band is reached. -/
def soaking (stageDuration : ℤ) (s : ReflowProcessController) : ReflowProcessController :=
  { s with
    reflowProcessData.stageCompletionTimepoint := s.sysTickTime + stageDuration * 1000
    reflowProcessData.reflowStep := .kInProgress }

/-- `handleInProgressState` at the completion timepoint. -/
def soaked (s : ReflowProcessController) : ReflowProcessController :=
  { s with reflowProcessData.reflowStep := .kStageCompleted }

@[simp] theorem targetWords_ended (s : ReflowProcessController) :
    targetWords s.ended.trace = targetWords s.trace ++ [0] := by
  simp [ended]

@[simp] theorem writes_entered (sp : StagePtr) (item : StageItem) (s : ReflowProcessController) :
    writes (s.entered sp item).trace =
      writes s.trace ++ [⟨kTargetTemperatureAddr, [item.temperatureStep.toUInt16]⟩] := by
  rw [entered, List.append_cons, writes_append, writes_append, writes_stageEntered,
    writes_registersWrite, List.append_nil]

@[simp] theorem targetWords_entered (sp : StagePtr) (item : StageItem)
    (s : ReflowProcessController) :
    targetWords (s.entered sp item).trace =
      targetWords s.trace ++ [item.temperatureStep.toUInt16] := by
  rw [entered, List.append_cons, targetWords_append, targetWords_append, targetWords_stageEntered,
    targetWords_target, List.append_nil]

@[simp] theorem stagesEntered_entered (sp : StagePtr) (item : StageItem)
    (s : ReflowProcessController) :
    stagesEntered (s.entered sp item).trace =
      stagesEntered s.trace ++ [(sp.preset, s.reflowProcessData.activeStageIndex, item)] := by
  rw [entered, List.append_cons, stagesEntered_append, stagesEntered_append,
    stagesEntered_registersWrite, stagesEntered_stageEntered, List.append_nil]

variable {tc : Toolchain} {holder : PresetsHolder} {freed : StageItem}
  {s : ReflowProcessController}

theorem handleReflowStart_of_none (h : s.activePreset = none) : s.handleReflowStart = s := by
  simp [handleReflowStart, h]

theorem handleReflowStart_of_some {ptr : PresetPtr} (h : s.activePreset = some ptr) :
    s.handleReflowStart = s.started := by
  simp [handleReflowStart, started, h]

theorem handleReflowEnd_of_idle (h : s.isReflowRunning = false) : s.handleReflowEnd = s := by
  simp [handleReflowEnd, h]

theorem handleReflowEnd_of_running (h : s.isReflowRunning = true) :
    s.handleReflowEnd = s.ended := by
  simp [handleReflowEnd, disableHeating, scheduleRegistersWrite, ended, h]

theorem handlePresetSelection_of_running (id : UInt64) (h : s.isReflowRunning = true) :
    s.handlePresetSelection holder id = .done s := by
  simp [handlePresetSelection, h]

theorem handlePresetSelection_of_some {id : UInt64} {ptr : PresetPtr}
    (h : s.isReflowRunning = false) (hl : holder.presetsStorage.lookup id = some ptr) :
    s.handlePresetSelection holder id =
      .done { s with activePresetId := some id, activePreset := some ptr } := by
  simp [handlePresetSelection, h, PresetsHolder.getPresetById_eq_ok.mpr hl]

theorem handlePresetSelection_of_none {id : UInt64}
    (h : s.isReflowRunning = false) (hl : holder.presetsStorage.lookup id = none) :
    s.handlePresetSelection holder id =
      .raised (.runtimeError s!"Attempt to take unexisting preset by id:{id}")
        { s with activePresetId := some id } := by
  simp [handlePresetSelection, h, PresetsHolder.getPresetById_of_lookup_none hl]

/-- `moveToNextStage` past the last stage ends the run. -/
theorem moveToNextStage_of_le {ptr : PresetPtr} (hrun : s.isReflowRunning = true)
    (h : s.activePreset = some ptr)
    (hle : (holder.objects ptr).numStages ≤ s.reflowProcessData.activeStageIndex + 1) :
    s.moveToNextStage holder = .done s.ended := by
  simp [moveToNextStage, h, hle, handleReflowEnd, disableHeating, scheduleRegistersWrite, ended,
    hrun]

theorem moveToNextStage_of_lt {ptr : PresetPtr} (h : s.activePreset = some ptr)
    (hlt : s.reflowProcessData.activeStageIndex + 1 < (holder.objects ptr).numStages) :
    s.moveToNextStage holder = .done s.movedOn := by
  simp [moveToNextStage, h, Nat.not_le.mpr hlt, movedOn]

/-- The stage just looked up is what its address reads. -/
theorem derefStage_of_getElem? {ptr : PresetPtr} {idx : ℕ} {item : StageItem}
    (h : (holder.objects ptr).presetItems.items[idx]? = some item) :
    derefStage holder freed ⟨ptr, (holder.objects ptr).presetItems.ptrTo idx⟩ = item := by
  simp [derefStage, PresetsHolder.readStage, h]

theorem handleInitStep_of_getElem? {ptr : PresetPtr} {item : StageItem}
    (h : s.activePreset = some ptr)
    (hitem : (holder.objects ptr).presetItems.items[s.reflowProcessData.activeStageIndex]?
      = some item) :
    s.handleInitStep holder freed =
      .done (s.entered
        ⟨ptr, (holder.objects ptr).presetItems.ptrTo s.reflowProcessData.activeStageIndex⟩
        item) := by
  have hlt : s.reflowProcessData.activeStageIndex < (holder.objects ptr).presetItems.size :=
    (List.getElem?_eq_some_iff.mp hitem).1
  simp [handleInitStep, h, Preset.getStageItem, hlt, derefStage_of_getElem? hitem, entered,
    scheduleRegistersWrite]

theorem handleInitStep_of_le {ptr : PresetPtr} (h : s.activePreset = some ptr)
    (hle : (holder.objects ptr).numStages ≤ s.reflowProcessData.activeStageIndex) :
    s.handleInitStep holder freed = .raised .outOfRange s := by
  have hnot : ¬ s.reflowProcessData.activeStageIndex < (holder.objects ptr).presetItems.size :=
    Nat.not_lt.mpr hle
  simp [handleInitStep, h, Preset.getStageItem, hnot]

/-! ### Preheating and soaking -/

/-- The test of `handlePreheatState` for a stage that is not heated for. -/
def skipsStage (temperatureStep : UInt32) (data : LastModbusData) : Prop :=
  temperatureStep = 0 ∨ temperatureStep ≤ data.surroundingTemperature.toUInt32

/-- The current stage is behind: skipped in preheat, or soaked. -/
def StageOver (holder : PresetsHolder) (freed : StageItem) (s : ReflowProcessController) :
    Prop :=
  (s.reflowProcessData.reflowStep = .kPreheat ∧
    ∃ sp, s.reflowProcessData.activePresetState = some sp ∧
      skipsStage (derefStage holder freed sp).temperatureStep s.lastModbusData) ∨
  s.reflowProcessData.reflowStep = .kStageCompleted

variable {sp : StagePtr}

theorem handlePreheatState_of_skip (hsp : s.reflowProcessData.activePresetState = some sp)
    (hskip : skipsStage (derefStage holder freed sp).temperatureStep s.lastModbusData) :
    s.handlePreheatState holder freed = s.moveToNextStage holder := by
  unfold handlePreheatState
  rw [hsp]
  rcases hskip with hzero | hambient
  · simp [hzero]
  · simp only [hambient, if_true]
    split_ifs <;> rfl

theorem handlePreheatState_of_band (hsp : s.reflowProcessData.activePresetState = some sp)
    (hskip : ¬ skipsStage (derefStage holder freed sp).temperatureStep s.lastModbusData)
    (hband : canCompletePreheatStage (derefStage holder freed sp).temperatureStep
      s.lastModbusData) :
    s.handlePreheatState holder freed =
      .done (s.soaking (derefStage holder freed sp).stageDuration) := by
  obtain ⟨hzero, hambient⟩ := not_or.mp hskip
  unfold handlePreheatState
  split
  · next hnone => simp [hsp] at hnone
  · next sp' hsp' =>
    obtain rfl : sp = sp' := Option.some.inj (hsp.symm.trans hsp')
    simp only [hzero, hambient, hband, if_true, if_false, soaking]

theorem handlePreheatState_of_wait (hsp : s.reflowProcessData.activePresetState = some sp)
    (hskip : ¬ skipsStage (derefStage holder freed sp).temperatureStep s.lastModbusData)
    (hband : ¬ canCompletePreheatStage (derefStage holder freed sp).temperatureStep
      s.lastModbusData) :
    s.handlePreheatState holder freed = .done s := by
  obtain ⟨hzero, hambient⟩ := not_or.mp hskip
  unfold handlePreheatState
  rw [hsp]
  simp [hzero, hambient, hband]

theorem handlePreheatState_of_none (hsp : s.reflowProcessData.activePresetState = none) :
    s.handlePreheatState holder freed = .raised .nullDereference s := by
  simp only [handlePreheatState, hsp]

theorem handleInProgressState_of_none (hsp : s.reflowProcessData.activePresetState = none) :
    s.handleInProgressState = s := by
  simp only [handleInProgressState, hsp]

theorem handleInProgressState_of_le (hsp : s.reflowProcessData.activePresetState = some sp)
    (htime : s.reflowProcessData.stageCompletionTimepoint ≤ s.sysTickTime) :
    s.handleInProgressState = s.soaked := by
  simp only [handleInProgressState, hsp, ge_iff_le, if_pos htime, soaked]

theorem handleInProgressState_of_not_le
    (htime : ¬ s.reflowProcessData.stageCompletionTimepoint ≤ s.sysTickTime) :
    s.handleInProgressState = s := by
  cases hsp : s.reflowProcessData.activePresetState with
  | none => exact handleInProgressState_of_none hsp
  | some sp => simp only [handleInProgressState, hsp, ge_iff_le, if_neg htime]

/-! ### The process step by the step a run is at -/

theorem processReflowStep_of_idle (h : s.activePreset = none ∨ s.isReflowRunning = false) :
    s.processReflowStep holder freed = .done s := by
  obtain h | h := h <;> simp [processReflowStep, h]

section

variable {ptr : PresetPtr} (hpreset : s.activePreset = some ptr) (hrun : s.isReflowRunning = true)
include hpreset hrun

theorem processReflowStep_of_init (hstep : s.reflowProcessData.reflowStep = .kInitStep) :
    s.processReflowStep holder freed = s.handleInitStep holder freed := by
  simp [processReflowStep, hpreset, hrun, hstep]

theorem processReflowStep_of_preheat (hstep : s.reflowProcessData.reflowStep = .kPreheat) :
    s.processReflowStep holder freed = s.handlePreheatState holder freed := by
  simp [processReflowStep, hpreset, hrun, hstep]

theorem processReflowStep_of_inProgress (hstep : s.reflowProcessData.reflowStep = .kInProgress) :
    s.processReflowStep holder freed = .done s.handleInProgressState := by
  simp [processReflowStep, hpreset, hrun, hstep]

theorem processReflowStep_of_completed
    (hstep : s.reflowProcessData.reflowStep = .kStageCompleted) :
    s.processReflowStep holder freed = s.moveToNextStage holder := by
  simp [processReflowStep, hpreset, hrun, hstep]

end

/-! ### The handlers branch by branch -/

/-- What the handler of a command finds, and what it comes to. -/
inductive CommandEffect (tc : Toolchain) (holder : PresetsHolder) (s : ReflowProcessController) :
    CommandVariant → Outcome Fault ReflowProcessController → Prop
  | startUnselected : s.activePreset = none →
      CommandEffect tc holder s .startReflow (.done s)
  | start {ptr : PresetPtr} : s.activePreset = some ptr →
      CommandEffect tc holder s .startReflow (.done s.started)
  | stopIdle : s.isReflowRunning = false →
      CommandEffect tc holder s .stopReflow (.done s)
  | stop : s.isReflowRunning = true →
      CommandEffect tc holder s .stopReflow (.done s.ended)
  /-- a selection during a run is dropped -/
  | selectRunning {id : UInt64} : s.isReflowRunning = true →
      CommandEffect tc holder s (.selectPreset id) (.done s)
  | select {id : UInt64} {ptr : PresetPtr} : s.isReflowRunning = false →
      holder.presetsStorage.lookup id = some ptr →
      CommandEffect tc holder s (.selectPreset id)
        (.done { s with activePresetId := some id, activePreset := some ptr })
  /-- the id is stored before the holder is asked -/
  | selectUnknown {id : UInt64} : s.isReflowRunning = false →
      holder.presetsStorage.lookup id = none →
      CommandEffect tc holder s (.selectPreset id)
        (.raised (.runtimeError s!"Attempt to take unexisting preset by id:{id}")
          { s with activePresetId := some id })
  | setParams {params : RegulatorParams} :
      CommandEffect tc holder s (.setRegulatorParams params)
        (.done (s.setRegulatorParams tc params))

theorem CommandEffect.eq {command : CommandVariant} {o : Outcome Fault ReflowProcessController}
    (h : CommandEffect tc holder s command o) : visitCommand tc holder command s = o := by
  cases h with
  | startUnselected hnone => exact congrArg _ (handleReflowStart_of_none hnone)
  | start hptr => exact congrArg _ (handleReflowStart_of_some hptr)
  | stopIdle hidle => exact congrArg _ (handleReflowEnd_of_idle hidle)
  | stop hrun => exact congrArg _ (handleReflowEnd_of_running hrun)
  | selectRunning hrun => exact handlePresetSelection_of_running _ hrun
  | select hidle hl => exact handlePresetSelection_of_some hidle hl
  | selectUnknown hidle hl => exact handlePresetSelection_of_none hidle hl
  | setParams => rfl

variable (tc holder) in
/-- There is no other branch. -/
theorem visitCommand_effect (command : CommandVariant) (s : ReflowProcessController) :
    CommandEffect tc holder s command (visitCommand tc holder command s) := by
  have hbranch : ∃ o, CommandEffect tc holder s command o := by
    cases command with
    | startReflow =>
      cases h : s.activePreset with
      | none => exact ⟨_, .startUnselected h⟩
      | some ptr => exact ⟨_, .start h⟩
    | stopReflow =>
      cases h : s.isReflowRunning with
      | false => exact ⟨_, .stopIdle h⟩
      | true => exact ⟨_, .stop h⟩
    | selectPreset id =>
      cases h : s.isReflowRunning with
      | true => exact ⟨_, .selectRunning h⟩
      | false =>
        cases hl : holder.presetsStorage.lookup id with
        | none => exact ⟨_, .selectUnknown h hl⟩
        | some ptr => exact ⟨_, .select h hl⟩
    | setRegulatorParams params => exact ⟨_, .setParams⟩
  obtain ⟨o, heffect⟩ := hbranch
  rw [heffect.eq]
  exact heffect

/-! ### The process step branch by branch -/

/-- What a process step finds, and what it comes to. -/
inductive StepEffect (holder : PresetsHolder) (freed : StageItem) (s : ReflowProcessController) :
    Outcome Fault ReflowProcessController → Prop
  | idle : s.activePreset = none ∨ s.isReflowRunning = false → StepEffect holder freed s (.done s)
  | enter {ptr : PresetPtr} {item : StageItem} : s.isReflowRunning = true →
      s.activePreset = some ptr → s.reflowProcessData.reflowStep = .kInitStep →
      (holder.objects ptr).presetItems.items[s.reflowProcessData.activeStageIndex]? = some item →
      StepEffect holder freed s (.done (s.entered
        ⟨ptr, (holder.objects ptr).presetItems.ptrTo s.reflowProcessData.activeStageIndex⟩ item))
  /-- `at` throws before anything is changed -/
  | enterNothing {ptr : PresetPtr} : s.isReflowRunning = true → s.activePreset = some ptr →
      s.reflowProcessData.reflowStep = .kInitStep →
      (holder.objects ptr).numStages ≤ s.reflowProcessData.activeStageIndex →
      StepEffect holder freed s (.raised .outOfRange s)
  | preheatNothing {ptr : PresetPtr} : s.isReflowRunning = true → s.activePreset = some ptr →
      s.reflowProcessData.reflowStep = .kPreheat →
      s.reflowProcessData.activePresetState = none →
      StepEffect holder freed s (.raised .nullDereference s)
  | preheat {ptr : PresetPtr} {sp : StagePtr} : s.isReflowRunning = true →
      s.activePreset = some ptr → s.reflowProcessData.reflowStep = .kPreheat →
      s.reflowProcessData.activePresetState = some sp →
      ¬ skipsStage (derefStage holder freed sp).temperatureStep s.lastModbusData →
      ¬ canCompletePreheatStage (derefStage holder freed sp).temperatureStep s.lastModbusData →
      StepEffect holder freed s (.done s)
  | soak {ptr : PresetPtr} {sp : StagePtr} : s.isReflowRunning = true →
      s.activePreset = some ptr → s.reflowProcessData.reflowStep = .kPreheat →
      s.reflowProcessData.activePresetState = some sp →
      ¬ skipsStage (derefStage holder freed sp).temperatureStep s.lastModbusData →
      canCompletePreheatStage (derefStage holder freed sp).temperatureStep s.lastModbusData →
      StepEffect holder freed s (.done (s.soaking (derefStage holder freed sp).stageDuration))
  | dwell {ptr : PresetPtr} : s.isReflowRunning = true → s.activePreset = some ptr →
      s.reflowProcessData.reflowStep = .kInProgress →
      s.reflowProcessData.activePresetState = none ∨
        ¬ s.reflowProcessData.stageCompletionTimepoint ≤ s.sysTickTime →
      StepEffect holder freed s (.done s)
  | soakDone {ptr : PresetPtr} {sp : StagePtr} : s.isReflowRunning = true →
      s.activePreset = some ptr → s.reflowProcessData.reflowStep = .kInProgress →
      s.reflowProcessData.activePresetState = some sp →
      s.reflowProcessData.stageCompletionTimepoint ≤ s.sysTickTime →
      StepEffect holder freed s (.done s.soaked)
  | moveOn {ptr : PresetPtr} : s.isReflowRunning = true → s.activePreset = some ptr →
      StageOver holder freed s →
      s.reflowProcessData.activeStageIndex + 1 < (holder.objects ptr).numStages →
      StepEffect holder freed s (.done s.movedOn)
  | finish {ptr : PresetPtr} : s.isReflowRunning = true → s.activePreset = some ptr →
      StageOver holder freed s →
      (holder.objects ptr).numStages ≤ s.reflowProcessData.activeStageIndex + 1 →
      StepEffect holder freed s (.done s.ended)

/-- A stage that is over is left, whichever state found it over. -/
theorem processReflowStep_of_stageOver {ptr : PresetPtr} (hrun : s.isReflowRunning = true)
    (hptr : s.activePreset = some ptr) (hover : StageOver holder freed s) :
    s.processReflowStep holder freed = s.moveToNextStage holder := by
  rcases hover with ⟨hstep, sp, hsp, hskip⟩ | hstep
  · rw [processReflowStep_of_preheat hptr hrun hstep, handlePreheatState_of_skip hsp hskip]
  · rw [processReflowStep_of_completed hptr hrun hstep]

theorem StepEffect.eq {o : Outcome Fault ReflowProcessController}
    (h : StepEffect holder freed s o) : s.processReflowStep holder freed = o := by
  cases h with
  | idle hidle => exact processReflowStep_of_idle hidle
  | enter hrun hptr hstep hitem =>
    rw [processReflowStep_of_init hptr hrun hstep, handleInitStep_of_getElem? hptr hitem]
  | enterNothing hrun hptr hstep hle =>
    rw [processReflowStep_of_init hptr hrun hstep, handleInitStep_of_le hptr hle]
  | preheatNothing hrun hptr hstep hnone =>
    rw [processReflowStep_of_preheat hptr hrun hstep, handlePreheatState_of_none hnone]
  | preheat hrun hptr hstep hsp hskip hband =>
    rw [processReflowStep_of_preheat hptr hrun hstep, handlePreheatState_of_wait hsp hskip hband]
  | soak hrun hptr hstep hsp hskip hband =>
    rw [processReflowStep_of_preheat hptr hrun hstep, handlePreheatState_of_band hsp hskip hband]
  | dwell hrun hptr hstep hwait =>
    rw [processReflowStep_of_inProgress hptr hrun hstep]
    rcases hwait with hnone | htime
    · rw [handleInProgressState_of_none hnone]
    · rw [handleInProgressState_of_not_le htime]
  | soakDone hrun hptr hstep hsp htime =>
    rw [processReflowStep_of_inProgress hptr hrun hstep, handleInProgressState_of_le hsp htime]
  | moveOn hrun hptr hover hlt =>
    rw [processReflowStep_of_stageOver hrun hptr hover, moveToNextStage_of_lt hptr hlt]
  | finish hrun hptr hover hle =>
    rw [processReflowStep_of_stageOver hrun hptr hover, moveToNextStage_of_le hrun hptr hle]

variable (holder freed) in
/-- There is no other branch. -/
theorem processReflowStep_effect (s : ReflowProcessController) :
    StepEffect holder freed s (s.processReflowStep holder freed) := by
  have hbranch : ∃ o, StepEffect holder freed s o := by
    cases hptr : s.activePreset with
    | none => exact ⟨_, .idle (.inl hptr)⟩
    | some ptr =>
      cases hrun : s.isReflowRunning with
      | false => exact ⟨_, .idle (.inr hrun)⟩
      | true =>
        have hleft (hover : StageOver holder freed s) : ∃ o, StepEffect holder freed s o := by
          rcases Nat.lt_or_ge (s.reflowProcessData.activeStageIndex + 1)
            (holder.objects ptr).numStages with hlt | hle
          · exact ⟨_, .moveOn hrun hptr hover hlt⟩
          · exact ⟨_, .finish hrun hptr hover hle⟩
        cases hstep : s.reflowProcessData.reflowStep with
        | kInitStep =>
          cases hitem :
              (holder.objects ptr).presetItems.items[s.reflowProcessData.activeStageIndex]? with
          | none => exact ⟨_, .enterNothing hrun hptr hstep (List.getElem?_eq_none_iff.mp hitem)⟩
          | some item => exact ⟨_, .enter hrun hptr hstep hitem⟩
        | kPreheat =>
          cases hsp : s.reflowProcessData.activePresetState with
          | none => exact ⟨_, .preheatNothing hrun hptr hstep hsp⟩
          | some sp =>
            by_cases hskip : skipsStage (derefStage holder freed sp).temperatureStep
                s.lastModbusData
            · exact hleft (.inl ⟨hstep, sp, hsp, hskip⟩)
            · by_cases hband : canCompletePreheatStage (derefStage holder freed sp).temperatureStep
                  s.lastModbusData
              · exact ⟨_, .soak hrun hptr hstep hsp hskip hband⟩
              · exact ⟨_, .preheat hrun hptr hstep hsp hskip hband⟩
        | kInProgress =>
          cases hsp : s.reflowProcessData.activePresetState with
          | none => exact ⟨_, .dwell hrun hptr hstep (.inl hsp)⟩
          | some sp =>
            by_cases htime : s.reflowProcessData.stageCompletionTimepoint ≤ s.sysTickTime
            · exact ⟨_, .soakDone hrun hptr hstep hsp htime⟩
            · exact ⟨_, .dwell hrun hptr hstep (.inr htime)⟩
        | kStageCompleted => exact hleft (.inr hstep)
  obtain ⟨o, heffect⟩ := hbranch
  rw [heffect.eq]
  exact heffect

/-! ## The relation -/

/-- The changes made while the queue is drained. -/
inductive CommandChange (tc : Toolchain) (holder : PresetsHolder) :
    ReflowProcessController → ReflowProcessController → Prop
  /-- a command leaves the queue -/
  | pop {s : ReflowProcessController} :
      CommandChange tc holder s { s with requestsQueue := s.requestsQueue.tail }
  /-- `StartReflow` with a preset selected, also during a run -/
  | start {s : ReflowProcessController} {ptr : PresetPtr} :
      s.activePreset = some ptr → CommandChange tc holder s s.started
  /-- `StopReflow` during a run -/
  | stop {s : ReflowProcessController} :
      s.isReflowRunning = true → CommandChange tc holder s s.ended
  /-- `SelectPreset` of a stored preset while idle -/
  | select {s : ReflowProcessController} {id : UInt64} {ptr : PresetPtr} :
      s.isReflowRunning = false → holder.presetsStorage.lookup id = some ptr →
      CommandChange tc holder s { s with activePresetId := some id, activePreset := some ptr }
  /-- `SelectPreset` of an unknown id while idle -/
  | selectUnknown {s : ReflowProcessController} {id : UInt64} :
      s.isReflowRunning = false → holder.presetsStorage.lookup id = none →
      CommandChange tc holder s { s with activePresetId := some id }
  /-- `SetRegulatorParams` -/
  | setParams {s : ReflowProcessController} (params : RegulatorParams) :
      CommandChange tc holder s (s.setRegulatorParams tc params)

/-- The changes made by the process step and the clock. -/
inductive ProcessChange (holder : PresetsHolder) (freed : StageItem) :
    ReflowProcessController → ReflowProcessController → Prop
  /-- the init step takes a stage -/
  | enter {s : ReflowProcessController} {ptr : PresetPtr} {item : StageItem} :
      s.isReflowRunning = true → s.activePreset = some ptr →
      s.reflowProcessData.reflowStep = .kInitStep →
      (holder.objects ptr).presetItems.items[s.reflowProcessData.activeStageIndex]? = some item →
      ProcessChange holder freed s (s.entered
        ⟨ptr, (holder.objects ptr).presetItems.ptrTo s.reflowProcessData.activeStageIndex⟩ item)
  /-- the stage is over and there is another -/
  | moveOn {s : ReflowProcessController} {ptr : PresetPtr} :
      s.isReflowRunning = true → s.activePreset = some ptr → StageOver holder freed s →
      s.reflowProcessData.activeStageIndex + 1 < (holder.objects ptr).numStages →
      ProcessChange holder freed s s.movedOn
  /-- the stage is over and was the last one -/
  | finish {s : ReflowProcessController} {ptr : PresetPtr} :
      s.isReflowRunning = true → s.activePreset = some ptr → StageOver holder freed s →
      (holder.objects ptr).numStages ≤ s.reflowProcessData.activeStageIndex + 1 →
      ProcessChange holder freed s s.ended
  /-- the band is reached -/
  | soak {s : ReflowProcessController} {sp : StagePtr} :
      s.isReflowRunning = true → s.reflowProcessData.reflowStep = .kPreheat →
      s.reflowProcessData.activePresetState = some sp →
      ¬ skipsStage (derefStage holder freed sp).temperatureStep s.lastModbusData →
      canCompletePreheatStage (derefStage holder freed sp).temperatureStep s.lastModbusData →
      ProcessChange holder freed s (s.soaking (derefStage holder freed sp).stageDuration)
  /-- the completion timepoint is reached -/
  | soakDone {s : ReflowProcessController} :
      s.isReflowRunning = true → s.reflowProcessData.reflowStep = .kInProgress →
      s.reflowProcessData.stageCompletionTimepoint ≤ s.sysTickTime →
      ProcessChange holder freed s s.soaked
  /-- the system time advances -/
  | advance {s : ReflowProcessController} : s.isReflowRunning = true →
      ProcessChange holder freed s { s with sysTickTime := s.sysTickTime + kSystickResolution }

/-- The elementary changes of a tick: the queue, the register read, the process step. -/
inductive Transition (tc : Toolchain) (holder : PresetsHolder) (freed : StageItem) :
    ReflowProcessController → ReflowProcessController → Prop
  | command {s s' : ReflowProcessController} : CommandChange tc holder s s' →
      Transition tc holder freed s s'
  /-- a register read was answered -/
  | read {s : ReflowProcessController} (words : ModbusReading) :
      Transition tc holder freed s { s with lastModbusData := decodeReading words }
  | process {s s' : ReflowProcessController} : ProcessChange holder freed s s' →
      Transition tc holder freed s s'

/-- A change only adds to the trace. -/
theorem CommandChange.trace_extends {s s' : ReflowProcessController}
    (h : CommandChange tc holder s s') : s.trace <+: s'.trace := by
  cases h with
  | setParams params => exact List.prefix_append _ _
  | stop => exact List.prefix_append _ _
  | _ => exact List.prefix_refl _

theorem ProcessChange.trace_extends {s s' : ReflowProcessController}
    (h : ProcessChange holder freed s s') : s.trace <+: s'.trace := by
  cases h with
  | enter => exact List.prefix_append _ _
  | finish => exact List.prefix_append _ _
  | _ => exact List.prefix_refl _

theorem ProcessChange.requestsQueue_eq {s s' : ReflowProcessController}
    (h : ProcessChange holder freed s s') : s'.requestsQueue = s.requestsQueue := by
  cases h <;> rfl

theorem ProcessChange.lastModbusData_eq {s s' : ReflowProcessController}
    (h : ProcessChange holder freed s s') : s'.lastModbusData = s.lastModbusData := by
  cases h <;> rfl

/-! ## Every function follows it -/

section Follows

open Relation (ReflGen ReflTransGen)
open Outcome (Follows)

theorem visitCommand_follows (command : CommandVariant) :
    Follows (CommandChange tc holder) (visitCommand tc holder command) := by
  intro s
  have heffect := visitCommand_effect tc holder command s
  generalize visitCommand tc holder command s = o at heffect ⊢
  cases heffect with
  | startUnselected => exact .refl
  | start hptr => exact .single (.start hptr)
  | stopIdle => exact .refl
  | stop hrun => exact .single (.stop hrun)
  | selectRunning => exact .refl
  | select hidle hl => exact .single (.select hidle hl)
  | selectUnknown hidle hl => exact .single (.selectUnknown hidle hl)
  | setParams => exact .single (.setParams _)

theorem handleOperation_follows (command : CommandVariant) :
    Follows (CommandChange tc holder) (handleOperation tc holder command) :=
  fun s => .head .pop (visitCommand_follows command { s with requestsQueue := _ })

variable (tc holder) in
theorem dispatchCommandsQueue_follows :
    Follows (CommandChange tc holder) (dispatchCommandsQueue tc holder) :=
  fun s => Outcome.sweep_follows s.requestsQueue (fun c _ => handleOperation_follows c) s

theorem requestModbusData_follows (reading : Option ModbusReading) :
    ReflTransGen (Transition tc holder freed) s (s.requestModbusData reading) := by
  cases reading with
  | none => exact .refl
  | some words => exact .single (.read words)

/-- **A process step is at most one change.** -/
theorem processReflowStep_reflGen (s : ReflowProcessController) :
    ReflGen (ProcessChange holder freed) s (s.processReflowStep holder freed).state := by
  have heffect := processReflowStep_effect holder freed s
  generalize s.processReflowStep holder freed = o at heffect ⊢
  cases heffect with
  | enter hrun hptr hstep hitem => exact .single (.enter hrun hptr hstep hitem)
  | soak hrun _ hstep hsp hskip hband => exact .single (.soak hrun hstep hsp hskip hband)
  | soakDone hrun _ hstep _ htime => exact .single (.soakDone hrun hstep htime)
  | moveOn hrun hptr hover hlt => exact .single (.moveOn hrun hptr hover hlt)
  | finish hrun hptr hover hle => exact .single (.finish hrun hptr hover hle)
  | _ => exact .refl

theorem processReflowStep_follows :
    Follows (ProcessChange holder freed) (processReflowStep holder freed) :=
  fun s => (processReflowStep_reflGen s).to_reflTransGen

theorem advanceSysTick_follows :
    ReflTransGen (ProcessChange holder freed) s s.advanceSysTick := by
  unfold advanceSysTick
  split_ifs with hrun
  · exact .single (.advance hrun)
  · exact .refl

variable (holder freed) in
/-- The process step and the clock. -/
theorem process_follows : Follows (ProcessChange holder freed) fun s =>
    (s.processReflowStep holder freed).bind fun s => .done s.advanceSysTick :=
  processReflowStep_follows.bind fun _ => advanceSysTick_follows

/-- **A tick consists of elementary changes**, whether it returns or throws. -/
theorem runnable_follows (input : TickInput) :
    Follows (Transition tc holder input.freed) (runnable tc holder input) := by
  have hdispatch : Follows (Transition tc holder input.freed) (dispatchCommandsQueue tc holder) :=
    fun s => ReflTransGen.mono (fun _ _ => .command) _ _ (dispatchCommandsQueue_follows tc holder s)
  have hprocess : Follows (Transition tc holder input.freed) fun s =>
      (s.processReflowStep holder input.freed).bind fun s => .done s.advanceSysTick :=
    fun s => ReflTransGen.mono (fun _ _ => .process) _ _ (process_follows holder input.freed s)
  exact hdispatch.bind fun s =>
    (requestModbusData_follows input.reading).trans (hprocess (s.requestModbusData input.reading))

variable (tc holder) in
/-- What every elementary change keeps, a tick keeps. -/
theorem runnable_keeps {I : ReflowProcessController → Prop} (input : TickInput)
    (hI : ∀ s s', Transition tc holder input.freed s s' → I s → I s') :
    Outcome.Keeps I (runnable tc holder input) :=
  (runnable_follows input).keeps hI

end Follows

/-- The writes of the dispatch loop stay in the trace of the tick. -/
theorem trace_dispatch_extends (input : TickInput) (s : ReflowProcessController) :
    (s.dispatchCommandsQueue tc holder).state.trace <+:
      (s.runnable tc holder input).state.trace := by
  unfold runnable
  cases s.dispatchCommandsQueue tc holder with
  | raised e c => exact List.prefix_refl _
  | done c =>
    have hread : (c.requestModbusData input.reading).trace = c.trace := by
      cases input.reading <;> rfl
    rw [Outcome.state_done, ← hread]
    exact (process_follows holder input.freed).keeps
      (I := fun c' => (c.requestModbusData input.reading).trace <+: c'.trace)
      (fun _ _ hstep hprefix => hprefix.trans (ProcessChange.trace_extends hstep)) _
      (List.prefix_refl _)

/-! ## The dispatch loop -/

variable (tc holder) in
/-- The commands other than `SetRegulatorParams` write nothing but the `0` that ends a run. -/
theorem trace_handleOperation {command : CommandVariant}
    (hcommand : ∀ params, command ≠ .setRegulatorParams params) (s : ReflowProcessController) :
    (handleOperation tc holder command s).state.trace = s.trace ∨
      (handleOperation tc holder command s).state.trace =
        s.trace ++ [.registersWrite ⟨kTargetTemperatureAddr, [0]⟩ true] := by
  have heffect := visitCommand_effect tc holder command
    { s with requestsQueue := s.requestsQueue.tail }
  rw [handleOperation]
  generalize visitCommand tc holder command _ = o at heffect ⊢
  cases heffect with
  | stop => exact .inr rfl
  | setParams => exact absurd rfl (hcommand _)
  | _ => exact .inl rfl

variable (tc holder) in
theorem trace_prefix_sweep (queue : List CommandVariant) (s : ReflowProcessController) :
    s.trace <+: (Outcome.sweep (handleOperation tc holder) queue s).state.trace :=
  (Outcome.sweep_follows queue fun command _ => handleOperation_follows command).keeps
    (I := fun c => s.trace <+: c.trace)
    (fun _ _ hstep hprefix => hprefix.trans (CommandChange.trace_extends hstep)) s
    (List.prefix_refl _)

variable (tc holder) in
/-- No handler touches the queue. -/
theorem requestsQueue_visitCommand (command : CommandVariant)
    (s : ReflowProcessController) :
    (visitCommand tc holder command s).state.requestsQueue = s.requestsQueue := by
  have heffect := visitCommand_effect tc holder command s
  generalize visitCommand tc holder command s = o at heffect ⊢
  cases heffect <;> rfl

/-- The loop takes every command it visits off the queue. -/
theorem requestsQueue_sweep {queue rest : List CommandVariant} {s s' : ReflowProcessController}
    (hqueue : s.requestsQueue = queue ++ rest)
    (h : Outcome.sweep (handleOperation tc holder) queue s = .done s') :
    s'.requestsQueue = rest := by
  induction queue generalizing s with
  | nil =>
    cases h
    exact hqueue
  | cons command queue ih =>
    rw [Outcome.sweep_cons] at h
    have hvisit := requestsQueue_visitCommand tc holder command
      { s with requestsQueue := s.requestsQueue.tail }
    cases hcommand : handleOperation tc holder command s with
    | raised e s₁ =>
      rw [hcommand] at h
      cases h
    | done s₁ =>
      rw [hcommand] at h
      -- the handler leaves the queue alone, so what is gone is the head the loop took
      refine ih ?_ h
      rw [handleOperation] at hcommand
      rw [hcommand, Outcome.state_done] at hvisit
      rw [hvisit, hqueue]
      rfl

/-- A dispatch loop that returns has handled the whole queue. -/
theorem requestsQueue_dispatchCommandsQueue {s s' : ReflowProcessController}
    (h : s.dispatchCommandsQueue tc holder = .done s') : s'.requestsQueue = [] :=
  requestsQueue_sweep (List.append_nil _).symm h

/-- The dispatch loop as the source has it: take a command, visit it, look again. -/
theorem dispatchCommandsQueue_eq (s : ReflowProcessController) :
    s.dispatchCommandsQueue tc holder =
      match s.getOperation with
      | none => .done s
      | some (command, s') =>
        (visitCommand tc holder command s').bind (dispatchCommandsQueue tc holder) := by
  unfold getOperation
  cases hq : s.requestsQueue with
  | nil => simp [dispatchCommandsQueue, hq]
  | cons command rest =>
    have hvisit : handleOperation tc holder command s =
        visitCommand tc holder command { s with requestsQueue := rest } := by
      simp only [handleOperation, hq, List.tail_cons]
    have hqueue := requestsQueue_visitCommand tc holder command { s with requestsQueue := rest }
    simp only [dispatchCommandsQueue, hq, Outcome.sweep_cons, hvisit]
    cases hv : visitCommand tc holder command { s with requestsQueue := rest } with
    | raised e s' => rfl
    | done s' =>
      -- the rest of the queue is what the handler leaves, and the next iteration finds it
      rw [hv] at hqueue
      simp only [Outcome.bind_done, Outcome.state_done] at hqueue ⊢
      rw [dispatchCommandsQueue, hqueue]

end ReflowProcessController

end ReflowTable

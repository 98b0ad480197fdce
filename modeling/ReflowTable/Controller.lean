import ReflowTable.Lib.Outcome
import ReflowTable.Presets

/-!
# The reflow process controller

`ReflowProcessControllerImpl` of `reflow_controller.cpp`, member by member. The worker thread
calls `runnable` once a second; a call handles the queued commands, reads the registers,
performs one process step and, while a run is on, advances the system time.

Two things are not members of the class. The holder is passed to the functions that use it,
since the controller never changes it. And `trace` records, for the proofs, what the
controller does to its surroundings; nothing reads it.

The raw pointer `activePresetState` may outlive the stage it points to. What a read through
it then yields is the parameter `freed`, an arbitrary stage.
-/

namespace ReflowTable

inductive ReflowStage
  | kInitStep
  | kPreheat
  | kInProgress
  | kStageCompleted
deriving DecidableEq

structure ReflowProcessData where
  activeStageIndex : ℕ
  activePresetState : Option StagePtr
  reflowStep : ReflowStage
  /-- in milliseconds of system time -/
  stageCompletionTimepoint : ℤ
deriving DecidableEq

structure LastModbusData where
  tableTemperature : Int32
  surroundingTemperature : Int32
  regulator : RegulatorParams
deriving DecidableEq

/-- The words `readRegisters` answers with, from `kSurroundingTempAddr` on. -/
abbrev ModbusReading := Vector UInt16 kModbusRegistersCount

/-- What a tick meets: the answer of `readRegisters`, and what freed memory holds. -/
structure TickInput where
  reading : Option ModbusReading
  freed : StageItem

/-- What the controller does to its surroundings. -/
inductive Effect
  /-- a call of `scheduleRegistersWrite`, and `isReflowRunning` at that moment -/
  | registersWrite (call : RegistersWrite) (isReflowRunning : Bool)
  /-- `handleInitStep` took this stage of this preset -/
  | stageEntered (preset : PresetPtr) (index : ℕ) (item : StageItem)
deriving DecidableEq

structure ReflowProcessController where
  isReflowRunning : Bool
  requestsQueue : List CommandVariant
  activePreset : Option PresetPtr
  activePresetId : Option UInt64
  reflowProcessData : ReflowProcessData
  /-- in milliseconds -/
  sysTickTime : ℤ
  lastModbusData : LastModbusData
  trace : List Effect

namespace ReflowProcessController

/-- The state after construction. `stageCompletionTimepoint` has no initializer, so its first
value is arbitrary. -/
def make (stageCompletionTimepoint : ℤ) : ReflowProcessController where
  isReflowRunning := false
  requestsQueue := []
  activePreset := none
  activePresetId := none
  reflowProcessData := ⟨0, none, .kInitStep, stageCompletionTimepoint⟩
  sysTickTime := 0
  lastModbusData := ⟨0, 0, ⟨0, 0⟩⟩
  trace := []

/-- `kSystickResolution`, in milliseconds. -/
def kSystickResolution : ℤ := 1000

/-! ## The request queue -/

/-- `postCommand`, that is `RequestsQueue::pushOperation`. -/
def postCommand (command : CommandVariant) (s : ReflowProcessController) :
    ReflowProcessController :=
  { s with requestsQueue := s.requestsQueue ++ [command] }

/-- `RequestsQueue::getOperation`. The source returns through a reference to the element it has
just popped, which the language leaves undefined; the commands are trivially destructible and
nothing else writes to the queue under the lock, so here it is the front. -/
def getOperation (s : ReflowProcessController) :
    Option (CommandVariant × ReflowProcessController) :=
  match s.requestsQueue with
  | [] => none
  | command :: rest => some (command, { s with requestsQueue := rest })

/-! ## Register writes -/

/-- The call of `m_pModbusProxyPtr->scheduleRegistersWrite`. -/
def scheduleRegistersWrite (registerAddress : UInt16) (registers : List UInt16)
    (s : ReflowProcessController) : ReflowProcessController :=
  { s with
    trace := s.trace ++ [Effect.registersWrite ⟨registerAddress, registers⟩ s.isReflowRunning] }

def disableHeating (s : ReflowProcessController) : ReflowProcessController :=
  s.scheduleRegistersWrite kTargetTemperatureAddr [0]

def setRegulatorParams (tc : Toolchain) (regulatorParams : RegulatorParams)
    (s : ReflowProcessController) : ReflowProcessController :=
  s.scheduleRegistersWrite kFactorAddr
    [tc.toUInt16 regulatorParams.k, regulatorParams.hysteresis.toUInt16]

/-! ## Command handlers -/

def handleReflowStart (s : ReflowProcessController) : ReflowProcessController :=
  match s.activePreset with
  | none => s
  | some _ => { s with reflowProcessData.reflowStep := .kInitStep, isReflowRunning := true }

def handleReflowEnd (s : ReflowProcessController) : ReflowProcessController :=
  if !s.isReflowRunning then s
  else
    -- the write is made while the flag is still set
    { s.disableHeating with
      reflowProcessData.activeStageIndex := 0
      reflowProcessData.reflowStep := .kStageCompleted
      activePreset := none
      activePresetId := none
      isReflowRunning := false
      sysTickTime := 1 }

/-- The id is stored before the lookup, which may throw. -/
def handlePresetSelection (holder : PresetsHolder) (presetId : UInt64)
    (s : ReflowProcessController) : Outcome Fault ReflowProcessController :=
  if s.isReflowRunning then .done s
  else
    match holder.getPresetById presetId with
    -- the new id stays behind, the preset is the old one
    | .error e => .raised e { s with activePresetId := some presetId }
    | .ok ptr => .done { s with activePresetId := some presetId, activePreset := some ptr }

/-- `commandsVisitor`. -/
def visitCommand (tc : Toolchain) (holder : PresetsHolder) (command : CommandVariant)
    (s : ReflowProcessController) : Outcome Fault ReflowProcessController :=
  match command with
  | .startReflow => .done s.handleReflowStart
  | .stopReflow => .done s.handleReflowEnd
  | .selectPreset presetId => s.handlePresetSelection holder presetId
  | .setRegulatorParams params => .done (s.setRegulatorParams tc params)

/-- One iteration of the dispatch loop: the command leaves the queue, then it is visited. -/
def handleOperation (tc : Toolchain) (holder : PresetsHolder) (command : CommandVariant)
    (s : ReflowProcessController) : Outcome Fault ReflowProcessController :=
  visitCommand tc holder command { s with requestsQueue := s.requestsQueue.tail }

/-- The dispatch loop. No handler posts a command, so it runs over the commands queued at its
start; `dispatchCommandsQueue_eq` is the loop as the source has it. -/
def dispatchCommandsQueue (tc : Toolchain) (holder : PresetsHolder)
    (s : ReflowProcessController) : Outcome Fault ReflowProcessController :=
  Outcome.sweep (handleOperation tc holder) s.requestsQueue s

/-! ## The register read -/

/-- The decoder of `requestModbusData`, by position in the reading. -/
def decodeReading (reading : ModbusReading) : LastModbusData where
  surroundingTemperature := reading[0].toUInt32.toInt32
  tableTemperature := reading[1].toUInt32.toInt32
  regulator := ⟨reading[3].toNat, reading[2].toUInt32⟩

/-- `requestModbusData`, given the answer of `readRegisters`. -/
def requestModbusData (reading : Option ModbusReading) (s : ReflowProcessController) :
    ReflowProcessController :=
  match reading with
  | none => s
  | some words => { s with lastModbusData := decodeReading words }

/-! ## The process step -/

def moveToNextStage (holder : PresetsHolder) (s : ReflowProcessController) :
    Outcome Fault ReflowProcessController :=
  let s := { s with
    reflowProcessData.activeStageIndex := s.reflowProcessData.activeStageIndex + 1 }
  match s.activePreset with
  | none => .raised .nullDereference s
  | some ptr =>
    let isReflowCompleted :=
      decide (s.reflowProcessData.activeStageIndex ≥ (holder.objects ptr).numStages)
    if isReflowCompleted then .done s.handleReflowEnd
    else .done { s with reflowProcessData.reflowStep := .kInitStep }

/-- The stage a pointer reads, `freed` when the stage has moved away. -/
def derefStage (holder : PresetsHolder) (freed : StageItem) (sp : StagePtr) : StageItem :=
  (holder.readStage sp).getD freed

def handleInitStep (holder : PresetsHolder) (freed : StageItem) (s : ReflowProcessController) :
    Outcome Fault ReflowProcessController :=
  match s.activePreset with
  | none => .raised .nullDereference s
  | some ptr =>
    match (holder.objects ptr).getStageItem s.reflowProcessData.activeStageIndex with
    | .error e => .raised e s
    | .ok element =>
      let item := derefStage holder freed ⟨ptr, element⟩
      let s := { s with
        reflowProcessData.activePresetState := some ⟨ptr, element⟩
        reflowProcessData.reflowStep := .kPreheat
        trace := s.trace ++ [Effect.stageEntered ptr s.reflowProcessData.activeStageIndex item] }
      .done (s.scheduleRegistersWrite kTargetTemperatureAddr [item.temperatureStep.toUInt16])

/-- Lines 244-245: the comparison is made in `std::uint32_t`, to which the table temperature
is converted. -/
def canCompletePreheatStage (presetExpectedTemperature : UInt32) (data : LastModbusData) :
    Bool :=
  decide (presetExpectedTemperature - data.regulator.hysteresis ≤ data.tableTemperature.toUInt32)
    && decide
      (presetExpectedTemperature + data.regulator.hysteresis ≥ data.tableTemperature.toUInt32)

def handlePreheatState (holder : PresetsHolder) (freed : StageItem)
    (s : ReflowProcessController) : Outcome Fault ReflowProcessController :=
  match s.reflowProcessData.activePresetState with
  | none => .raised .nullDereference s
  | some sp =>
    let item := derefStage holder freed sp
    let presetExpectedTemperature := item.temperatureStep
    if presetExpectedTemperature = 0 then s.moveToNextStage holder
    else if presetExpectedTemperature ≤ s.lastModbusData.surroundingTemperature.toUInt32 then
      s.moveToNextStage holder
    else if canCompletePreheatStage presetExpectedTemperature s.lastModbusData then
      .done { s with
        reflowProcessData.stageCompletionTimepoint := s.sysTickTime + item.stageDuration * 1000
        reflowProcessData.reflowStep := .kInProgress }
    else .done s

def handleInProgressState (s : ReflowProcessController) : ReflowProcessController :=
  match s.reflowProcessData.activePresetState with
  | none => s
  | some _ =>
    if s.sysTickTime ≥ s.reflowProcessData.stageCompletionTimepoint then
      { s with reflowProcessData.reflowStep := .kStageCompleted }
    else s

def processReflowStep (holder : PresetsHolder) (freed : StageItem)
    (s : ReflowProcessController) : Outcome Fault ReflowProcessController :=
  if s.activePreset.isNone then .done s
  else if !s.isReflowRunning then .done s
  else
    match s.reflowProcessData.reflowStep with
    | .kInitStep => s.handleInitStep holder freed
    | .kPreheat => s.handlePreheatState holder freed
    | .kInProgress => .done s.handleInProgressState
    | .kStageCompleted => s.moveToNextStage holder

/-! ## A tick -/

/-- The end of `runnable`: time passes while a run is on. -/
def advanceSysTick (s : ReflowProcessController) : ReflowProcessController :=
  if s.isReflowRunning then { s with sysTickTime := s.sysTickTime + kSystickResolution } else s

def runnable (tc : Toolchain) (holder : PresetsHolder) (input : TickInput)
    (s : ReflowProcessController) : Outcome Fault ReflowProcessController :=
  (s.dispatchCommandsQueue tc holder).bind fun s =>
    ((s.requestModbusData input.reading).processReflowStep holder input.freed).bind fun s =>
      .done s.advanceSysTick

/-! ## Observers -/

def isRunning (s : ReflowProcessController) : Bool := s.isReflowRunning

def getRegulatorParams (s : ReflowProcessController) : RegulatorParams :=
  s.lastModbusData.regulator

def getActiveReflowPresetId (s : ReflowProcessController) : Option UInt64 := s.activePresetId

def getSystickTime (s : ReflowProcessController) : ℤ := s.sysTickTime

end ReflowProcessController

end ReflowTable

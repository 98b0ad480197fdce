import ReflowTable.Handlers
import ReflowTable.HeaterOff
import ReflowTable.RegulatorRegisters
import ReflowTable.WriteRetries

/-!
# The server on its device

Server, line and device in a closed loop. What the controller writes reaches the registers of the
device in the attempts of the proxy, what it reads comes out of them, and in between requests
arrive and the device measures its two temperatures.

Every run of an installation is one of `Server.operations`, with the readings the line gave
(`Installation.reachable_server`). On a bus on which no write fails in all of its attempts the
heater of the device does what the controller is at (`Installation.heater_follows`).
-/

namespace ReflowTable

open ReflowProcessController

namespace ModbusRequestsProxy

/-- `readRegisters`: one attempt, whose failure goes to the log. `modbus_read_registers` answers a
negative number, or the words stored in the device. -/
def readRegisters (errCode : ℤ) (registerAddress : UInt16) (registersCount : ℕ) (line : Line) :
    Option (Vector UInt16 registersCount) × Line :=
  if isFailed errCode then (none, logError errCode line)
  else (some (line.registers.read registerAddress registersCount), line)

/-- A line on which nothing has been attempted. -/
def Line.fresh (registers : Registers) : Line := ⟨[], registers, []⟩

/-- No write fails in all of its attempts. -/
def Patient (bus : ℕ → ℤ) : Prop := ∀ start, SucceedsWithin bus start (kModbusAttempts + 1)

end ModbusRequestsProxy

open ModbusRequestsProxy

structure Installation where
  server : Server
  line : Line

namespace Installation

/-- What can happen to an installation. -/
inductive Event
  | request (req : HttpRequest)
  /-- the device stores what it measures -/
  | measure (surrounding table : UInt16)
  /-- a tick, with the error code of its read and what freed memory holds -/
  | tick (errCode : ℤ) (freed : StageItem)

abbrev controller (n : Installation) : ReflowProcessController := n.server.reflowController

/-- The writes of a controller since `c` go down the line, one call after another. -/
def transmit (bus : ℕ → ℤ) (c c' : ReflowProcessController) (line : Line) : Line :=
  session bus (writesSince c c') line

/-- The temperatures of the device, in its first two registers. -/
def measure (surrounding table : UInt16) (n : Installation) : Installation :=
  { n with
    line.registers := Function.update (Function.update n.line.registers kSurroundingTempAddr
      surrounding) kThermocoupleAddr table }

/-- `runnable` on the line: the commands write, the registers are read as the commands left them,
then the process step writes. After an exception nothing more is done. -/
def tick (tc : Toolchain) (bus : ℕ → ℤ) (errCode : ℤ) (freed : StageItem) (n : Installation) :
    Installation :=
  match n.controller.dispatchCommandsQueue tc n.server.presetsHolder with
  | .raised _ c => ⟨{ n.server with reflowController := c }, transmit bus n.controller c n.line⟩
  | .done c =>
    let (reading, line) := readRegisters errCode kSurroundingTempAddr kModbusRegistersCount
      (transmit bus n.controller c n.line)
    let c' := (((c.requestModbusData reading).processReflowStep n.server.presetsHolder freed).bind
      fun c => .done c.advanceSysTick).state
    ⟨{ n.server with reflowController := c' }, transmit bus c c' line⟩

def step (lib : Libraries) (bus : ℕ → ℤ) (n : Installation) : Event → Installation
  | .request req => { n with server := (n.server.handle lib req).2 }
  | .measure surrounding table => n.measure surrounding table
  | .tick errCode freed => n.tick lib.toToolchain bus errCode freed

/-- The system of installations, on a device with these registers at first. -/
def installations (lib : Libraries) (bus : ℕ → ℤ) (registers : Registers) :
    System Installation Event where
  init n := Server.Constructed n.server ∧ n.line = .fresh registers
  step := step lib bus

/-- A concrete installation after construction. -/
def make (registers : Registers) : Installation := ⟨.make, .fresh registers⟩

theorem init_make (lib : Libraries) (bus : ℕ → ℤ) (registers : Registers) :
    (installations lib bus registers).init (make registers) := ⟨Server.constructed_make, rfl⟩

theorem reachable_run (lib : Libraries) (bus : ℕ → ℤ) (registers : Registers)
    (events : List Event) : (installations lib bus registers).Reachable
      ((installations lib bus registers).run (make registers) events) :=
  System.Reachable.run (.start (init_make lib bus registers)) events

/-! ## The server of an installation -/

variable {tc : Toolchain} {lib : Libraries} {bus : ℕ → ℤ} {registers : Registers}
  {n : Installation}

/-- What the read of the next tick yields. -/
def nextReading (tc : Toolchain) (bus : ℕ → ℤ) (errCode : ℤ) (n : Installation) :
    Option ModbusReading :=
  (readRegisters errCode kSurroundingTempAddr kModbusRegistersCount (transmit bus n.controller
    (n.controller.dispatchCommandsQueue tc n.server.presetsHolder).state n.line)).1

/-- **A tick of the installation is a tick of its server**, with the reading the line gave. -/
theorem server_tick (errCode : ℤ) (freed : StageItem) (n : Installation) :
    (n.tick tc bus errCode freed).server =
      n.server.tick tc ⟨n.nextReading tc bus errCode, freed⟩ := by
  unfold tick Server.tick Server.runnable ReflowProcessController.runnable nextReading
  cases n.controller.dispatchCommandsQueue tc n.server.presetsHolder with
  | raised e c => simp only [Outcome.bind_raised, Outcome.state_raised]
  | done c => simp only [Outcome.bind_done, Outcome.state_done]

/-- **The server refines its operations**: what an installation does to it are requests and
ticks. -/
theorem reachable_server (hn : (installations lib bus registers).Reachable n) :
    (Server.operations lib.toToolchain).Reachable n.server := by
  refine System.Reachable.map (M := installations lib bus registers)
    (N := Server.operations lib.toToolchain) server (fun _ hinit => hinit.1) (fun n e => ?_) hn
  cases e with
  | request req => exact Server.handle_run req n.server
  | measure surrounding table => exact ⟨[], rfl⟩
  | tick errCode freed => exact ⟨[.tick ⟨_, freed⟩], server_tick errCode freed n⟩

/-! ## The registers of an installation

The device holds what was delivered to it. The bus has been used by the calls of the trace and by
nothing else, so it is the same whether they went out tick by tick or in one session. -/

theorem length_attempts_scheduleRegistersWrite {call : RegistersWrite} {line line' : Line}
    (hattempts : line.attempts.length = line'.attempts.length) :
    (scheduleRegistersWrite bus call line).attempts.length =
      (scheduleRegistersWrite bus call line').attempts.length := by
  rw [attempts_scheduleRegistersWrite, attempts_scheduleRegistersWrite, List.length_append,
    List.length_append, List.length_map, List.length_map, hattempts]

theorem length_attempts_session {line line' : Line} (calls : List RegistersWrite)
    (hattempts : line.attempts.length = line'.attempts.length) :
    (session bus calls line).attempts.length = (session bus calls line').attempts.length := by
  induction calls generalizing line line' with
  | nil => exact hattempts
  | cons call calls ih => exact ih (length_attempts_scheduleRegistersWrite hattempts)

/-- Which calls get through depends on the attempts made before. -/
theorem delivered_congr {line line' : Line} (calls : List RegistersWrite)
    (hattempts : line.attempts.length = line'.attempts.length) :
    delivered bus calls line = delivered bus calls line' := by
  induction calls generalizing line line' with
  | nil => rfl
  | cons call calls ih =>
    have hgot : GotThrough bus line ↔ GotThrough bus line' := by
      rw [GotThrough, GotThrough, hattempts]
    rw [delivered, delivered, ih (length_attempts_scheduleRegistersWrite hattempts)]
    simp only [hgot]

/-- On a patient bus every call gets through. -/
theorem delivered_of_patient (hbus : Patient bus) (calls : List RegistersWrite) (line : Line) :
    delivered bus calls line = calls := by
  induction calls generalizing line with
  | nil => rfl
  | cons call calls ih =>
    have hgot : GotThrough bus line := hbus _
    rw [delivered, if_pos hgot, ih]
    rfl

/-- A controller and its line: the bus has carried the calls of the trace, and the registers the
device does not measure into hold what was delivered of them. -/
structure Wired (bus : ℕ → ℤ) (registers : Registers) (c : ReflowProcessController)
    (line : Line) : Prop where
  attempts : line.attempts.length =
    (session bus (writes c.trace) (.fresh registers)).attempts.length
  stored : ∀ addr, addr ≠ kSurroundingTempAddr → addr ≠ kThermocoupleAddr →
    line.registers addr =
      registers.storeAll (delivered bus (writes c.trace) (.fresh registers)) addr

namespace Wired

variable {c c' : ReflowProcessController} {line : Line}

theorem writes_eq (h : c.trace <+: c'.trace) :
    writes c'.trace = writes c.trace ++ writesSince c c' := by
  obtain ⟨u, hu⟩ := h
  rw [writesSince, ← hu, writes_append, List.drop_left]

/-- **Step lemma.** -/
theorem transmit (hw : Wired bus registers c line) (h : c.trace <+: c'.trace) :
    Wired bus registers c' (Installation.transmit bus c c' line) := by
  -- one session of all the calls goes on where that of the earlier ones has stopped
  have hsession : session bus (writes c'.trace) (.fresh registers) =
      session bus (writesSince c c') (session bus (writes c.trace) (.fresh registers)) := by
    rw [writes_eq h, session, List.foldl_append]
    rfl
  refine ⟨?_, fun addr hsurrounding htable => ?_⟩
  · rw [hsession]
    exact length_attempts_session _ hw.attempts
  · rw [Installation.transmit, registers_session, delivered_congr _ hw.attempts, writes_eq h,
      delivered_append, Registers.storeAll_apply, hw.stored addr hsurrounding htable,
      Registers.storeAll_apply, Registers.storeAll_apply, wordsAt_append, List.getLast?_append]
    cases (wordsAt addr (delivered bus (writesSince c c')
      (session bus (writes c.trace) (.fresh registers)))).getLast? <;> rfl

/-- Only the trace of the controller counts. -/
theorem of_trace (hw : Wired bus registers c line) (h : c'.trace = c.trace) :
    Wired bus registers c' line := by
  obtain ⟨hattempts, hstored⟩ := hw
  rw [← h] at hattempts hstored
  exact ⟨hattempts, hstored⟩

theorem readRegisters (hw : Wired bus registers c line) (errCode : ℤ) (base : UInt16)
    (count : ℕ) : Wired bus registers c (readRegisters errCode base count line).2 := by
  unfold ModbusRequestsProxy.readRegisters
  split_ifs
  · exact ⟨hw.attempts, hw.stored⟩
  · exact hw

end Wired

theorem trace_process_extends (holder : PresetsHolder) (freed : StageItem)
    (c : ReflowProcessController) :
    c.trace <+: ((c.processReflowStep holder freed).bind fun c =>
      .done c.advanceSysTick).state.trace :=
  (process_follows holder freed).keeps (I := fun c' => c.trace <+: c'.trace)
    (fun _ _ hstep hprefix => hprefix.trans (ProcessChange.trace_extends hstep)) c
    (List.prefix_refl _)

theorem trace_requestModbusData (reading : Option ModbusReading) (c : ReflowProcessController) :
    (c.requestModbusData reading).trace = c.trace := by
  cases reading <;> rfl

theorem wired_tick (hw : Wired bus registers n.controller n.line) (errCode : ℤ)
    (freed : StageItem) : Wired bus registers (n.tick tc bus errCode freed).controller
      (n.tick tc bus errCode freed).line := by
  have hdispatch := trace_prefix_sweep tc n.server.presetsHolder n.controller.requestsQueue
    n.controller
  rw [← dispatchCommandsQueue] at hdispatch
  unfold tick
  cases hdone : n.controller.dispatchCommandsQueue tc n.server.presetsHolder with
  | raised e c =>
    rw [hdone] at hdispatch
    exact hw.transmit hdispatch
  | done c =>
    rw [hdone] at hdispatch
    -- the commands write, then the read, then the process step writes
    refine ((hw.transmit hdispatch).readRegisters errCode _ _).transmit ?_
    have hprocess := trace_process_extends n.server.presetsHolder freed (c.requestModbusData
      (ModbusRequestsProxy.readRegisters errCode kSurroundingTempAddr kModbusRegistersCount
        (Installation.transmit bus n.controller c n.line)).1)
    rwa [trace_requestModbusData] at hprocess

theorem table_measure (surrounding table : UInt16) :
    (n.measure surrounding table).line.registers kThermocoupleAddr = table := by
  simp [measure]

theorem registers_measure (surrounding table : UInt16) {addr : UInt16}
    (hsurrounding : addr ≠ kSurroundingTempAddr) (htable : addr ≠ kThermocoupleAddr) :
    (n.measure surrounding table).line.registers addr = n.line.registers addr := by
  simp [measure, hsurrounding, htable]

theorem wired_measure (hw : Wired bus registers n.controller n.line) (surrounding table : UInt16) :
    Wired bus registers n.controller (n.measure surrounding table).line where
  attempts := hw.attempts
  stored addr hsurrounding htable := by
    rw [registers_measure surrounding table hsurrounding htable]
    exact hw.stored addr hsurrounding htable

/-- **Run lemma.** -/
theorem wired_of_reachable (hn : (installations lib bus registers).Reachable n) :
    Wired bus registers n.controller n.line := by
  refine System.Reachable.invariant (I := fun n => Wired bus registers n.controller n.line)
    ?_ ?_ hn
  · rintro ⟨server, line⟩ ⟨⟨-, t, hcontroller⟩, rfl⟩
    dsimp only at hcontroller
    show Wired bus registers server.reflowController _
    rw [hcontroller]
    exact ⟨rfl, fun _ _ _ => rfl⟩
  · intro n e hw
    cases e with
    | request req =>
      refine hw.of_trace ?_
      show (n.server.handle lib req).2.reflowController.trace = _
      rcases Server.handle_controller lib req n.server with heq | ⟨command, heq, -⟩
      · rw [heq]
      · rw [heq]
        rfl
    | measure surrounding table => exact wired_measure hw surrounding table
    | tick errCode freed => exact wired_tick hw errCode freed

/-! ## The heater -/

/-- While a stage is on, the last target word is its temperature. -/
def Heating (c : ReflowProcessController) : Prop :=
  c.isReflowRunning = true → c.reflowProcessData.reflowStep ≠ .kInitStep →
    ∃ ptr item, c.activePreset = some ptr ∧
      (stagesEntered c.trace).getLast? =
        some (ptr, c.reflowProcessData.activeStageIndex, item) ∧
      (targetWords c.trace).getLast? = some item.temperatureStep.toUInt16

namespace Heating

variable {h : PresetsHolder} {freed : StageItem} {c c' : ReflowProcessController}

theorem of_idle (hidle : c.isReflowRunning = false) : Heating c := by
  intro hrun
  simp [hidle] at hrun

theorem of_init (hinit : c.reflowProcessData.reflowStep = .kInitStep) : Heating c :=
  fun _ hne => absurd hinit hne

/-- **Step lemma.** -/
theorem step (hstep : Transition tc h freed c c') (hc : Heating c) : Heating c' := by
  cases hstep with
  | command hcommand =>
    cases hcommand with
    | pop => exact hc
    | start => exact of_init rfl
    | stop => exact of_idle rfl
    | select hidle => exact of_idle hidle
    | selectUnknown hidle => exact of_idle hidle
    | setParams params =>
      intro hrun hne
      obtain ⟨ptr, item, hptr, hentered, hword⟩ := hc hrun hne
      refine ⟨ptr, item, hptr, Eq.trans ?_ hentered, Eq.trans ?_ hword⟩
      · simp [setRegulatorParams]
      · simp [setRegulatorParams]
  | read => exact hc
  | process hprocess =>
    cases hprocess with
    | @enter ptr item hrun hptr _ _ =>
      -- the stage is entered and its word written in one step
      intro _ _
      refine ⟨ptr, item, hptr, ?_, ?_⟩
      · rw [stagesEntered_entered, List.getLast?_concat]
        rfl
      · rw [targetWords_entered, List.getLast?_concat]
    | moveOn => exact of_init rfl
    | finish => exact of_idle rfl
    | soak hrun hpreheat => exact fun _ _ => hc hrun (by simp [hpreheat])
    | soakDone hrun hsoak => exact fun _ _ => hc hrun (by simp [hsoak])
    | advance hrun => exact hc

end Heating

/-- **Run lemma.** -/
theorem heating_of_reachable {s : Server} (hs : (Server.operations tc).Reachable s) :
    Heating s.reflowController :=
  Server.reachable_invariant (I := fun _ c => Heating c) (fun _ => .of_idle rfl)
    (fun _ _ _ _ hc => hc) (fun _ _ _ hc => hc) (fun _ _ _ _ hstep hc => hc.step hstep) hs

/-- The target register of a device on a patient bus. -/
theorem target_of_patient (hbus : Patient bus)
    (hn : (installations lib bus registers).Reachable n) :
    n.line.registers kTargetTemperatureAddr =
      (targetWords n.controller.trace).getLast?.getD (registers kTargetTemperatureAddr) := by
  rw [(wired_of_reachable hn).stored _ (by decide) (by decide), delivered_of_patient hbus,
    Registers.storeAll_apply]
  rfl

/-- **The heater follows the run.** Whatever requests come, whatever the device measures and
however many reads fail: on a bus on which no write fails in all of its attempts, the device is
off while the controller is idle, if it was ever written, and while a stage is on it heats to the
temperature that stage was entered with. -/
theorem heater_follows (hbus : Patient bus) (hn : (installations lib bus registers).Reachable n) :
    (n.controller.isRunning = false →
        (targetWords n.controller.trace = [] ∧ n.line.registers kTargetTemperatureAddr =
          registers kTargetTemperatureAddr) ∨
        n.line.registers kTargetTemperatureAddr = 0) ∧
      (n.controller.isRunning = true → n.controller.reflowProcessData.reflowStep ≠ .kInitStep →
        ∃ ptr item, n.controller.activePreset = some ptr ∧
          (stagesEntered n.controller.trace).getLast? =
            some (ptr, n.controller.reflowProcessData.activeStageIndex, item) ∧
          n.line.registers kTargetTemperatureAddr = item.temperatureStep.toUInt16) := by
  have htarget := target_of_patient hbus hn
  refine ⟨fun hidle => ?_, fun hrun hne => ?_⟩
  · rcases Server.heaterOff_of_reachable (reachable_server hn) hidle with hnone | hzero
    · exact .inl ⟨hnone, by rw [htarget, hnone]; rfl⟩
    · right
      rw [htarget, hzero]
      rfl
  · obtain ⟨ptr, item, hptr, hentered, hword⟩ :=
      heating_of_reachable (reachable_server hn) hrun hne
    refine ⟨ptr, item, hptr, hentered, ?_⟩
    rw [htarget, hword]
    rfl

/-- A bus on which every fourth attempt succeeds. -/
def stubbornBus (attempt : ℕ) : ℤ := if attempt % 4 = 3 then 1 else -1

theorem patient_stubbornBus : Patient stubbornBus := by
  intro start
  refine ⟨3 - start % 4, by simp [kModbusAttempts]; omega, ?_⟩
  have hsuccess : (start + (3 - start % 4)) % 4 = 3 := by omega
  rw [stubbornBus, if_pos hsuccess]
  rfl

/-- A preset is created, filled, selected and started, and its stage is entered. -/
def heatedSession : List Event :=
  [.request (.createPreset (asciiBytes Server.createText)),
    .request (.updatePreset "4" (asciiBytes Server.stagesText)),
    .request (.pushCommand (asciiBytes Server.selectText)),
    .request (.pushCommand (asciiBytes Server.startText)), .measure 20 25, .tick (-1) ⟨0, 0⟩]

/-- The three failed attempts of the write leave the heater on all the same. -/
theorem heater_follows_heatedSession :
    let n := (installations Server.sessionLibraries stubbornBus fun _ => 0).run
      (make fun _ => 0) heatedSession
    n.line.attempts.length = 4 ∧ n.controller.isRunning = true ∧
      ∃ ptr item, n.controller.activePreset = some ptr ∧
        (stagesEntered n.controller.trace).getLast? =
          some (ptr, n.controller.reflowProcessData.activeStageIndex, item) ∧
        n.line.registers kTargetTemperatureAddr = item.temperatureStep.toUInt16 := by
  refine ⟨by decide +kernel, by decide +kernel, ?_⟩
  exact (heater_follows patient_stubbornBus (reachable_run _ _ _ heatedSession)).2
    (by decide +kernel) (by decide +kernel)

end Installation

end ReflowTable

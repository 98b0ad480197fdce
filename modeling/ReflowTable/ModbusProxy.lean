import Mathlib.Tactic.SplitIfs
import ReflowTable.Types

/-!
# The Modbus proxy

`scheduleRegistersWrite` of `modbus_proxy.cpp`: one attempt, and if that fails up to
`kModbusAttempts` more. The caller learns nothing of the outcome; what is left of a failure is a
line in the log.

Of libmodbus it is assumed that `modbus_write_registers` answers a negative number and leaves
the device alone, or stores the words. Which of the two an attempt does is up to `bus`, the
error codes of the write attempts of a session in order.
-/

namespace ReflowTable

namespace ModbusRequestsProxy

def kModbusAttempts : ℕ := 3

def isFailed (errorCode : ℤ) : Bool := decide (errorCode < 0)

/-- The line: the write attempts made on it with their error codes, the registers behind it, and
the error codes that went to the log. -/
structure Line where
  attempts : List (RegistersWrite × ℤ)
  registers : Registers
  logged : List ℤ

variable (bus : ℕ → ℤ) (call : RegistersWrite)

/-- `modbus_write_registers`. -/
def modbusWriteRegisters (line : Line) : ℤ × Line :=
  let errCode := bus line.attempts.length
  (errCode,
    { line with
      attempts := line.attempts ++ [(call, errCode)]
      registers := if isFailed errCode then line.registers else line.registers.store call })

/-- `spdlog::error`, the last statement of `scheduleRegistersWrite`. -/
def logError (errCode : ℤ) (line : Line) : Line := { line with logged := line.logged ++ [errCode] }

/-- The `while` loop and what follows it. `isFailedWrite` is the verdict on the first attempt
throughout, so a first attempt that succeeds falls through to the log. -/
def retryLoop (isFailedWrite : Bool) : ℕ → ℤ → Line → Line
  | 0, errCode, line => logError errCode line
  | numAttempts + 1, errCode, line =>
    if isFailedWrite then
      let (errCode, line) := modbusWriteRegisters bus call line
      -- a retry that succeeds returns past the log
      if !isFailed errCode then line else retryLoop isFailedWrite numAttempts errCode line
    else logError errCode line

def scheduleRegistersWrite (line : Line) : Line :=
  let (errCode, line) := modbusWriteRegisters bus call line
  let isFailedWrite := isFailed errCode
  retryLoop bus call isFailedWrite kModbusAttempts errCode line

/-! ## What a call does to the device -/

/-- One of the `count` attempts from `start` on succeeds. -/
def SucceedsWithin (start count : ℕ) : Prop := ∃ i < count, isFailed (bus (start + i)) = false

instance (start count : ℕ) : Decidable (SucceedsWithin bus start count) :=
  inferInstanceAs (Decidable (∃ i < count, _))

/-- One of the attempts a call may make succeeds; the first that does ends the call. -/
def GotThrough (line : Line) : Prop :=
  SucceedsWithin bus line.attempts.length (kModbusAttempts + 1)

instance (line : Line) : Decidable (GotThrough bus line) :=
  inferInstanceAs (Decidable (SucceedsWithin ..))

variable {bus}

theorem succeedsWithin_succ {start count : ℕ} :
    SucceedsWithin bus start (count + 1) ↔
      isFailed (bus start) = false ∨ SucceedsWithin bus (start + 1) count := by
  simp only [SucceedsWithin, Nat.exists_lt_succ_left, Nat.add_zero, Nat.add_assoc, Nat.add_comm 1]

theorem succeedsWithin_of_succeeded {start : ℕ} (count : ℕ) (h : isFailed (bus start) = false) :
    SucceedsWithin bus start (count + 1) := succeedsWithin_succ.mpr (.inl h)

theorem succeedsWithin_of_failed {start : ℕ} (count : ℕ) (h : isFailed (bus start) = true) :
    SucceedsWithin bus start (count + 1) ↔ SucceedsWithin bus (start + 1) count := by
  rw [succeedsWithin_succ, h]
  simp

variable {call} {line : Line}

/-! ### One attempt -/

@[simp] theorem attempts_modbusWriteRegisters :
    (modbusWriteRegisters bus call line).2.attempts =
      line.attempts ++ [(call, bus line.attempts.length)] := rfl

@[simp] theorem length_attempts_modbusWriteRegisters :
    (modbusWriteRegisters bus call line).2.attempts.length = line.attempts.length + 1 := by
  rw [attempts_modbusWriteRegisters, List.length_append, List.length_singleton]

@[simp] theorem logged_modbusWriteRegisters :
    (modbusWriteRegisters bus call line).2.logged = line.logged := rfl

theorem registers_of_succeeded (h : isFailed (bus line.attempts.length) = false) :
    (modbusWriteRegisters bus call line).2.registers = line.registers.store call := by
  simp [modbusWriteRegisters, h]

theorem registers_of_failed (h : isFailed (bus line.attempts.length) = true) :
    (modbusWriteRegisters bus call line).2.registers = line.registers := by
  simp [modbusWriteRegisters, h]

/-! ### The ways through a call -/

theorem retryLoop_of_succeeded (numAttempts : ℕ) (errCode : ℤ)
    (h : isFailed (bus line.attempts.length) = false) :
    retryLoop bus call true (numAttempts + 1) errCode line =
      (modbusWriteRegisters bus call line).2 := by
  simp [retryLoop, modbusWriteRegisters, h]

theorem retryLoop_of_failed (numAttempts : ℕ) (errCode : ℤ)
    (h : isFailed (bus line.attempts.length) = true) :
    retryLoop bus call true (numAttempts + 1) errCode line =
      retryLoop bus call true numAttempts (bus line.attempts.length)
        (modbusWriteRegisters bus call line).2 := by
  simp [retryLoop, modbusWriteRegisters, h]

/-- The loop is not entered, and the success is logged. -/
theorem scheduleRegistersWrite_of_succeeded (h : isFailed (bus line.attempts.length) = false) :
    scheduleRegistersWrite bus call line =
      logError (bus line.attempts.length) (modbusWriteRegisters bus call line).2 := by
  simp [scheduleRegistersWrite, modbusWriteRegisters, h, retryLoop, kModbusAttempts]

theorem scheduleRegistersWrite_of_failed (h : isFailed (bus line.attempts.length) = true) :
    scheduleRegistersWrite bus call line =
      retryLoop bus call true kModbusAttempts (bus line.attempts.length)
        (modbusWriteRegisters bus call line).2 := by
  simp only [scheduleRegistersWrite, modbusWriteRegisters, h]

/-! ### The registers -/

/-- The retries store the words if one of them succeeds, and change no register otherwise. -/
theorem registers_retryLoop (numAttempts : ℕ) (errCode : ℤ) (line : Line) :
    (retryLoop bus call true numAttempts errCode line).registers =
      if SucceedsWithin bus line.attempts.length numAttempts then line.registers.store call
      else line.registers := by
  induction numAttempts generalizing errCode line with
  | zero => simp [retryLoop, SucceedsWithin, logError]
  | succ numAttempts ih =>
    cases hattempt : isFailed (bus line.attempts.length) with
    | false =>
      rw [retryLoop_of_succeeded numAttempts errCode hattempt, registers_of_succeeded hattempt,
        if_pos (succeedsWithin_of_succeeded numAttempts hattempt)]
    | true =>
      -- the first of the attempts is spent, the others begin one further down the bus
      rw [retryLoop_of_failed numAttempts errCode hattempt, ih, registers_of_failed hattempt]
      simp only [length_attempts_modbusWriteRegisters,
        succeedsWithin_of_failed numAttempts hattempt]

/-- **A call stores its words exactly when one of its attempts succeeds.** -/
theorem registers_scheduleRegistersWrite (line : Line) :
    (scheduleRegistersWrite bus call line).registers =
      if GotThrough bus line then line.registers.store call else line.registers := by
  cases hattempt : isFailed (bus line.attempts.length) with
  | false =>
    have hgot : GotThrough bus line := succeedsWithin_of_succeeded kModbusAttempts hattempt
    rw [scheduleRegistersWrite_of_succeeded hattempt, if_pos hgot]
    exact registers_of_succeeded hattempt
  | true =>
    have hgot : GotThrough bus line ↔
        SucceedsWithin bus (line.attempts.length + 1) kModbusAttempts :=
      succeedsWithin_of_failed kModbusAttempts hattempt
    rw [scheduleRegistersWrite_of_failed hattempt, registers_retryLoop,
      registers_of_failed hattempt]
    simp only [length_attempts_modbusWriteRegisters, hgot]

/-! ## A session -/

/-- The calls of a session, one after the other. -/
def session (bus : ℕ → ℤ) (calls : List RegistersWrite) (line : Line) : Line :=
  calls.foldl (fun line call => scheduleRegistersWrite bus call line) line

/-- The calls of a session that got through. -/
def delivered (bus : ℕ → ℤ) : List RegistersWrite → Line → List RegistersWrite
  | [], _ => []
  | call :: calls, line =>
    (if GotThrough bus line then [call] else []) ++
      delivered bus calls (scheduleRegistersWrite bus call line)

theorem delivered_append (calls more : List RegistersWrite) (line : Line) :
    delivered bus (calls ++ more) line =
      delivered bus calls line ++ delivered bus more (session bus calls line) := by
  induction calls generalizing line with
  | nil => rfl
  | cons call calls ih =>
    rw [List.cons_append, delivered, delivered, ih, List.append_assoc]
    rfl

theorem delivered_sublist (calls : List RegistersWrite) (line : Line) :
    (delivered bus calls line).Sublist calls := by
  induction calls generalizing line with
  | nil => exact .slnil
  | cons call calls ih =>
    rw [delivered]
    split_ifs
    · exact (ih _).cons_cons call
    · exact (ih _).cons call

/-- What did not get through left no mark on the device. -/
theorem registers_session (calls : List RegistersWrite) (line : Line) :
    (session bus calls line).registers = line.registers.storeAll (delivered bus calls line) := by
  induction calls generalizing line with
  | nil => rfl
  | cons call calls ih =>
    rw [session, List.foldl_cons, ← session, ih, registers_scheduleRegistersWrite, delivered]
    split_ifs <;> rfl

end ModbusRequestsProxy

end ReflowTable

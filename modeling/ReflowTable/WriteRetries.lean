import ReflowTable.Lib.Retries
import ReflowTable.ModbusProxy

/-!
# What a write call attempts and reports

The attempts of a call are those of a retried operation: a first one and up to `kModbusAttempts`
more while they fail. The report is the last statement of the function, and only a retry returns
before it. A call whose first attempt succeeds is reported as well.
-/

namespace ReflowTable

namespace ModbusRequestsProxy

open Retries (tries)

/-- What one call added to the line. -/
structure CallRecord where
  call : RegistersWrite
  /-- the attempts made before the call -/
  start : ℕ
  attempts : List (RegistersWrite × ℤ)
  logged : List ℤ

variable (bus : ℕ → ℤ)

def callRecord (call : RegistersWrite) (line : Line) : CallRecord :=
  let after := scheduleRegistersWrite bus call line
  { call
    start := line.attempts.length
    attempts := after.attempts.drop line.attempts.length
    logged := after.logged.drop line.logged.length }

/-- The calls of a session, each with what it added. -/
def callRecords : List RegistersWrite → Line → List CallRecord
  | [], _ => []
  | call :: calls, line =>
    callRecord bus call line :: callRecords calls (scheduleRegistersWrite bus call line)

/-- A first attempt, then retries while the attempts fail: at most `kModbusAttempts` of them, none
after a success, all with the call's address and words, and all of them made if none succeeds. -/
structure Attempted (r : CallRecord) : Prop where
  first : r.attempts ≠ []
  bounded : r.attempts.length ≤ 1 + kModbusAttempts
  sameCall : ∀ attempt ∈ r.attempts, attempt.1 = r.call
  codes : ∀ (i : ℕ) attempt, r.attempts[i]? = some attempt → attempt.2 = bus (r.start + i)
  failing : ∀ pre attempt post, r.attempts = pre ++ attempt :: post → post ≠ [] →
    isFailed attempt.2 = true
  exhausted : (∀ attempt ∈ r.attempts, isFailed attempt.2 = true) →
    r.attempts.length = 1 + kModbusAttempts

/-- An error was reported exactly if no attempt succeeded. -/
def RightlyReported (r : CallRecord) : Prop :=
  r.logged ≠ [] ↔ ∀ attempt ∈ r.attempts, isFailed attempt.2 = true

/-- Every call of the session fails at its first attempt. -/
def FirstAttemptsFail (calls : List RegistersWrite) (line : Line) : Prop :=
  ∀ pre call post, calls = pre ++ call :: post →
    isFailed (bus (session bus pre line).attempts.length) = true

variable {bus} {call : RegistersWrite}

theorem attempts_retryLoop (numAttempts : ℕ) (errCode : ℤ) (line : Line) :
    (retryLoop bus call true numAttempts errCode line).attempts =
      line.attempts ++
        (tries isFailed bus line.attempts.length numAttempts).map (Prod.mk call) := by
  induction numAttempts generalizing errCode line with
  | zero => simp [retryLoop, logError, tries]
  | succ numAttempts ih =>
    cases hattempt : isFailed (bus line.attempts.length) with
    | false =>
      rw [retryLoop_of_succeeded numAttempts errCode hattempt,
        Retries.tries_of_succeeded numAttempts hattempt]
      rfl
    | true =>
      rw [retryLoop_of_failed numAttempts errCode hattempt, ih,
        Retries.tries_of_failed numAttempts hattempt, length_attempts_modbusWriteRegisters,
        attempts_modbusWriteRegisters, List.append_assoc, List.singleton_append, List.map_cons]

/-- The last error code is reported if no retry succeeds. -/
theorem logged_retryLoop (numAttempts : ℕ) (errCode : ℤ) (line : Line) :
    (retryLoop bus call true numAttempts errCode line).logged =
      line.logged ++
        if (tries isFailed bus line.attempts.length numAttempts).all isFailed then
          [((tries isFailed bus line.attempts.length numAttempts).getLast?).getD errCode]
        else [] := by
  induction numAttempts generalizing errCode line with
  | zero => rfl
  | succ numAttempts ih =>
    cases hattempt : isFailed (bus line.attempts.length) with
    | false =>
      rw [retryLoop_of_succeeded numAttempts errCode hattempt,
        Retries.tries_of_succeeded numAttempts hattempt]
      simp [hattempt]
    | true =>
      rw [retryLoop_of_failed numAttempts errCode hattempt, ih,
        Retries.tries_of_failed numAttempts hattempt, length_attempts_modbusWriteRegisters,
        logged_modbusWriteRegisters, List.all_cons, hattempt, Bool.true_and, List.getLast?_cons,
        Option.getD_some]

/-- The attempts of a call are the tries of a retried operation. -/
theorem attempts_scheduleRegistersWrite (line : Line) :
    (scheduleRegistersWrite bus call line).attempts =
      line.attempts ++
        (tries isFailed bus line.attempts.length (kModbusAttempts + 1)).map (Prod.mk call) := by
  cases hattempt : isFailed (bus line.attempts.length) with
  | false =>
    rw [scheduleRegistersWrite_of_succeeded hattempt,
      Retries.tries_of_succeeded kModbusAttempts hattempt]
    rfl
  | true =>
    rw [scheduleRegistersWrite_of_failed hattempt, attempts_retryLoop,
      Retries.tries_of_failed kModbusAttempts hattempt, length_attempts_modbusWriteRegisters,
      attempts_modbusWriteRegisters, List.append_assoc, List.singleton_append, List.map_cons]

theorem attempts_callRecord (line : Line) :
    (callRecord bus call line).attempts =
      (tries isFailed bus line.attempts.length (kModbusAttempts + 1)).map (Prod.mk call) := by
  rw [callRecord, attempts_scheduleRegistersWrite, List.drop_left]

/-- A first attempt that succeeds is reported. -/
theorem logged_of_succeeded {line : Line}
    (hattempt : isFailed (bus line.attempts.length) = false) :
    (scheduleRegistersWrite bus call line).logged = line.logged ++ [bus line.attempts.length] := by
  rw [scheduleRegistersWrite_of_succeeded hattempt]
  rfl

variable (call) in
/-- After a first attempt that fails there is a report exactly if no attempt succeeds. -/
theorem logged_of_failed {line : Line}
    (hattempt : isFailed (bus line.attempts.length) = true) :
    ∃ code, (scheduleRegistersWrite bus call line).logged = line.logged ++
      if (tries isFailed bus line.attempts.length (kModbusAttempts + 1)).all isFailed then [code]
      else [] := by
  rw [scheduleRegistersWrite_of_failed hattempt, logged_retryLoop,
    Retries.tries_of_failed kModbusAttempts hattempt, List.all_cons, hattempt, Bool.true_and,
    length_attempts_modbusWriteRegisters, logged_modbusWriteRegisters]
  exact ⟨_, rfl⟩

theorem logged_scheduleRegistersWrite (line : Line) :
    (scheduleRegistersWrite bus call line).logged =
      line.logged ++ (callRecord bus call line).logged := by
  cases hattempt : isFailed (bus line.attempts.length) with
  | false => rw [callRecord, logged_of_succeeded hattempt, List.drop_left]
  | true =>
    obtain ⟨code, hlogged⟩ := logged_of_failed call hattempt
    rw [callRecord, hlogged, List.drop_left]

/-! ## One call -/

theorem attempted_callRecord (line : Line) : Attempted bus (callRecord bus call line) where
  first := by
    rw [attempts_callRecord, tries, List.map_cons]
    exact List.cons_ne_nil _ _
  bounded := by
    have hlen : (tries isFailed bus line.attempts.length (kModbusAttempts + 1)).length ≤
        kModbusAttempts + 1 := Retries.length_tries_le _ _
    rw [attempts_callRecord, List.length_map]
    omega
  sameCall := by
    intro attempt hmem
    rw [attempts_callRecord, List.mem_map] at hmem
    obtain ⟨code, -, rfl⟩ := hmem
    rfl
  codes := by
    intro i attempt hattempt
    rw [attempts_callRecord, List.getElem?_map, Option.map_eq_some_iff] at hattempt
    obtain ⟨code, hcode, rfl⟩ := hattempt
    exact Retries.eq_of_getElem?_tries hcode
  failing := by
    intro pre attempt post hsplit hpost
    rw [attempts_callRecord, List.map_eq_append_iff] at hsplit
    obtain ⟨preCodes, rest, hcodes, -, hrest⟩ := hsplit
    obtain ⟨code, postCodes, rfl, rfl, rfl⟩ := List.map_eq_cons_iff.mp hrest
    exact Retries.failed_of_followed hcodes (by simpa using hpost)
  exhausted := by
    intro hall
    rw [attempts_callRecord] at hall ⊢
    have hfailed : ∀ code ∈ tries isFailed bus line.attempts.length (kModbusAttempts + 1),
        isFailed code = true := fun code hmem => hall _ (List.mem_map_of_mem hmem)
    rw [List.length_map, Retries.length_tries_of_failed hfailed, Nat.add_comm]

/-- **A call is reported rightly exactly when its first attempt fails.** -/
theorem rightlyReported_callRecord_iff (line : Line) :
    RightlyReported (callRecord bus call line) ↔ isFailed (bus line.attempts.length) = true := by
  have hall : (∀ attempt ∈ (callRecord bus call line).attempts, isFailed attempt.2 = true) ↔
      (tries isFailed bus line.attempts.length (kModbusAttempts + 1)).all isFailed = true := by
    rw [attempts_callRecord, List.forall_mem_map, List.all_eq_true]
  rw [RightlyReported, hall]
  cases hattempt : isFailed (bus line.attempts.length) with
  | false =>
    rw [callRecord, logged_of_succeeded hattempt, List.drop_left,
      Retries.tries_of_succeeded kModbusAttempts hattempt]
    simp [hattempt]
  | true =>
    obtain ⟨code, hlogged⟩ := logged_of_failed call hattempt
    rw [callRecord, hlogged, List.drop_left]
    simp

/-! ## A session -/

variable (bus) in
/-- The records of a session are what it added to the line, call by call. -/
theorem session_records (calls : List RegistersWrite) (line : Line) :
    (session bus calls line).attempts =
        line.attempts ++ (callRecords bus calls line).flatMap CallRecord.attempts ∧
      (session bus calls line).logged =
        line.logged ++ (callRecords bus calls line).flatMap CallRecord.logged := by
  induction calls generalizing line with
  | nil => simp [session, callRecords]
  | cons call calls ih =>
    obtain ⟨hattempts, hlogged⟩ := ih (scheduleRegistersWrite bus call line)
    rw [session, List.foldl_cons, ← session, callRecords, List.flatMap_cons, List.flatMap_cons,
      hattempts, hlogged, attempts_scheduleRegistersWrite, logged_scheduleRegistersWrite,
      attempts_callRecord, List.append_assoc, List.append_assoc]
    exact ⟨rfl, rfl⟩

theorem map_call_callRecords (calls : List RegistersWrite) (line : Line) :
    (callRecords bus calls line).map CallRecord.call = calls := by
  induction calls generalizing line with
  | nil => rfl
  | cons call calls ih =>
    rw [callRecords, List.map_cons, ih]
    rfl

/-- What holds of a session's records holds of every call where the session has come to it. -/
theorem forall_callRecords_iff {P : CallRecord → Prop} (calls : List RegistersWrite)
    (line : Line) :
    (∀ r ∈ callRecords bus calls line, P r) ↔
      ∀ pre call post, calls = pre ++ call :: post →
        P (callRecord bus call (session bus pre line)) := by
  induction calls generalizing line with
  | nil => simp [callRecords]
  | cons call calls ih =>
    rw [callRecords, List.forall_mem_cons, ih]
    constructor
    · intro h pre call' post hsplit
      cases pre with
      | nil =>
        obtain ⟨rfl, -⟩ := List.cons.inj hsplit
        exact h.1
      | cons _ pre =>
        obtain ⟨rfl, hrest⟩ := List.cons.inj hsplit
        exact h.2 pre call' post hrest
    · intro h
      refine ⟨h [] call calls rfl, fun pre call' post hsplit => ?_⟩
      exact h (call :: pre) call' post (by rw [hsplit]; rfl)

/-- **Every call of a session makes the attempts of a retried operation, and the reports are right
exactly when every call fails at its first attempt.** -/
theorem session_reports_iff (bus : ℕ → ℤ) (calls : List RegistersWrite) (line : Line) :
    (callRecords bus calls line).map CallRecord.call = calls ∧
      (session bus calls line).attempts =
        line.attempts ++ (callRecords bus calls line).flatMap CallRecord.attempts ∧
      (session bus calls line).logged =
        line.logged ++ (callRecords bus calls line).flatMap CallRecord.logged ∧
      (∀ r ∈ callRecords bus calls line, Attempted bus r) ∧
      ((∀ r ∈ callRecords bus calls line, RightlyReported r) ↔
        FirstAttemptsFail bus calls line) := by
  obtain ⟨hattempts, hlogged⟩ := session_records bus calls line
  refine ⟨map_call_callRecords calls line, hattempts, hlogged, ?_, ?_⟩
  · rw [forall_callRecords_iff]
    intro pre call post _
    exact attempted_callRecord (session bus pre line)
  · simp only [forall_callRecords_iff, rightlyReported_callRecord_iff, FirstAttemptsFail]

/-- The bus takes the first attempt of the only call, and an error is reported. -/
theorem not_rightlyReported_success :
    let bus : ℕ → ℤ := fun _ => 1
    let call : RegistersWrite := ⟨kTargetTemperatureAddr, [0]⟩
    let line : Line := ⟨[], fun _ => 183, []⟩
    (session bus [call] line).attempts = [(call, 1)] ∧
      (session bus [call] line).registers kTargetTemperatureAddr = 0 ∧
      (session bus [call] line).logged = [1] ∧
      ¬ ∀ r ∈ callRecords bus [call] line, RightlyReported r := by
  intro bus call line
  refine ⟨by decide, by decide, by decide, fun hall => ?_⟩
  have hreported := hall (callRecord bus call line) List.mem_cons_self
  have hlogged : (callRecord bus call line).logged ≠ [] := by decide
  have hfailed := hreported.mp hlogged (call, 1) (by decide)
  cases hfailed

end ModbusRequestsProxy

end ReflowTable

import ReflowTable.Operations

/-!
# The regulator parameters on their way through the device

`setRegulatorParams` writes `k` to `kFactorAddr` and the hysteresis to the register after it,
`kHysteresisAddr`. `requestModbusData` reads the same two registers by their positions 2 and 3
behind `kSurroundingTempAddr`, but takes the first of them for the hysteresis. Through a device
that returns what was stored the two parameters come back exchanged.
-/

namespace ReflowTable

open ReflowProcessController

/-- The reading of a device with these register contents. -/
def Registers.reading (registers : Registers) : ModbusReading :=
  registers.read kSurroundingTempAddr kModbusRegistersCount

/-- What `requestModbusData` stores for the regulator, register by register. -/
theorem regulator_decodeReading (registers : Registers) :
    (decodeReading registers.reading).regulator =
      ⟨(registers kHysteresisAddr).toNat, (registers kFactorAddr).toUInt32⟩ := by
  have hfactor : kSurroundingTempAddr + UInt16.ofNat 2 = kFactorAddr := by decide
  have hhysteresis : kSurroundingTempAddr + UInt16.ofNat 3 = kHysteresisAddr := by decide
  simp [decodeReading, Registers.reading, Registers.read, Vector.getElem_ofFn, ← hfactor,
    ← hhysteresis]

/-- What `setRegulatorParams` writes, register by register. -/
theorem wordAt_regulator (k hysteresis : UInt16) :
    (RegistersWrite.mk kFactorAddr [k, hysteresis]).wordAt kFactorAddr = some k ∧
      (RegistersWrite.mk kFactorAddr [k, hysteresis]).wordAt kHysteresisAddr =
        some hysteresis := by
  have hnext : kHysteresisAddr - kFactorAddr = 1 := by decide
  simp [RegistersWrite.wordAt, hnext]

namespace ReflowProcessController

variable {tc : Toolchain} {holder : PresetsHolder} {s c : ReflowProcessController}

/-- The writes made since `s`. -/
def writesSince (s c : ReflowProcessController) : List RegistersWrite :=
  (writes c.trace).drop (writes s.trace).length

/-- The commands other than `SetRegulatorParams` write the target register at most. -/
theorem wordsAt_handleOperation {command : CommandVariant}
    (hcommand : ∀ params, command ≠ .setRegulatorParams params) {addr : UInt16}
    (haddr : addr ≠ kTargetTemperatureAddr) (s : ReflowProcessController) :
    wordsAt addr (writes (handleOperation tc holder command s).state.trace) =
      wordsAt addr (writes s.trace) := by
  rcases trace_handleOperation tc holder hcommand s with htrace | htrace
  · rw [htrace]
  · simp [htrace, wordAt_single, haddr]

variable (tc holder) in
theorem wordsAt_sweep {queue : List CommandVariant}
    (hqueue : ∀ params, .setRegulatorParams params ∉ queue) {addr : UInt16}
    (haddr : addr ≠ kTargetTemperatureAddr) (s : ReflowProcessController) :
    wordsAt addr (writes (Outcome.sweep (handleOperation tc holder) queue s).state.trace) =
      wordsAt addr (writes s.trace) := by
  refine Outcome.sweep_keeps (I := fun c => wordsAt addr (writes c.trace) =
    wordsAt addr (writes s.trace)) queue (fun command hmem c hc => ?_) s rfl
  show wordsAt addr (writes (handleOperation tc holder command c).state.trace) = _
  rw [wordsAt_handleOperation (fun params heq => hqueue params (heq ▸ hmem)) haddr, hc]

theorem wordsAt_writesSince (h : s.trace <+: c.trace) (addr : UInt16) :
    wordsAt addr (writes c.trace) =
      wordsAt addr (writes s.trace) ++ wordsAt addr (writesSince s c) := by
  obtain ⟨u, hu⟩ := h
  rw [writesSince, ← hu, writes_append, List.drop_left, wordsAt_append]

/-- The last words written by a dispatch loop whose last `SetRegulatorParams` is this one. -/
theorem wordsAt_dispatch {k hysteresis : UInt16} {pre post : List CommandVariant}
    (hqueue : s.requestsQueue =
      pre ++ .setRegulatorParams ⟨k.toNat, hysteresis.toUInt32⟩ :: post)
    (hpost : ∀ params, .setRegulatorParams params ∉ post)
    (hdispatch : s.dispatchCommandsQueue tc holder = .done c) :
    (wordsAt kFactorAddr (writesSince s c)).getLast? = some k ∧
      (wordsAt kHysteresisAddr (writesSince s c)).getLast? = some hysteresis := by
  rw [dispatchCommandsQueue, hqueue, Outcome.sweep_append] at hdispatch
  cases hpre : Outcome.sweep (handleOperation tc holder) pre s with
  | raised e c₁ => rw [hpre] at hdispatch; cases hdispatch
  | done c₁ =>
    -- `c₁` meets the command, `c₂` is after it
    let c₂ := setRegulatorParams tc ⟨k.toNat, hysteresis.toUInt32⟩
      { c₁ with requestsQueue := c₁.requestsQueue.tail }
    have hsweep : Outcome.sweep (handleOperation tc holder) post c₂ = .done c := by
      rw [hpre] at hdispatch
      exact hdispatch
    have hprefix₁ : s.trace <+: c₁.trace := by
      have hprefix := trace_prefix_sweep tc holder pre s
      rwa [hpre] at hprefix
    have hprefix : s.trace <+: c.trace := by
      have hprefix₂ := trace_prefix_sweep tc holder post c₂
      rw [hsweep] at hprefix₂
      exact (hprefix₁.trans (List.prefix_append _ _)).trans hprefix₂
    have hlast : ∀ {addr word}, addr ≠ kTargetTemperatureAddr →
        (RegistersWrite.mk kFactorAddr [k, hysteresis]).wordAt addr = some word →
        (wordsAt addr (writesSince s c)).getLast? = some word := by
      intro addr word haddr hword
      have hpost_words := wordsAt_sweep tc holder hpost haddr c₂
      rw [hsweep] at hpost_words
      have hset : wordsAt addr (writes c₂.trace) = wordsAt addr (writes c₁.trace) ++ [word] := by
        simp [c₂, setRegulatorParams, Toolchain.toUInt16_toNat, hword]
      have hsplit : wordsAt addr (writesSince s c) =
          wordsAt addr (writesSince s c₁) ++ [word] := by
        have heq := wordsAt_writesSince hprefix addr
        rw [Outcome.state_done] at hpost_words
        rw [hpost_words, hset, wordsAt_writesSince hprefix₁ addr, List.append_assoc] at heq
        exact (List.append_cancel_left heq).symm
      rw [hsplit, List.getLast?_concat]
    exact ⟨hlast (by decide) (wordAt_regulator k hysteresis).1,
      hlast (by decide) (wordAt_regulator k hysteresis).2⟩

/-- **The parameters come back as they were set exactly when they are equal.** The device held
any contents, stored what the tick's commands wrote, and answered the tick's read. -/
theorem getRegulatorParams_runnable_iff {k hysteresis : UInt16}
    {pre post : List CommandVariant}
    (hqueue : s.requestsQueue =
      pre ++ .setRegulatorParams ⟨k.toNat, hysteresis.toUInt32⟩ :: post)
    (hpost : ∀ params, .setRegulatorParams params ∉ post)
    (hdispatch : s.dispatchCommandsQueue tc holder = .done c) (registers : Registers)
    {input : TickInput}
    (hread : input.reading = some (registers.storeAll (writesSince s c)).reading) :
    (s.runnable tc holder input).state.getRegulatorParams = ⟨k.toNat, hysteresis.toUInt32⟩ ↔
      k = hysteresis := by
  obtain ⟨hfactor, hhysteresis⟩ := wordsAt_dispatch hqueue hpost hdispatch
  have hregulator : (s.runnable tc holder input).state.getRegulatorParams =
      ⟨hysteresis.toNat, k.toUInt32⟩ := by
    have hkeeps := (process_follows holder input.freed).keeps
      (I := fun c' => c'.lastModbusData = (c.requestModbusData input.reading).lastModbusData)
      (fun _ _ hstep hdata => hstep.lastModbusData_eq.trans hdata)
      (c.requestModbusData input.reading) rfl
    rw [runnable, hdispatch, Outcome.bind_done, getRegulatorParams, hkeeps, hread]
    show (decodeReading (registers.storeAll (writesSince s c)).reading).regulator = _
    rw [regulator_decodeReading, Registers.storeAll_apply, Registers.storeAll_apply, hfactor,
      hhysteresis]
    rfl
  rw [hregulator, RegulatorParams.mk.injEq]
  constructor
  · rintro ⟨heq, -⟩
    exact (UInt16.toNat_inj.mp (by exact_mod_cast heq)).symm
  · rintro rfl
    exact ⟨rfl, rfl⟩

/-- Equal parameters through a device whose registers were all `0`. -/
theorem getRegulatorParams_runnable_iff_five :
    let s := (make 0).postCommand (.setRegulatorParams ⟨(5 : UInt16).toNat, (5 : UInt16).toUInt32⟩)
    let c := (s.dispatchCommandsQueue .sample .make).state
    let registers : Registers := fun _ => 0
    let input : TickInput := ⟨some (registers.storeAll (writesSince s c)).reading, ⟨0, 0⟩⟩
    (s.runnable .sample .make input).state.getRegulatorParams =
      ⟨(5 : UInt16).toNat, (5 : UInt16).toUInt32⟩ ↔ (5 : UInt16) = 5 :=
  getRegulatorParams_runnable_iff (show _ = [] ++ _ :: [] from rfl) (by simp) rfl _ rfl

/-- `k = 5` and a hysteresis of `7` come back as `k = 7` and a hysteresis of `5`. -/
theorem getRegulatorParams_exchanged :
    let s := (Server.operations .sample).run Server.make
      [.postCommand (.setRegulatorParams ⟨5, 7⟩)]
    let c := (s.reflowController.dispatchCommandsQueue .sample s.presetsHolder).state
    let registers : Registers := fun _ => 0
    let input : TickInput :=
      ⟨some (registers.storeAll (writesSince s.reflowController c)).reading, ⟨0, 0⟩⟩
    (Server.operations .sample).Reachable s ∧ s.reflowController.isRunning = false ∧
      (s.tick .sample input).reflowController.getRegulatorParams = ⟨7, 5⟩ ∧
      (s.tick .sample input).reflowController.getRegulatorParams ≠ ⟨5, 7⟩ :=
  ⟨Server.reachable_run _ _, by decide, by decide +kernel, by decide +kernel⟩

end ReflowProcessController

end ReflowTable

import Mathlib.Algebra.BigOperators.Fin
import ReflowTable.Installation
import ReflowTable.PreheatBand
import ReflowTable.RunEnds

/-!
# A recipe in the closed loop

A started run whose device does what it is told: once its target register has held a temperature
for some seconds, it has measured one in the band around it. Then every stage is entered, soaked
and left, and in the end the device is off (`Installation.recipe_completes`). The controller takes
its band from the register behind the table temperature, and the device is asked for no more than
that.
-/

namespace ReflowTable

open ReflowProcessController
open ModbusRequestsProxy (Patient isFailed readRegisters)

namespace ReflowProcessController

variable {tc : Toolchain} {holder : PresetsHolder} {c : ReflowProcessController}

/-- The process step writes the target register at most. -/
theorem wordsAt_process (freed : StageItem) {addr : UInt16} (haddr : addr ≠ kTargetTemperatureAddr)
    (c : ReflowProcessController) :
    wordsAt addr (writes ((c.processReflowStep holder freed).bind fun c =>
      .done c.advanceSysTick).state.trace) = wordsAt addr (writes c.trace) := by
  refine (process_follows holder freed).keeps
    (I := fun c' => wordsAt addr (writes c'.trace) = wordsAt addr (writes c.trace))
    (fun c₁ c₂ hstep hc => ?_) c rfl
  cases hstep with
  | enter => simpa [wordAt_single, haddr] using hc
  | finish => simpa [ended, wordAt_single, haddr] using hc
  | _ => exact hc

/-- A tick that meets no `SetRegulatorParams` writes the target register at most. -/
theorem wordsAt_runnable (hqueue : ∀ params, .setRegulatorParams params ∉ c.requestsQueue)
    {addr : UInt16} (haddr : addr ≠ kTargetTemperatureAddr) (input : TickInput) :
    wordsAt addr (writes (c.runnable tc holder input).state.trace) =
      wordsAt addr (writes c.trace) := by
  have hdispatch := wordsAt_sweep tc holder hqueue haddr c
  rw [← dispatchCommandsQueue] at hdispatch
  rw [runnable]
  cases hdone : c.dispatchCommandsQueue tc holder with
  | raised e c₁ =>
    rw [hdone] at hdispatch
    exact hdispatch
  | done c₁ =>
    rw [hdone, Outcome.state_done] at hdispatch
    rw [Outcome.bind_done, wordsAt_process input.freed haddr,
      Installation.trace_requestModbusData, hdispatch]

end ReflowProcessController

namespace Installation

/-- What a second brings: a measurement, and a tick. -/
structure Second where
  surrounding : UInt16
  table : UInt16
  errCode : ℤ
  freed : StageItem

/-- The installation after `t` seconds without requests. -/
def afterSeconds (tc : Toolchain) (bus : ℕ → ℤ) (seconds : ℕ → Second) (n : Installation) :
    ℕ → Installation
  | 0 => n
  | t + 1 => ((afterSeconds tc bus seconds n t).measure (seconds t).surrounding
      (seconds t).table).tick tc bus (seconds t).errCode (seconds t).freed

/-- The inputs its server gets. -/
def inputsOf (tc : Toolchain) (bus : ℕ → ℤ) (seconds : ℕ → Second) (n : Installation) (t : ℕ) :
    TickInput :=
  ⟨((afterSeconds tc bus seconds n t).measure (seconds t).surrounding
    (seconds t).table).nextReading tc bus (seconds t).errCode, (seconds t).freed⟩

variable {lib : Libraries} {tc : Toolchain} {bus : ℕ → ℤ} {registers : Registers}
  {seconds : ℕ → Second} {n : Installation} {ptr : PresetPtr} {patience : ℕ}

theorem server_afterSeconds (t : ℕ) : (afterSeconds tc bus seconds n t).server =
    Server.afterTicks tc (inputsOf tc bus seconds n) n.server t := by
  induction t with
  | zero => rfl
  | succ t ih =>
    rw [Server.afterTicks_succ, ← ih]
    exact server_tick _ _ _

theorem reachable_afterSeconds (hn : (installations lib bus registers).Reachable n) (t : ℕ) :
    (installations lib bus registers).Reachable
      (afterSeconds lib.toToolchain bus seconds n t) := by
  induction t with
  | zero => exact hn
  | succ t ih =>
    exact .step (i := .tick _ _) (.step (i := .measure _ _) ih trivial) trivial

/-- Whenever the target register has held a temperature for `patience` seconds, one of their reads
got through and found the table in the band around it. -/
def Settles (tc : Toolchain) (bus : ℕ → ℤ) (seconds : ℕ → Second) (n : Installation)
    (band patience : ℕ) : Prop :=
  ∀ (t : ℕ) (word : UInt16), word ≠ 0 →
    (∀ d < patience,
      (afterSeconds tc bus seconds n (t + d)).line.registers kTargetTemperatureAddr = word) →
    ∃ d < patience, isFailed (seconds (t + d)).errCode = false ∧
      word.toNat ≤ (seconds (t + d)).table.toNat + band ∧
      (seconds (t + d)).table.toNat ≤ word.toNat + band

/-- The band the controller reads. -/
def band (n : Installation) : ℕ := (n.line.registers kFactorAddr).toNat

/-- A stage the device can be told: its temperature fits the target register, and the band around
it does not reach below `0`. -/
def Attainable (n : Installation) (item : StageItem) : Prop :=
  item.temperatureStep.toNat < 2 ^ 16 ∧
    (item.temperatureStep = 0 ∨ n.band ≤ item.temperatureStep.toNat)

/-! ## What the controller reads -/

/-- Nothing is posted, so after the first tick the queue stays empty. -/
theorem requestsQueue_afterSeconds (hs : Server.Starting tc n.server ptr) (t : ℕ) :
    (afterSeconds tc bus seconds n (t + 1)).controller.requestsQueue = [] := by
  have hsim := (hs.simulates (inputsOf tc bus seconds n) t).1
  rw [controller, server_afterSeconds]
  cases hsim with
  | running hqueue => exact hqueue
  | finished hqueue => exact hqueue

/-- With nothing to dispatch the read finds the registers as they are. -/
theorem nextReading_of_queue_nil (hqueue : n.controller.requestsQueue = []) (errCode : ℤ) :
    n.nextReading tc bus errCode =
      if isFailed errCode then none
      else some (n.line.registers.read kSurroundingTempAddr kModbusRegistersCount) := by
  have hdispatch : (n.controller.dispatchCommandsQueue tc n.server.presetsHolder).state =
      n.controller := by
    rw [dispatchCommandsQueue, hqueue]
    rfl
  have hline : transmit bus n.controller n.controller n.line = n.line := by
    rw [transmit, writesSince, List.drop_length]
    rfl
  rw [nextReading, hdispatch, hline, readRegisters]
  split_ifs <;> rfl

/-- Nothing sets the regulator, so its registers stay. -/
theorem factor_afterSeconds (hbus : Patient bus)
    (hn : (installations lib bus registers).Reachable n)
    (hs : Server.Starting lib.toToolchain n.server ptr) (t : ℕ) :
    (afterSeconds lib.toToolchain bus seconds n t).line.registers kFactorAddr =
      n.line.registers kFactorAddr := by
  have hwords : ∀ t, wordsAt kFactorAddr
      (writes (afterSeconds lib.toToolchain bus seconds n t).controller.trace) =
        wordsAt kFactorAddr (writes n.controller.trace) := by
    intro t
    induction t with
    | zero => rfl
    | succ t ih =>
      have hqueue : ∀ params, .setRegulatorParams params ∉
          (afterSeconds lib.toToolchain bus seconds n t).controller.requestsQueue := by
        cases t with
        | zero =>
          show ∀ params, _ ∉ n.server.reflowController.requestsQueue
          simp [hs.queue]
        | succ t => simp [requestsQueue_afterSeconds hs t]
      rw [controller, server_afterSeconds, Server.afterTicks_succ, ← server_afterSeconds]
      exact (wordsAt_runnable hqueue (by decide) _).trans ih
  have hheld : ∀ {m : Installation}, (installations lib bus registers).Reachable m →
      m.line.registers kFactorAddr =
        (wordsAt kFactorAddr (writes m.controller.trace)).getLast?.getD
          (registers kFactorAddr) := by
    intro m hm
    rw [(wired_of_reachable hm).stored _ (by decide) (by decide), delivered_of_patient hbus,
      Registers.storeAll_apply]
  rw [hheld (reachable_afterSeconds hn t), hwords t, ← hheld hn]

/-- What is known after a read that got through. -/
theorem exists_latestData (hbus : Patient bus)
    (hn : (installations lib bus registers).Reachable n)
    (hs : Server.Starting lib.toToolchain n.server ptr) (data : LastModbusData) {t : ℕ}
    (hread : isFailed (seconds (t + 1)).errCode = false) :
    ∃ words : ModbusReading,
      latestData data (inputsOf lib.toToolchain bus seconds n) (t + 2) = decodeReading words ∧
        words[1] = (seconds (t + 1)).table ∧ words[2] = n.line.registers kFactorAddr := by
  let m := (afterSeconds lib.toToolchain bus seconds n (t + 1)).measure
    (seconds (t + 1)).surrounding (seconds (t + 1)).table
  have hreading : (inputsOf lib.toToolchain bus seconds n (t + 1)).reading =
      some (m.line.registers.read kSurroundingTempAddr kModbusRegistersCount) := by
    have hqueue : m.controller.requestsQueue = [] := requestsQueue_afterSeconds hs t
    show m.nextReading lib.toToolchain bus _ = _
    rw [nextReading_of_queue_nil hqueue, hread, if_neg Bool.false_ne_true]
  refine ⟨m.line.registers.read kSurroundingTempAddr kModbusRegistersCount, ?_, ?_, ?_⟩
  · show latestData data _ (t + 1 + 1) = _
    rw [latestData, hreading]
  · exact (show _ = m.line.registers kThermocoupleAddr by simp [Registers.read]; rfl).trans
      (table_measure _ _)
  · have hfactor : m.line.registers kFactorAddr = n.line.registers kFactorAddr :=
      (registers_measure _ _ (by decide) (by decide)).trans
        (factor_afterSeconds hbus hn hs (t + 1))
    rw [← hfactor]
    simp [Registers.read]
    rfl

/-! ## Every stage is answered -/

/-- The word of a stage that fits the register. -/
theorem toNat_word {item : StageItem} (hitem : n.Attainable item) :
    (UInt16.ofNat item.temperatureStep.toNat).toNat = item.temperatureStep.toNat :=
  UInt16.toNat_ofNat_of_lt' hitem.1

/-- A table found in the band is no reason to wait. -/
theorem profileVerdict_ne_wait {item : StageItem} (hitem : n.Attainable item)
    (hne : item.temperatureStep ≠ 0) {words : ModbusReading}
    (hfactor : words[2] = n.line.registers kFactorAddr)
    (hlow : item.temperatureStep.toNat ≤ words[1].toNat + n.band)
    (hhigh : words[1].toNat ≤ item.temperatureStep.toNat + n.band) :
    profileVerdict item (decodeReading words) ≠ .wait := by
  have hband : words[2].toNat ≤ item.temperatureStep.toNat := by
    rw [hfactor]
    exact hitem.2.resolve_left hne
  have hin : InBand item.temperatureStep words := by
    rw [inBand_iff, hfactor]
    rw [band] at hlow hhigh
    omega
  have hcan := (canCompletePreheatStage_iff item.temperatureStep words).mpr ⟨hband, hin⟩
  unfold profileVerdict
  split_ifs <;> simp

/-- The device is patient for a second at least. -/
theorem Settles.patience_pos {band : ℕ} (hsettles : Settles tc bus seconds n band patience) :
    0 < patience := by
  rcases Nat.eq_zero_or_pos patience with hnone | hpos
  · obtain ⟨d, hd, -⟩ := hsettles 0 1 (by decide) (by simp [hnone])
    exact (Nat.zero_le d).trans_lt hd
  · exact hpos

/-- While a stage is the last one begun, the target register holds its temperature. -/
theorem target_of_begun (hbus : Patient bus) (hn : (installations lib bus registers).Reachable n)
    (hs : Server.Starting lib.toToolchain n.server ptr) {item : StageItem} {i t : ℕ}
    (hget : (n.server.presetsHolder.objects ptr).presetItems.items[i]? = some item)
    (hbegun : ((List.range (t + 1)).filterMap (n.server.walkOf ptr
      (inputsOf lib.toToolchain bus seconds n)).event).getLast? = some (.begin i)) :
    (afterSeconds lib.toToolchain bus seconds n (t + 1)).line.registers kTargetTemperatureAddr =
      .ofNat item.temperatureStep.toNat := by
  rw [target_of_patient hbus (reachable_afterSeconds hn _), controller, server_afterSeconds,
    hs.getLast?_targetWords hbegun, profileWord, hget]
  rfl

/-- **Step lemma.** A stage that has begun is skipped or soaked within the patience. -/
theorem exists_verdict (hbus : Patient bus) (hn : (installations lib bus registers).Reachable n)
    (hs : Server.Starting lib.toToolchain n.server ptr)
    (hattainable : ∀ item ∈ (n.server.presetsHolder.objects ptr).presetItems.items,
      n.Attainable item)
    (hsettles : Settles lib.toToolchain bus seconds n n.band patience) {i b : ℕ}
    (hi : i < (n.server.walkOf ptr (inputsOf lib.toToolchain bus seconds n)).stages)
    (hb : (n.server.walkOf ptr (inputsOf lib.toToolchain bus seconds n)).BeginsAt i b) :
    ∃ t, b < t ∧ t ≤ b + patience ∧
      (n.server.walkOf ptr (inputsOf lib.toToolchain bus seconds n)).verdict i t ≠ .wait := by
  have hlt : i < (n.server.presetsHolder.objects ptr).presetItems.items.length := hi
  let item := (n.server.presetsHolder.objects ptr).presetItems.items[i]
  have hget : (n.server.presetsHolder.objects ptr).presetItems.items[i]? = some item :=
    List.getElem?_eq_getElem hlt
  have hitem : n.Attainable item := hattainable item (List.getElem_mem hlt)
  have hverdict : ∀ t, (n.server.walkOf ptr (inputsOf lib.toToolchain bus seconds n)).verdict i t =
      profileVerdict item (latestData n.server.reflowController.lastModbusData
        (inputsOf lib.toToolchain bus seconds n) (t + 1)) := fun t => verdict_eq rfl hget
  refine StagedWalk.exists_verdict_of_seen hb hi fun hseen => ?_
  by_cases hzero : item.temperatureStep = 0
  · -- a stage at 0 degrees is skipped at once
    refine ⟨0, hsettles.patience_pos, ?_⟩
    rw [hverdict, profileVerdict, if_pos (.inl hzero)]
    decide
  · have hword : UInt16.ofNat item.temperatureStep.toNat ≠ 0 := by
      intro heq
      have hnat := congrArg UInt16.toNat heq
      rw [toNat_word hitem] at hnat
      exact hzero (UInt32.toNat_inj.mp hnat)
    obtain ⟨d, hd, hread, hlow, hhigh⟩ := hsettles (b + 1) _ hword fun d hd => by
      rw [Nat.add_right_comm]
      exact target_of_begun hbus hn hs hget (hseen d hd)
    rw [Nat.add_right_comm] at hread hlow hhigh
    rw [toNat_word hitem] at hlow hhigh
    obtain ⟨words, hknown, htable, hfactor⟩ := exists_latestData hbus hn hs
      n.server.reflowController.lastModbusData hread
    refine ⟨d, hd, ?_⟩
    rw [hverdict, hknown]
    exact profileVerdict_ne_wait hitem hzero hfactor (htable ▸ hlow) (htable ▸ hhigh)

/-- The time the walk takes, over the stages of the recipe. -/
theorem sum_dwell (s : Server) (ptr : PresetPtr) (inputs : ℕ → TickInput) (patience : ℕ) :
    ∑ i ∈ Finset.range (s.walkOf ptr inputs).stages,
        (patience + (s.walkOf ptr inputs).dwell i + 2) =
      ((s.presetsHolder.objects ptr).presetItems.items.map fun item =>
        patience + max 1 item.stageDuration.toNat + 2).sum := by
  have hdwell : ∀ i (hi : i < (s.presetsHolder.objects ptr).presetItems.items.length),
      (s.walkOf ptr inputs).dwell i =
        max 1 (s.presetsHolder.objects ptr).presetItems.items[i].stageDuration.toNat :=
    fun i hi => dwell_eq rfl (List.getElem?_eq_getElem hi)
  show ∑ i ∈ Finset.range (s.presetsHolder.objects ptr).presetItems.items.length, _ = _
  rw [Finset.sum_range, ← Fin.sum_univ_fun_getElem]
  exact Finset.sum_congr rfl fun i _ => by rw [hdwell i i.isLt]

/-- **A recipe is completed.** A selected recipe is started, on a bus on which no write fails in
all of its attempts, and with a device that settles in the controller's band within `patience`
seconds. After that patience, the duration and two seconds for every stage the run is over, the
device is off, and every temperature of the recipe has been asked for, in order. -/
theorem recipe_completes (hbus : Patient bus)
    (hn : (installations lib bus registers).Reachable n)
    (hs : Server.Starting lib.toToolchain n.server ptr)
    (hattainable : ∀ item ∈ (n.server.presetsHolder.objects ptr).presetItems.items,
      n.Attainable item)
    (hsettles : Settles lib.toToolchain bus seconds n n.band patience) {t : ℕ}
    (ht : ((n.server.presetsHolder.objects ptr).presetItems.items.map fun item =>
      patience + max 1 item.stageDuration.toNat + 2).sum ≤ t + 1) :
    let m := afterSeconds lib.toToolchain bus seconds n (t + 1)
    m.controller.isRunning = false ∧ m.line.registers kTargetTemperatureAddr = 0 ∧
      targetWords m.controller.trace = targetWords n.controller.trace ++
        ((n.server.presetsHolder.objects ptr).presetItems.items.map fun item =>
          .ofNat item.temperatureStep.toNat) ++ [0] := by
  intro m
  obtain ⟨e, he, hle⟩ := StagedWalk.over_within
    fun i (hi : i < (n.server.walkOf ptr (inputsOf lib.toToolchain bus seconds n)).stages) b hb =>
      exists_verdict hbus hn hs hattainable hsettles hi hb
  rw [sum_dwell] at hle
  obtain ⟨hidle, hwords⟩ := hs.finished he (hle.trans ht)
  rw [← server_afterSeconds] at hidle hwords
  refine ⟨hidle, ?_, hwords⟩
  rw [target_of_patient hbus (reachable_afterSeconds hn _), controller, hwords,
    List.getLast?_concat]
  rfl

/-! ## A device that follows at once -/

/-- The installation after `t` seconds whose device measures what it was told. -/
def following (tc : Toolchain) (bus : ℕ → ℤ) (n : Installation) : ℕ → Installation
  | 0 => n
  | t + 1 => ((following tc bus n t).measure 20
      ((following tc bus n t).line.registers kTargetTemperatureAddr)).tick tc bus 1 ⟨0, 0⟩

def followingSeconds (tc : Toolchain) (bus : ℕ → ℤ) (n : Installation) (t : ℕ) : Second :=
  ⟨20, (following tc bus n t).line.registers kTargetTemperatureAddr, 1, ⟨0, 0⟩⟩

theorem afterSeconds_following (t : ℕ) :
    afterSeconds tc bus (followingSeconds tc bus n) n t = following tc bus n t := by
  induction t with
  | zero => rfl
  | succ t ih =>
    rw [afterSeconds, ih]
    rfl

/-- It settles in any band, within a second. -/
theorem settles_following (band : ℕ) : Settles tc bus (followingSeconds tc bus n) n band 1 := by
  intro t word _ hheld
  have htable : (followingSeconds tc bus n t).table = word := by
    rw [← hheld 0 Nat.zero_lt_one, Nat.add_zero, afterSeconds_following]
    rfl
  refine ⟨0, Nat.zero_lt_one, rfl, ?_, ?_⟩
  · rw [Nat.add_zero, htable]
    exact Nat.le_add_right _ _
  · rw [Nat.add_zero, htable]
    exact Nat.le_add_right _ _

/-- A preset is created, filled and selected, and the start is posted. -/
def startedSession : List Event :=
  [.request (.createPreset (asciiBytes Server.createText)),
    .request (.updatePreset "4" (asciiBytes Server.stagesText)),
    .request (.pushCommand (asciiBytes Server.selectText)), .tick 1 ⟨0, 0⟩,
    .request (.pushCommand (asciiBytes Server.startText))]

def startedInstallation : Installation :=
  (installations Server.sessionLibraries stubbornBus fun _ => 0).run (make fun _ => 0)
    startedSession

theorem reachable_startedInstallation :
    (installations Server.sessionLibraries stubbornBus fun _ => 0).Reachable
      startedInstallation := reachable_run _ _ _ startedSession

/-- Where that leads. -/
theorem startedInstallation_state :
    startedInstallation.controller.isRunning = false ∧
      startedInstallation.controller.requestsQueue = [.startReflow] ∧
      startedInstallation.controller.activePreset = some 0 ∧
      (startedInstallation.server.presetsHolder.objects 0).presetItems.items = [⟨183, 30⟩] ∧
      targetWords startedInstallation.controller.trace = [] ∧ startedInstallation.band = 0 := by
  decide +kernel

theorem starting_startedInstallation :
    Server.Starting Server.sessionLibraries.toToolchain startedInstallation.server 0 where
  reachable := reachable_server reachable_startedInstallation
  idle := startedInstallation_state.1
  queue := startedInstallation_state.2.1
  active := startedInstallation_state.2.2.1
  stages := by
    rw [Preset.numStages_eq, startedInstallation_state.2.2.2.1]
    decide

/-- A second of patience, 30 s, and two seconds. -/
theorem recipe_completes_startedInstallation :
    let m := afterSeconds Server.sessionLibraries.toToolchain stubbornBus
      (followingSeconds Server.sessionLibraries.toToolchain stubbornBus startedInstallation)
      startedInstallation (32 + 1)
    m.controller.isRunning = false ∧ m.line.registers kTargetTemperatureAddr = 0 ∧
      targetWords m.controller.trace = [183, 0] := by
  obtain ⟨-, -, -, hitems, hwords, hband⟩ := startedInstallation_state
  obtain ⟨hidle, hoff, htargets⟩ := recipe_completes patient_stubbornBus
    reachable_startedInstallation starting_startedInstallation
    (by simp [hitems, Attainable, hband]) (settles_following _) (t := 32) (by simp [hitems])
  rw [hwords, hitems] at htargets
  exact ⟨hidle, hoff, htargets⟩

end Installation

end ReflowTable

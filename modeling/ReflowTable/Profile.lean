import ReflowTable.Lib.StagedWalk
import ReflowTable.RunInvariant

/-!
# A run refines its profile

A preset is meant as a profile: heat to the first temperature, hold it for the first duration,
go on to the second stage. `profileWalk` says so without the controller's machinery, as a walk
through the stages under the stream of register data; the controller's target writes, its
running flag and its soaking phases are those of the walk (`Server.run_refines_profile`).
-/

namespace ReflowTable

open ReflowProcessController

/-! ## The profile -/

/-- The verdict of the register data on a stage. The band is the controller's own test. -/
def profileVerdict (item : StageItem) (data : LastModbusData) : Verdict :=
  if item.temperatureStep = 0 ∨
      (item.temperatureStep.toNat : ℤ) ≤ data.surroundingTemperature.toInt then .skip
  else if canCompletePreheatStage item.temperatureStep data then .soak
  else .wait

/-- The register data known before tick `t`: a missing reading keeps the previous data. -/
def latestData (data : LastModbusData) (inputs : ℕ → TickInput) : ℕ → LastModbusData
  | 0 => data
  | t + 1 =>
    match (inputs t).reading with
    | none => latestData data inputs t
    | some words => decodeReading words

/-- The walk through a stage list. A stage soaks for its duration, but for one tick at least. -/
def profileWalk (items : List StageItem) (latest : ℕ → LastModbusData) : StagedWalk where
  stages := items.length
  verdict i t :=
    match items[i]? with
    | none => .wait
    | some item => profileVerdict item (latest (t + 1))
  dwell i :=
    match items[i]? with
    | none => 1
    | some item => max 1 item.stageDuration.toNat

/-- The target word that goes with an event of the walk. -/
def profileWord (items : List StageItem) : StagedWalk.Event → UInt16
  | .begin i =>
    match items[i]? with
    | none => 0
    | some item => .ofNat item.temperatureStep.toNat
  | .finish => 0

/-! ## The surrounding temperature

It is stored as `std::int32_t` and compared as `std::uint32_t`. It never is negative, so the
comparison is that of the numbers. -/

theorem surroundingTemperature_decodeReading_nonneg (words : ModbusReading) :
    0 ≤ (decodeReading words).surroundingTemperature.toInt := by
  have hlt : words[0].toNat < 2 ^ 16 := words[0].toNat_lt
  have heq : (decodeReading words).surroundingTemperature.toInt = words[0].toNat := by
    show words[0].toUInt32.toInt32.toInt = _
    rw [← Int32.toInt_toBitVec, BitVec.toInt_eq_toNat_of_lt]
    · simp
    · simp
      omega
  omega

theorem surroundingTemperature_nonneg {tc : Toolchain} {s : Server}
    (hs : (Server.operations tc).Reachable s) :
    0 ≤ s.reflowController.lastModbusData.surroundingTemperature.toInt := by
  refine Server.reachable_invariant
    (I := fun _ c => 0 ≤ c.lastModbusData.surroundingTemperature.toInt)
    (fun _ => Int.le_refl 0) (fun _ _ _ _ h => h) (fun _ _ _ h => h) ?_ hs
  intro h freed c c' hstep hdata
  cases hstep with
  | command hcommand => cases hcommand <;> exact hdata
  | read words => exact surroundingTemperature_decodeReading_nonneg words
  | process hprocess =>
    rw [hprocess.lastModbusData_eq]
    exact hdata

theorem latestData_nonneg {data : LastModbusData} (h : 0 ≤ data.surroundingTemperature.toInt)
    (inputs : ℕ → TickInput) (t : ℕ) :
    0 ≤ (latestData data inputs t).surroundingTemperature.toInt := by
  induction t with
  | zero => exact h
  | succ t ih =>
    unfold latestData
    split
    · exact ih
    · exact surroundingTemperature_decodeReading_nonneg _

theorem skipsStage_iff {temperatureStep : UInt32} {data : LastModbusData}
    (h : 0 ≤ data.surroundingTemperature.toInt) :
    skipsStage temperatureStep data ↔ temperatureStep = 0 ∨
      (temperatureStep.toNat : ℤ) ≤ data.surroundingTemperature.toInt := by
  have heq : (data.surroundingTemperature.toUInt32.toNat : ℤ) =
      data.surroundingTemperature.toInt := by
    rw [← Int32.toInt_toBitVec, BitVec.toInt_eq_toNat_cond] at h ⊢
    have hlt := data.surroundingTemperature.toBitVec.isLt
    split_ifs at h ⊢ with hsmall
    · rfl
    · omega
  refine or_congr_right ?_
  rw [UInt32.le_iff_toNat_le]
  omega

section Verdict

variable {item : StageItem} {data : LastModbusData}
  (h : 0 ≤ data.surroundingTemperature.toInt)

include h

variable (item) in
theorem profileVerdict_eq_skip_iff :
    profileVerdict item data = .skip ↔ skipsStage item.temperatureStep data := by
  rw [skipsStage_iff h]
  unfold profileVerdict
  split_ifs <;> simp [*]

variable (item) in
theorem profileVerdict_eq_soak_iff :
    profileVerdict item data = .soak ↔ ¬ skipsStage item.temperatureStep data ∧
      canCompletePreheatStage item.temperatureStep data := by
  rw [skipsStage_iff h]
  unfold profileVerdict
  split_ifs <;> simp [*]

end Verdict

/-! ## The simulation -/

/-- Where the walk and a running controller are before tick `t`. -/
inductive Phase (W : StagedWalk) (holder : PresetsHolder) (ptr : PresetPtr) (t : ℕ)
    (c : ReflowProcessController) : Prop
  /-- stage `i` is about to be entered -/
  | init {i : ℕ} : i < W.stages → W.BeginsAt i t →
      c.reflowProcessData.reflowStep = .kInitStep → c.reflowProcessData.activeStageIndex = i →
      Phase W holder ptr t c
  /-- stage `i` waits for a verdict -/
  | preheat {i b : ℕ} : i < W.stages → W.BeginsAt i b → W.Waits i b t →
      c.reflowProcessData.reflowStep = .kPreheat → c.reflowProcessData.activeStageIndex = i →
      c.reflowProcessData.activePresetState =
        some ⟨ptr, (holder.objects ptr).presetItems.ptrTo i⟩ → Phase W holder ptr t c
  /-- stage `i` was found to be soaked at tick `p` -/
  | soak {i b p : ℕ} {item : StageItem} (sp : StagePtr) : i < W.stages → W.BeginsAt i b →
      W.Waits i b p → W.verdict i p = .soak → p < t → t ≤ p + W.dwell i →
      c.reflowProcessData.reflowStep = .kInProgress → c.reflowProcessData.activeStageIndex = i →
      c.reflowProcessData.activePresetState = some sp →
      (holder.objects ptr).presetItems.items[i]? = some item →
      c.reflowProcessData.stageCompletionTimepoint =
        c.sysTickTime + (item.stageDuration - ((t : ℤ) - p)) * 1000 → Phase W holder ptr t c
  /-- stage `i` has dwelt -/
  | completed {i b : ℕ} : i < W.stages → W.BeginsAt i b → b < t → W.BeginsAt (i + 1) (t + 1) →
      c.reflowProcessData.reflowStep = .kStageCompleted →
      c.reflowProcessData.activeStageIndex = i → Phase W holder ptr t c

/-- Before tick `t` the controller is where the walk is: on its way or at its end. -/
inductive Simulates (W : StagedWalk) (holder : PresetsHolder) (ptr : PresetPtr)
    (data : LastModbusData) (t : ℕ) (c : ReflowProcessController) : Prop
  | running : c.requestsQueue = [] → c.isReflowRunning = true → c.activePreset = some ptr →
      c.lastModbusData = data → Phase W holder ptr t c → Simulates W holder ptr data t c
  | finished {e : ℕ} : c.requestsQueue = [] → c.isReflowRunning = false → c.activePreset = none →
      c.reflowProcessData.reflowStep = .kStageCompleted → W.BeginsAt W.stages e → e ≤ t →
      Simulates W holder ptr data t c

theorem runnable_of_queue_nil {tc : Toolchain} {holder : PresetsHolder} {input : TickInput}
    {c : ReflowProcessController} (hqueue : c.requestsQueue = []) :
    c.runnable tc holder input =
      ((c.requestModbusData input.reading).processReflowStep holder input.freed).bind
        fun c => .done c.advanceSysTick := by
  simp [runnable, dispatchCommandsQueue, hqueue]

theorem requestModbusData_latest {data : LastModbusData} {inputs : ℕ → TickInput} {t : ℕ}
    {c : ReflowProcessController} (h : c.lastModbusData = latestData data inputs t) :
    c.requestModbusData (inputs t).reading =
      { c with lastModbusData := latestData data inputs (t + 1) } := by
  unfold requestModbusData latestData
  cases (inputs t).reading with
  | none => simp [← h]
  | some words => rfl

/-- What the process step at tick `t` has to do: return, leave the controller where the walk
is before the next tick, and write the word of the walk's event. -/
def StepsTo (W : StagedWalk) (holder : PresetsHolder) (ptr : PresetPtr) (data : LastModbusData)
    (t : ℕ) (c : ReflowProcessController) (o : Outcome Fault ReflowProcessController) : Prop :=
  ∃ c', o = .done c' ∧ Simulates W holder ptr data (t + 1) c'.advanceSysTick ∧
    targetWords c'.trace = targetWords c.trace ++
      ((W.event t).map (profileWord (holder.objects ptr).presetItems.items)).toList

section Between

variable {holder : PresetsHolder} {ptr : PresetPtr} {data : LastModbusData} {W : StagedWalk}
  {t i b : ℕ} {c c' : ReflowProcessController}

/-- A tick that only lets the stage go on. -/
theorem stepsTo_of_between (hi : i < W.stages)
    (hb : W.BeginsAt i b) (hbt : b < t) (hnext : ∀ b', W.BeginsAt (i + 1) b' → t + 1 < b')
    (hqueue' : c'.requestsQueue = []) (hrun' : c'.isReflowRunning = true)
    (hactive' : c'.activePreset = some ptr) (hdata' : c'.lastModbusData = data)
    (htrace : c'.trace = c.trace) (hphase : Phase W holder ptr (t + 1) c'.advanceSysTick) :
    StepsTo W holder ptr (data) t c (.done c') := by
  refine ⟨c', rfl, ?_, ?_⟩
  · refine .running ?_ ?_ ?_ ?_ hphase <;> simp [advanceSysTick, *]
  · rw [StagedWalk.event_of_between hb hbt hi hnext, htrace]
    simp

end Between

section Step

variable {holder : PresetsHolder} {ptr : PresetPtr} {freed : StageItem}
  {latest : ℕ → LastModbusData} {W : StagedWalk} {t i b p : ℕ} {c : ReflowProcessController}
  (hW : W = profileWalk (holder.objects ptr).presetItems.items latest)

include hW

theorem stages_eq : W.stages = (holder.objects ptr).numStages := by
  rw [hW]
  rfl

theorem exists_item (hi : i < W.stages) :
    ∃ item, (holder.objects ptr).presetItems.items[i]? = some item := by
  rw [stages_eq hW] at hi
  exact ⟨_, List.getElem?_eq_getElem hi⟩

theorem verdict_eq {item : StageItem}
    (hitem : (holder.objects ptr).presetItems.items[i]? = some item) :
    W.verdict i t = profileVerdict item (latest (t + 1)) := by
  simp [hW, profileWalk, hitem]

theorem dwell_eq {item : StageItem}
    (hitem : (holder.objects ptr).presetItems.items[i]? = some item) :
    W.dwell i = max 1 item.stageDuration.toNat := by
  simp [hW, profileWalk, hitem]

variable (hqueue : c.requestsQueue = []) (hrun : c.isReflowRunning = true)
  (hactive : c.activePreset = some ptr) (hdata : c.lastModbusData = latest (t + 1))

include hqueue hrun hactive hdata

/-- Entering a stage. -/
theorem handleInitStep_stepsTo (hi : i < W.stages) (hb : W.BeginsAt i t)
    (hidx : c.reflowProcessData.activeStageIndex = i) :
    StepsTo W holder ptr (latest (t + 1)) t c (c.handleInitStep holder freed) := by
  obtain ⟨item, hitem⟩ := exists_item hW hi
  have hinit : c.handleInitStep holder freed = _ :=
    handleInitStep_of_getElem? hactive (hidx.symm ▸ hitem)
  refine ⟨_, hinit, ?_, ?_⟩
  · have hphase : Phase W holder ptr (t + 1) (c.entered
        ⟨ptr, (holder.objects ptr).presetItems.ptrTo c.reflowProcessData.activeStageIndex⟩
        item).advanceSysTick := by
      refine .preheat hi hb (StagedWalk.waits_succ i t) ?_ ?_ ?_ <;>
        simp [advanceSysTick, entered, hrun, hidx]
    refine .running ?_ ?_ ?_ ?_ hphase <;> simp [advanceSysTick, entered, *]
  · rw [StagedWalk.event_of_begins hb hi]
    simp only [targetWords_entered, Option.map_some, profileWord, hitem, Option.toList_some]
    rfl

/-- Leaving a stage, for the next one or for good. -/
theorem moveToNextStage_stepsTo (hi : i < W.stages) (hb : W.BeginsAt i b) (hbt : b < t)
    (hnext : W.BeginsAt (i + 1) (t + 1)) (hidx : c.reflowProcessData.activeStageIndex = i) :
    StepsTo W holder ptr (latest (t + 1)) t c (c.moveToNextStage holder) := by
  have hevent := StagedWalk.event_of_next hb hbt hnext
  have hstages := stages_eq hW
  by_cases hlt : i + 1 < W.stages
  · have hmove := moveToNextStage_of_lt hactive (by rw [hidx, ← hstages]; exact hlt)
    refine ⟨_, hmove, ?_, ?_⟩
    · have hphase : Phase W holder ptr (t + 1) c.movedOn.advanceSysTick := by
        refine .init hlt hnext ?_ ?_ <;> simp [advanceSysTick, movedOn, hrun, hidx]
      refine .running ?_ ?_ ?_ ?_ hphase <;> simp [advanceSysTick, movedOn, *]
    · rw [hevent, if_neg hlt.ne]
      simp [movedOn]
  · -- the end of the run, one tick before the walk would begin another stage
    have hlast : i + 1 = W.stages := by omega
    have hmove := moveToNextStage_of_le hrun hactive (by rw [hidx, ← hstages, hlast])
    refine ⟨_, hmove, ?_, ?_⟩
    · refine .finished (e := t + 1) ?_ ?_ ?_ ?_ (hlast ▸ hnext) (Nat.le_refl _) <;>
        simp [advanceSysTick, ended, hqueue]
    · rw [hevent, if_pos hlast]
      simp [profileWord]

/-- Waiting for a verdict. -/
theorem handlePreheatState_stepsTo (hi : i < W.stages) (hb : W.BeginsAt i b)
    (hw : W.Waits i b t) (hidx : c.reflowProcessData.activeStageIndex = i)
    (hstep : c.reflowProcessData.reflowStep = .kPreheat)
    (hsp : c.reflowProcessData.activePresetState =
      some ⟨ptr, (holder.objects ptr).presetItems.ptrTo i⟩)
    (hambient : 0 ≤ (latest (t + 1)).surroundingTemperature.toInt) :
    StepsTo W holder ptr (latest (t + 1)) t c (c.handlePreheatState holder freed) := by
  obtain ⟨item, hitem⟩ := exists_item hW hi
  have hderef : derefStage holder freed _ = item := derefStage_of_getElem? hitem
  have hverdict : W.verdict i t = profileVerdict item (latest (t + 1)) := verdict_eq hW hitem
  have hskip_iff := profileVerdict_eq_skip_iff item hambient
  have hsoak_iff := profileVerdict_eq_soak_iff item hambient
  rw [← hverdict, ← hdata, ← hderef] at hskip_iff hsoak_iff
  -- the verdicts are the three branches of `handlePreheatState`
  by_cases hskip : W.verdict i t = .skip
  · rw [handlePreheatState_of_skip hsp (hskip_iff.mp hskip)]
    exact moveToNextStage_stepsTo hW hqueue hrun hactive hdata hi hb hw.1
      (.skip hb hi hw hskip) hidx
  · have hnot := mt hskip_iff.mpr hskip
    by_cases hsoak : W.verdict i t = .soak
    · rw [handlePreheatState_of_band hsp hnot (hsoak_iff.mp hsoak).2, hderef]
      have hnext : W.BeginsAt (i + 1) (t + W.dwell i + 2) := .soak hb hi hw hsoak
      have hdwell := dwell_eq hW hitem
      refine stepsTo_of_between hi hb hw.1 (fun b' hb' => ?_) hqueue hrun hactive hdata rfl ?_
      · have : b' = t + W.dwell i + 2 := hb'.unique hnext
        omega
      · refine .soak ⟨ptr, (holder.objects ptr).presetItems.ptrTo i⟩ hi hb hw hsoak
          (Nat.lt_succ_self t) ?_ ?_ ?_ ?_ hitem ?_
        · omega
        all_goals simp [advanceSysTick, soaking, hrun, hidx, hsp, kSystickResolution]
        omega
    · rw [handlePreheatState_of_wait hsp hnot fun hband => hsoak (hsoak_iff.mpr ⟨hnot, hband⟩)]
      have hwait : W.verdict i t = .wait := by
        cases hv : W.verdict i t <;> simp_all
      refine stepsTo_of_between hi hb hw.1
        (fun b' hb' => hb.lt_of_waits (hw.succ hwait) hb' (Nat.lt_succ_self i))
        hqueue hrun hactive hdata rfl ?_
      refine .preheat hi hb (hw.succ hwait) ?_ ?_ ?_ <;> simp [advanceSysTick, *]

/-- Dwelling. -/
theorem handleInProgressState_stepsTo {item : StageItem} {sp : StagePtr} (hi : i < W.stages)
    (hb : W.BeginsAt i b) (hw : W.Waits i b p) (hsoak : W.verdict i p = .soak) (hpt : p < t)
    (htp : t ≤ p + W.dwell i) (hidx : c.reflowProcessData.activeStageIndex = i)
    (hstep : c.reflowProcessData.reflowStep = .kInProgress)
    (hsp : c.reflowProcessData.activePresetState = some sp)
    (hitem : (holder.objects ptr).presetItems.items[i]? = some item)
    (htime : c.reflowProcessData.stageCompletionTimepoint =
      c.sysTickTime + (item.stageDuration - ((t : ℤ) - p)) * 1000) :
    StepsTo W holder ptr (latest (t + 1)) t c (.done c.handleInProgressState) := by
  have hdwell := dwell_eq hW hitem
  have hnext : W.BeginsAt (i + 1) (p + W.dwell i + 2) := .soak hb hi hw hsoak
  have hbt : b < t := hw.1.trans hpt
  have hlater : ∀ b', W.BeginsAt (i + 1) b' → t + 1 < b' := by
    intro b' hb'
    have : b' = p + W.dwell i + 2 := hb'.unique hnext
    omega
  by_cases hdone : c.reflowProcessData.stageCompletionTimepoint ≤ c.sysTickTime
  · rw [handleInProgressState_of_le hsp hdone]
    -- `t` is the last of the ticks it dwells
    have hlast : p + W.dwell i + 2 = t + 1 + 1 := by omega
    refine stepsTo_of_between hi hb hbt hlater hqueue hrun hactive hdata rfl ?_
    refine .completed hi hb (Nat.lt_succ_of_lt hbt) (hlast ▸ hnext) ?_ ?_ <;>
      simp [advanceSysTick, soaked, hrun, hidx]
  · rw [handleInProgressState_of_not_le hdone]
    refine stepsTo_of_between hi hb hbt hlater hqueue hrun hactive hdata rfl ?_
    refine .soak sp hi hb hw hsoak (Nat.lt_succ_of_lt hpt) ?_ ?_ ?_ ?_ hitem ?_
    · omega
    all_goals simp [advanceSysTick, hrun, hidx, hsp, hstep, kSystickResolution]
    omega

variable (freed) in
/-- **Step lemma.** Every process step of a run is the walk's. -/
theorem Phase.stepsTo (hphase : Phase W holder ptr t c)
    (hambient : 0 ≤ (latest (t + 1)).surroundingTemperature.toInt) :
    StepsTo W holder ptr (latest (t + 1)) t c (c.processReflowStep holder freed) := by
  cases hphase with
  | init hi hb hstep hidx =>
    rw [processReflowStep_of_init hactive hrun hstep]
    exact handleInitStep_stepsTo hW hqueue hrun hactive hdata hi hb hidx
  | preheat hi hb hw hstep hidx hsp =>
    rw [processReflowStep_of_preheat hactive hrun hstep]
    exact handlePreheatState_stepsTo hW hqueue hrun hactive hdata hi hb hw hidx hstep hsp hambient
  | soak _ hi hb hw hsoak hpt htp hstep hidx hsp hitem htime =>
    rw [processReflowStep_of_inProgress hactive hrun hstep]
    exact handleInProgressState_stepsTo hW hqueue hrun hactive hdata hi hb hw hsoak hpt htp hidx
      hstep hsp hitem htime
  | completed hi hb hbt hnext hstep hidx =>
    rw [processReflowStep_of_completed hactive hrun hstep]
    exact moveToNextStage_stepsTo hW hqueue hrun hactive hdata hi hb hbt hnext hidx

end Step

/-! ## What the walk shows -/

section Observed

variable {W : StagedWalk} {holder : PresetsHolder} {ptr : PresetPtr} {data : LastModbusData}
  {t : ℕ} {c : ReflowProcessController}

/-- The stage that is on has not given way yet. -/
theorem Phase.current (h : Phase W holder ptr t c) :
    ∃ i < W.stages, ∀ b', W.BeginsAt (i + 1) b' → t < b' := by
  cases h with
  | init hi hb => exact ⟨_, hi, fun b' hb' => hb.lt_of_lt hb' (Nat.lt_succ_self _)⟩
  | preheat hi hb hw => exact ⟨_, hi, fun b' hb' => hb.lt_of_waits hw hb' (Nat.lt_succ_self _)⟩
  | soak _ hi hb hw hsoak hpt htp =>
    refine ⟨_, hi, fun b' hb' => ?_⟩
    have := hb'.unique (.soak hb hi hw hsoak)
    omega
  | completed hi hb hbt hnext =>
    refine ⟨_, hi, fun b' hb' => ?_⟩
    have := hb'.unique hnext
    omega

theorem Phase.kInProgress_iff (h : Phase W holder ptr (t + 1) c) :
    c.reflowProcessData.reflowStep = .kInProgress ↔ W.SoakingAfter t := by
  cases h with
  | init hi hb hstep =>
    simp [hstep, StagedWalk.not_soakingAfter_of_begins hb (Nat.lt_succ_self t) (Nat.le_succ _)]
  | preheat hi hb hw hstep =>
    simp [hstep, StagedWalk.not_soakingAfter_of_waits hb hw]
  | soak _ hi hb hw hsoak hpt htp hstep =>
    refine iff_of_true hstep ⟨_, _, _, hi, hb, hw, hsoak, ?_, ?_⟩ <;> omega
  | completed hi hb hbt hnext hstep =>
    simp [hstep, StagedWalk.not_soakingAfter_of_begins hnext (by omega) (Nat.le_refl _)]

theorem Simulates.isReflowRunning_iff (h : Simulates W holder ptr data (t + 1) c) :
    c.isReflowRunning = true ↔ W.RunningAfter t := by
  cases h with
  | running _ hrun _ _ hphase =>
    obtain ⟨i, hi, hnext⟩ := hphase.current
    exact iff_of_true hrun (StagedWalk.runningAfter_of_next hi hnext)
  | finished _ hidle _ _ he het =>
    simp [hidle, StagedWalk.not_runningAfter_of_over he het]

theorem Simulates.kInProgress_iff (h : Simulates W holder ptr data (t + 1) c) :
    c.reflowProcessData.reflowStep = .kInProgress ↔ W.SoakingAfter t := by
  cases h with
  | running _ _ _ _ hphase => exact hphase.kInProgress_iff
  | finished _ _ _ hstep he het => simp [hstep, StagedWalk.not_soakingAfter_of_over he het]

end Observed

/-! ## Ticks -/

theorem Phase.setData {W : StagedWalk} {holder : PresetsHolder} {ptr : PresetPtr} {t : ℕ}
    {c : ReflowProcessController} (h : Phase W holder ptr t c) (data : LastModbusData) :
    Phase W holder ptr t { c with lastModbusData := data } := by
  cases h with
  | init hi hb hstep hidx => exact .init hi hb hstep hidx
  | preheat hi hb hw hstep hidx hsp => exact .preheat hi hb hw hstep hidx hsp
  | soak sp hi hb hw hsoak hpt htp hstep hidx hsp hitem htime =>
    exact .soak sp hi hb hw hsoak hpt htp hstep hidx hsp hitem htime
  | completed hi hb hbt hnext hstep hidx => exact .completed hi hb hbt hnext hstep hidx

/-- **A tick is a step of the walk.** -/
theorem Simulates.runnable (tc : Toolchain) {W : StagedWalk} {holder : PresetsHolder}
    {ptr : PresetPtr} {data : LastModbusData} {inputs : ℕ → TickInput} {t : ℕ}
    {c : ReflowProcessController}
    (hW : W = profileWalk (holder.objects ptr).presetItems.items (latestData data inputs))
    (hambient : 0 ≤ data.surroundingTemperature.toInt)
    (h : Simulates W holder ptr (latestData data inputs t) t c) :
    ∃ c', c.runnable tc holder (inputs t) = .done c' ∧
      Simulates W holder ptr (latestData data inputs (t + 1)) (t + 1) c' ∧
      targetWords c'.trace = targetWords c.trace ++
        ((W.event t).map (profileWord (holder.objects ptr).presetItems.items)).toList := by
  cases h with
  | running hqueue hrun hactive hdata hphase =>
    -- nothing is queued, so the tick is its register read, its process step and the clock
    rw [runnable_of_queue_nil hqueue, requestModbusData_latest hdata]
    obtain ⟨c', hprocess, hsim, htrace⟩ :=
      Phase.stepsTo (inputs t).freed
        (c := { c with lastModbusData := latestData data inputs (t + 1) })
        hW hqueue hrun hactive rfl (hphase.setData _) (latestData_nonneg hambient inputs (t + 1))
    rw [hprocess]
    refine ⟨c'.advanceSysTick, rfl, hsim, ?_⟩
    rw [← htrace]
    unfold advanceSysTick
    split <;> rfl
  | finished hqueue hidle hactive hstep he het =>
    -- only the register data change any more
    rw [runnable_of_queue_nil hqueue]
    refine ⟨c.requestModbusData (inputs t).reading, ?_, ?_, ?_⟩
    · cases (inputs t).reading <;>
        simp [requestModbusData, processReflowStep, advanceSysTick, hactive, hidle]
    · cases (inputs t).reading with
      | none => exact .finished hqueue hidle hactive hstep he (Nat.le_succ_of_le het)
      | some words => exact .finished hqueue hidle hactive hstep he (Nat.le_succ_of_le het)
    · rw [StagedWalk.event_of_over he het]
      cases (inputs t).reading <;> simp [requestModbusData]

namespace Server

variable {tc : Toolchain}

/-- The server after `t` ticks. -/
def afterTicks (tc : Toolchain) (inputs : ℕ → TickInput) (s : Server) (t : ℕ) : Server :=
  (operations tc).run s ((List.range t).map fun q => .tick (inputs q))

theorem afterTicks_succ (inputs : ℕ → TickInput) (s : Server) (t : ℕ) :
    afterTicks tc inputs s (t + 1) = (afterTicks tc inputs s t).tick tc (inputs t) := by
  rw [afterTicks, List.range_succ, List.map_append, System.run_append]
  rfl

@[simp] theorem presetsHolder_afterTicks (inputs : ℕ → TickInput) (s : Server) (t : ℕ) :
    (afterTicks tc inputs s t).presetsHolder = s.presetsHolder := by
  induction t with
  | zero => rfl
  | succ t ih =>
    rw [afterTicks_succ]
    exact ih

variable (tc) in
/-- **Run lemma.** A controller that is where the walk is stays there. -/
theorem simulates_afterTicks {s : Server} {ptr : PresetPtr} {data : LastModbusData}
    {inputs : ℕ → TickInput} {W : StagedWalk}
    (hW : W = profileWalk (s.presetsHolder.objects ptr).presetItems.items
      (latestData data inputs))
    (hambient : 0 ≤ data.surroundingTemperature.toInt)
    (hsim : Simulates W s.presetsHolder ptr data 0 s.reflowController) (t : ℕ) :
    Simulates W s.presetsHolder ptr (latestData data inputs t) t
        (afterTicks tc inputs s t).reflowController ∧
      targetWords (afterTicks tc inputs s t).reflowController.trace =
        targetWords s.reflowController.trace ++ ((List.range t).filterMap W.event).map
          (profileWord (s.presetsHolder.objects ptr).presetItems.items) := by
  induction t with
  | zero => exact ⟨hsim, by simp [afterTicks]⟩
  | succ t ih =>
    obtain ⟨hsim_t, htrace_t⟩ := ih
    obtain ⟨c', hrun, hsim', htrace⟩ := Simulates.runnable tc hW hambient hsim_t
    have hstate : (afterTicks tc inputs s (t + 1)).reflowController = c' := by
      rw [afterTicks_succ, tick, runnable, presetsHolder_afterTicks, hrun]
      rfl
    rw [hstate]
    refine ⟨hsim', ?_⟩
    rw [htrace, htrace_t, List.append_assoc, List.range_succ, List.filterMap_append,
      List.map_append]
    congr 2
    cases h : W.event t <;> simp [h]

/-- A tick that dispatches `StartReflow` alone is a tick of the started controller. -/
theorem runnable_of_startReflow {s : Server} {ptr : PresetPtr} (input : TickInput)
    (hqueue : s.reflowController.requestsQueue = [.startReflow])
    (hactive : s.reflowController.activePreset = some ptr) :
    s.runnable tc input = ReflowProcessController.runnable tc s.presetsHolder input
      { s.reflowController.started with requestsQueue := [] } := by
  rw [runnable_of_queue_nil rfl]
  simp [runnable, ReflowProcessController.runnable, dispatchCommandsQueue, hqueue, handleOperation,
    visitCommand, handleReflowStart, hactive, started]

/-- **A run refines its profile.** A selected preset with stages is started while the
controller is idle; nothing else is posted and no preset is edited. Then every tick returns,
and the target words, the running flag and the soaking phases after it are those of the
profile's walk. -/
theorem run_refines_profile {s : Server} (hs : (operations tc).Reachable s)
    (hidle : s.reflowController.isRunning = false)
    (hqueue : s.reflowController.requestsQueue = [.startReflow]) {ptr : PresetPtr}
    (hactive : s.reflowController.activePreset = some ptr)
    (hstages : 0 < (s.presetsHolder.objects ptr).numStages) (inputs : ℕ → TickInput) (t : ℕ) :
    let items := (s.presetsHolder.objects ptr).presetItems.items
    let walk := profileWalk items (latestData s.reflowController.lastModbusData inputs)
    let c := (afterTicks tc inputs s (t + 1)).reflowController
    ((afterTicks tc inputs s t).runnable tc (inputs t)).error? = none ∧
      targetWords c.trace = targetWords s.reflowController.trace ++
        ((List.range (t + 1)).filterMap walk.event).map (profileWord items) ∧
      (c.isRunning = true ↔ walk.RunningAfter t) ∧
      (c.reflowProcessData.reflowStep = .kInProgress ↔ walk.SoakingAfter t) := by
  intro items walk c
  -- the server as the dispatch loop of tick 0 leaves it
  let s₀ : Server := ⟨s.presetsHolder, { s.reflowController.started with requestsQueue := [] }⟩
  have hW : walk = profileWalk (s₀.presetsHolder.objects ptr).presetItems.items
      (latestData s.reflowController.lastModbusData inputs) := rfl
  have hambient := surroundingTemperature_nonneg hs
  have hsim : Simulates walk s₀.presetsHolder ptr s.reflowController.lastModbusData 0
      s₀.reflowController :=
    .running rfl rfl hactive rfl
      (.init hstages .first rfl ((RunInvariant.of_reachable hs).idle_index hidle))
  have hrun := simulates_afterTicks tc hW hambient hsim
  have hfirst : s.runnable tc (inputs 0) = s₀.runnable tc (inputs 0) :=
    runnable_of_startReflow (inputs 0) hqueue hactive
  have hafter : ∀ q, afterTicks tc inputs s (q + 1) = afterTicks tc inputs s₀ (q + 1) := by
    intro q
    induction q with
    | zero =>
      rw [afterTicks_succ, afterTicks_succ]
      show s.tick tc (inputs 0) = s₀.tick tc (inputs 0)
      rw [tick, tick, hfirst]
    | succ q ih => rw [afterTicks_succ, ih, ← afterTicks_succ]
  obtain ⟨hsim', htrace⟩ := hrun (t + 1)
  rw [← hafter t] at hsim' htrace
  refine ⟨?_, htrace, hsim'.isReflowRunning_iff, hsim'.kInProgress_iff⟩
  obtain ⟨c', hdone, -⟩ := Simulates.runnable tc hW hambient (hrun t).1
  cases t with
  | zero =>
    show (s.runnable tc (inputs 0)).error? = none
    rw [hfirst]
    exact congrArg Outcome.error? hdone
  | succ q =>
    rw [hafter q, runnable, presetsHolder_afterTicks, hdone]
    rfl

/-- A preset with one stage has been selected, and `StartReflow` is queued. -/
def selectedRun : List Operation :=
  [.addNewPreset "lead", .addStageItem 4 ⟨183, 30⟩, .postCommand (.selectPreset 4), silentTick,
    .postCommand .startReflow]

/-- The same with a second stage, which the room is too warm for. -/
def twoStageRun : List Operation :=
  [.addNewPreset "lead", .addStageItem 4 ⟨183, 1⟩, .addStageItem 4 ⟨20, 5⟩,
    .postCommand (.selectPreset 4), silentTick, .postCommand .startReflow]

/-- The first registers read are those of a table that has reached `183`. -/
def heatedInputs (t : ℕ) : TickInput :=
  ⟨if t < 2 then none else some #v[25, 183, 3, 1, 0], ⟨0, 0⟩⟩

/-- The first stage waits for tick 2, soaks and gives way in tick 5 to the second, which is skipped
in tick 6. -/
theorem run_refines_profile_twoStageRun :
    let s := (operations .sample).run make twoStageRun
    let items : List StageItem := [⟨183, 1⟩, ⟨20, 5⟩]
    let walk := profileWalk items (latestData s.reflowController.lastModbusData heatedInputs)
    let c t := (afterTicks .sample heatedInputs s (t + 1)).reflowController
    walk.SoakingAfter 2 ∧ walk.RunningAfter 5 ∧ ¬ walk.RunningAfter 6 ∧
      targetWords (c 6).trace = [183, 20, 0] ∧
      targetWords (c 6).trace =
        [] ++ ((List.range 7).filterMap walk.event).map (profileWord items) := by
  have hrun := run_refines_profile (reachable_run .sample twoStageRun) (by decide) (by decide)
    (show _ = some 0 by decide) (by decide) heatedInputs
  refine ⟨(hrun 2).2.2.2.mp (by decide), (hrun 5).2.2.1.mp (by decide), fun hwalk => ?_, by decide,
    (hrun 6).2.1⟩
  exact absurd ((hrun 6).2.2.1.mpr hwalk) (by decide)

end Server

end ReflowTable

import ReflowTable.Operations

/-!
# The preheat band

`handlePreheatState` lets a stage soak once the table is within the hysteresis of the stage's
temperature. Both bounds are computed in `std::uint32_t`. The lower one wraps when the hysteresis
is larger than the temperature, and no table temperature reaches it then. The upper one wraps
for temperatures only whose lower bound is out of reach anyway.
-/

namespace ReflowTable

open ReflowProcessController

/-- The table, in word 1, is within the hysteresis, in word 2, of a temperature, over the
integers. -/
def InBand (temperatureStep : UInt32) (words : ModbusReading) : Prop :=
  (temperatureStep.toNat : ℤ) - words[2]!.toNat ≤ words[1]!.toNat ∧
    (words[1]!.toNat : ℤ) ≤ temperatureStep.toNat + words[2]!.toNat

instance (temperatureStep : UInt32) (words : ModbusReading) :
    Decidable (InBand temperatureStep words) :=
  inferInstanceAs (Decidable (_ ∧ _))

/-- A preheating controller that is handed this reading soaks exactly in the band, and goes on
preheating outside. -/
def BandRespected (holder : PresetsHolder) (freed : StageItem) (sp : StagePtr)
    (words : ModbusReading) (s : ReflowProcessController) : Prop :=
  let temperatureStep := (derefStage holder freed sp).temperatureStep
  let after := ((s.requestModbusData (some words)).handlePreheatState holder freed).state
  (after.reflowProcessData.reflowStep = .kInProgress ↔ InBand temperatureStep words) ∧
    (¬ InBand temperatureStep words → after.reflowProcessData.reflowStep = .kPreheat)

/-! ## The comparison -/

theorem inBand_iff (temperatureStep : UInt32) (words : ModbusReading) :
    InBand temperatureStep words ↔
      (temperatureStep.toNat : ℤ) - words[2].toNat ≤ words[1].toNat ∧
        (words[1].toNat : ℤ) ≤ temperatureStep.toNat + words[2].toNat := by
  rw [InBand, getElem!_pos words 1 (by decide), getElem!_pos words 2 (by decide)]

/-- The register words are compared as they are. -/
theorem tableTemperature_toUInt32 (words : ModbusReading) :
    (decodeReading words).tableTemperature.toUInt32 = words[1].toUInt32 := by
  simp [decodeReading]

theorem surroundingTemperature_toUInt32 (words : ModbusReading) :
    (decodeReading words).surroundingTemperature.toUInt32 = words[0].toUInt32 := by
  simp [decodeReading]

/-- **The test of the code** is the band, cut to hysteresis values up to the temperature. -/
theorem canCompletePreheatStage_iff (temperatureStep : UInt32) (words : ModbusReading) :
    canCompletePreheatStage temperatureStep (decodeReading words) = true ↔
      words[2].toNat ≤ temperatureStep.toNat ∧ InBand temperatureStep words := by
  have hstep := temperatureStep.toNat_lt
  have htable : words[1].toNat < 2 ^ 16 := words[1].toNat_lt
  have hhysteresis : words[2].toNat < 2 ^ 16 := words[2].toNat_lt
  have hlower : (temperatureStep - words[2].toUInt32).toNat =
      (2 ^ 32 - words[2].toNat + temperatureStep.toNat) % 2 ^ 32 := by
    rw [UInt32.toNat_sub, UInt16.toNat_toUInt32]
  have hupper : (temperatureStep + words[2].toUInt32).toNat =
      (temperatureStep.toNat + words[2].toNat) % 2 ^ 32 := by
    rw [UInt32.toNat_add, UInt16.toNat_toUInt32]
  have hcode : canCompletePreheatStage temperatureStep (decodeReading words) = true ↔
      (2 ^ 32 - words[2].toNat + temperatureStep.toNat) % 2 ^ 32 ≤ words[1].toNat ∧
        words[1].toNat ≤ (temperatureStep.toNat + words[2].toNat) % 2 ^ 32 := by
    unfold canCompletePreheatStage
    rw [Bool.and_eq_true, decide_eq_true_iff, decide_eq_true_iff, tableTemperature_toUInt32,
      ge_iff_le, UInt32.le_iff_toNat_le, UInt32.le_iff_toNat_le, UInt16.toNat_toUInt32, ← hlower,
      ← hupper]
    rfl
  rw [hcode, inBand_iff]
  by_cases hle : words[2].toNat ≤ temperatureStep.toNat
  · -- the lower bound is exact
    have hexact : (2 ^ 32 - words[2].toNat + temperatureStep.toNat) % 2 ^ 32 =
        temperatureStep.toNat - words[2].toNat := by
      omega
    rw [hexact]
    omega
  · -- the lower bound lies above every register word
    have hwrapped : (2 ^ 32 - words[2].toNat + temperatureStep.toNat) % 2 ^ 32 =
        2 ^ 32 - words[2].toNat + temperatureStep.toNat := by
      apply Nat.mod_eq_of_lt
      omega
    rw [hwrapped]
    omega

/-! ## The step -/

variable {holder : PresetsHolder} {freed : StageItem} {sp : StagePtr} {words : ModbusReading}
  {s : ReflowProcessController}

/-- A stage above the surrounding temperature is not skipped. -/
theorem not_skipsStage_of_lt {temperatureStep : UInt32} (hpos : temperatureStep ≠ 0)
    (hambient : words[0].toNat < temperatureStep.toNat) :
    ¬ skipsStage temperatureStep (decodeReading words) := by
  intro hskip
  rcases hskip with hzero | hle
  · exact hpos hzero
  · rw [surroundingTemperature_toUInt32, UInt32.le_iff_toNat_le, UInt16.toNat_toUInt32] at hle
    omega

variable (holder freed) in
/-- What the step makes of a stage that is not skipped. -/
theorem reflowStep_handlePreheatState (hstep : s.reflowProcessData.reflowStep = .kPreheat)
    (hsp : s.reflowProcessData.activePresetState = some sp)
    (hskip : ¬ skipsStage (derefStage holder freed sp).temperatureStep s.lastModbusData) :
    (s.handlePreheatState holder freed).state.reflowProcessData.reflowStep =
      if canCompletePreheatStage (derefStage holder freed sp).temperatureStep s.lastModbusData
      then .kInProgress else .kPreheat := by
  split_ifs with hband
  · rw [handlePreheatState_of_band hsp hskip hband]
    rfl
  · rw [handlePreheatState_of_wait hsp hskip hband]
    exact hstep

/-- **The preheat band is the intended interval** exactly when the hysteresis is no larger than
the temperature, or the table is above the interval anyway. -/
theorem preheat_band_iff (hstep : s.reflowProcessData.reflowStep = .kPreheat)
    (hsp : s.reflowProcessData.activePresetState = some sp)
    (hpos : (derefStage holder freed sp).temperatureStep ≠ 0)
    (hambient : words[0].toNat < (derefStage holder freed sp).temperatureStep.toNat) :
    BandRespected holder freed sp words s ↔
      words[2].toNat ≤ (derefStage holder freed sp).temperatureStep.toNat ∨
        (derefStage holder freed sp).temperatureStep.toNat + words[2].toNat < words[1].toNat := by
  have hafter := reflowStep_handlePreheatState holder freed
    (s := s.requestModbusData (some words)) hstep hsp (not_skipsStage_of_lt hpos hambient)
  have hcode := canCompletePreheatStage_iff (derefStage holder freed sp).temperatureStep words
  have hdata : (s.requestModbusData (some words)).lastModbusData = decodeReading words := rfl
  unfold BandRespected
  simp only [hafter, hdata]
  generalize (derefStage holder freed sp).temperatureStep = temperatureStep at hcode ⊢
  rw [inBand_iff] at hcode ⊢
  split_ifs with hband
  · -- the code soaks, so the hysteresis is no larger than the temperature
    obtain ⟨hle, hin⟩ := hcode.mp hband
    exact iff_of_true ⟨iff_of_true rfl hin, fun hout => absurd hin hout⟩ (.inl hle)
  · have hout := mt hcode.mpr hband
    simp only [false_iff, implies_true, and_true]
    omega

/-- A stage of `5` degrees is preheating. -/
def preheatRun : List Operation :=
  [.addNewPreset "lead", .addStageItem 4 ⟨5, 30⟩, .postCommand (.selectPreset 4),
    .postCommand .startReflow, Server.silentTick]

def preheatServer : Server := (Server.operations .sample).run Server.make preheatRun

/-- Surrounding, table, hysteresis, `k` and target of a reading. -/
def narrowReading : ModbusReading := #v[0, 6, 2, 1, 5]

def wideReading : ModbusReading := #v[0, 5, 7, 1, 5]

/-- A hysteresis of `2` is no larger than the temperature. -/
theorem preheat_band_iff_preheatRun :
    BandRespected preheatServer.presetsHolder ⟨0, 0⟩ ⟨0, ⟨1, 0⟩⟩ narrowReading
        preheatServer.reflowController ↔ 2 ≤ 5 ∨ 5 + 2 < 6 :=
  preheat_band_iff (by decide) (by decide) (by decide) (by decide)

/-- With a hysteresis of `7` a table at exactly `5` degrees does not end the preheating. -/
theorem not_bandRespected_preheatRun :
    (Server.operations .sample).Reachable preheatServer ∧
      preheatServer.reflowController.reflowProcessData.reflowStep = .kPreheat ∧
      (derefStage preheatServer.presetsHolder ⟨0, 0⟩ ⟨0, ⟨1, 0⟩⟩).temperatureStep = 5 ∧
      InBand 5 wideReading ∧
      ¬ BandRespected preheatServer.presetsHolder ⟨0, 0⟩ ⟨0, ⟨1, 0⟩⟩ wideReading
        preheatServer.reflowController := by
  refine ⟨Server.reachable_run _ _, by decide, by decide, by decide, fun hrespected => ?_⟩
  have hsoaks := hrespected.1.mpr (by decide)
  exact absurd hsoaks (by decide)

end ReflowTable

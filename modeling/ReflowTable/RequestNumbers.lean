import ReflowTable.RequestUtils
import ReflowTable.Transitions

/-!
# Which numbers reach the hardware unchanged

Between a request and the registers a number is converted twice: by the JSON library to
`std::uint32_t` or `float`, and by the controller to the 16 bits of a register. The decoders
look at the type of an entry only, so every number gets through, and the conversions keep it
exactly when it is an integer of the register's range. A duration never leaves the 32 bits.
-/

namespace ReflowTable

open ReflowProcessController

/-- The number an object has under a key. -/
def Json.numberAt (key : String) (item : Json) : Option ℚ := (item.find key).bind Json.number?

/-- A stage item stands for the numbers it was parsed from, and so does the word that is
requested when any controller enters it. -/
structure StageCarried (item : Json) (stage : StageItem) : Prop where
  temperature : ∀ q, item.numberAt "temperature" = some q → (stage.temperatureStep.toNat : ℚ) = q
  duration : ∀ q, item.numberAt "duration" = some q → (stage.stageDuration : ℚ) = q
  target : ∀ q, item.numberAt "temperature" = some q →
    ∀ (holder : PresetsHolder) (freed : StageItem) (c : ReflowProcessController) (ptr : PresetPtr),
      c.activePreset = some ptr →
      (holder.objects ptr).presetItems.items[c.reflowProcessData.activeStageIndex]? = some stage →
      ∃ word, (targetWords (c.handleInitStep holder freed).state.trace).getLast? = some word ∧
        (word.toNat : ℚ) = q

/-- The numbers of a stage that the words hold. -/
structure StageFits (item : Json) : Prop where
  temperature : ∀ q, item.numberAt "temperature" = some q → Casts.Fits 16 q
  duration : ∀ q, item.numberAt "duration" = some q → Casts.Fits 32 q

/-- The two words any controller writes for the parameters are the numbers given. -/
def RegulatorCarried (tc : Toolchain) (doc : Json) (params : RegulatorParams) : Prop :=
  ∀ c : ReflowProcessController, ∃ kWord hysteresisWord : UInt16,
    writes (c.setRegulatorParams tc params).trace =
      writes c.trace ++ [⟨kFactorAddr, [kWord, hysteresisWord]⟩] ∧
    (∀ q, doc.numberAt "k" = some q → (kWord.toNat : ℚ) = q) ∧
    (∀ q, doc.numberAt "hysteresis" = some q → (hysteresisWord.toNat : ℚ) = q)

/-- The parameters the words hold. -/
structure RegulatorFits (doc : Json) : Prop where
  k : ∀ q, doc.numberAt "k" = some q → Casts.Fits 16 q
  hysteresis : ∀ q, doc.numberAt "hysteresis" = some q → Casts.Fits 16 q

/-- A 32-bit word and its low half are both `q` exactly when `q` fits the half. -/
theorem toUInt16_carried_iff {word : UInt32} {q : ℚ}
    (hword : (word.toNat : ℚ) = q ↔ Casts.Fits 32 q) :
    (word.toUInt16.toNat : ℚ) = q ∧ (word.toNat : ℚ) = q ↔ Casts.Fits 16 q := by
  constructor
  · rintro ⟨hlow, -⟩
    exact ⟨word.toUInt16.toNat, word.toUInt16.toNat_lt, hlow.symm⟩
  · intro hfits
    have hstored := hword.mpr (hfits.mono (by decide))
    obtain ⟨n, hn, rfl⟩ := hfits
    have hnat : word.toNat = n := by exact_mod_cast hstored
    refine ⟨?_, hstored⟩
    rw [UInt32.toNat_toUInt16, hnat, Nat.mod_eq_of_lt hn]

/-- What a stage entry was converted to. -/
theorem toNat_eq_iff_of_parseStageField {lib : Libraries} {key : String} {item : Json}
    {word : UInt32} {q : ℚ}
    (h : RequestUtils.parseStageField lib key item = .ok (some word))
    (hq : item.numberAt key = some q) : (word.toNat : ℚ) = q ↔ Casts.Fits 32 q := by
  rcases RequestUtils.parseStageField_eq_some h with ⟨hnone, -⟩ | ⟨field, hfind, -, hget⟩
  · simp [Json.numberAt, hnone] at hq
  · rw [Json.numberAt, hfind] at hq
    exact Json.getUInt32_toNat_eq_iff hq hget

/-- A controller about to enter `stage`. -/
def enteringHolder (stage : StageItem) : PresetsHolder :=
  { PresetsHolder.make with objects := fun _ => ⟨"", ⟨[stage], 1, 0, Nat.le_refl 1⟩⟩ }

def enteringController : ReflowProcessController :=
  { ReflowProcessController.make 0 with activePreset := some 0 }

/-- The word a stage is entered with. -/
theorem getLast?_targetWords_entered {holder : PresetsHolder} {freed stage : StageItem}
    {c : ReflowProcessController} {ptr : PresetPtr} (hactive : c.activePreset = some ptr)
    (hitem : (holder.objects ptr).presetItems.items[c.reflowProcessData.activeStageIndex]?
      = some stage) :
    (targetWords (c.handleInitStep holder freed).state.trace).getLast? =
      some stage.temperatureStep.toUInt16 := by
  rw [handleInitStep_of_getElem? hactive hitem, Outcome.state_done, targetWords_entered,
    List.getLast?_concat]

/-- One stage is carried unchanged exactly when its numbers fit. -/
theorem stageCarried_iff {lib : Libraries} {item : Json} {stage : StageItem}
    (h : RequestUtils.parseStageItem lib item = .ok (some stage)) :
    StageCarried item stage ↔ StageFits item := by
  obtain ⟨temperatureStep, stageDuration, htemp, hdur, rfl⟩ :=
    RequestUtils.parseStageItem_eq_some h
  constructor
  · intro hcarried
    refine ⟨fun q hq => ?_, fun q hq => ?_⟩
    · -- the word is read off a controller that is about to enter the stage
      refine (toUInt16_carried_iff (toNat_eq_iff_of_parseStageField htemp hq)).mp
        ⟨?_, hcarried.temperature q hq⟩
      obtain ⟨word, hlast, hword⟩ := hcarried.target q hq (enteringHolder _) ⟨0, 0⟩
        enteringController 0 rfl rfl
      rw [getLast?_targetWords_entered rfl rfl, Option.some.injEq] at hlast
      rw [hlast]
      exact hword
    · refine (toNat_eq_iff_of_parseStageField hdur hq).mp ?_
      exact_mod_cast hcarried.duration q hq
  · intro hfits
    refine ⟨fun q hq => ?_, fun q hq => ?_, fun q hq holder freed c ptr hactive hitem => ?_⟩
    · exact ((toUInt16_carried_iff (toNat_eq_iff_of_parseStageField htemp hq)).mpr
        (hfits.temperature q hq)).2
    · have := (toNat_eq_iff_of_parseStageField hdur hq).mpr (hfits.duration q hq)
      exact_mod_cast this
    · exact ⟨_, getLast?_targetWords_entered hactive hitem,
        ((toUInt16_carried_iff (toNat_eq_iff_of_parseStageField htemp hq)).mpr
          (hfits.temperature q hq)).1⟩

/-- A float converted to a register word is unchanged exactly when it fits. -/
theorem toUInt16_toNat_eq_iff (tc : Toolchain) (q : ℚ) :
    ((tc.toUInt16 q).toNat : ℚ) = q ↔ Casts.Fits 16 q := by
  rw [Toolchain.toUInt16, UInt16.toNat_ofNat_of_lt' (Casts.ofRat_lt tc.undef 16 q),
    Casts.ofRat_eq_iff]

/-- The regulator parameters are carried unchanged exactly when they fit. -/
theorem regulatorCarried_iff {lib : Libraries} {doc hysteresisIt kCoefIt : Json}
    {params : RegulatorParams} (hhysteresis : doc.find "hysteresis" = some hysteresisIt)
    (hk : doc.find "k" = some kCoefIt)
    (hget : hysteresisIt.getUInt32 lib.toToolchain = .ok params.hysteresis)
    (hfloat : kCoefIt.getFloat = .ok params.k) :
    RegulatorCarried lib.toToolchain doc params ↔ RegulatorFits doc := by
  have hk_eq : ∀ q, doc.numberAt "k" = some q → params.k = q := by
    intro q hq
    rw [Json.numberAt, hk] at hq
    rw [Json.getFloat_of_number hq] at hfloat
    exact (Except.ok.inj hfloat).symm
  have hhysteresis_iff : ∀ q, doc.numberAt "hysteresis" = some q →
      ((params.hysteresis.toNat : ℚ) = q ↔ Casts.Fits 32 q) := by
    intro q hq
    rw [Json.numberAt, hhysteresis] at hq
    exact Json.getUInt32_toNat_eq_iff hq hget
  have hwrites : ∀ c : ReflowProcessController,
      writes (c.setRegulatorParams lib.toToolchain params).trace = writes c.trace ++
        [⟨kFactorAddr, [lib.toToolchain.toUInt16 params.k, params.hysteresis.toUInt16]⟩] := by
    intro c
    simp [setRegulatorParams]
  constructor
  · intro hcarried
    obtain ⟨kWord, hysteresisWord, htrace, hkWord, hhysteresisWord⟩ :=
      hcarried (ReflowProcessController.make 0)
    rw [hwrites] at htrace
    obtain ⟨rfl, rfl⟩ : lib.toToolchain.toUInt16 params.k = kWord ∧
        params.hysteresis.toUInt16 = hysteresisWord := by
      simpa using List.append_cancel_left htrace
    refine ⟨fun q hq => ?_, fun q hq => ?_⟩
    · have hword := hkWord q hq
      rw [← hk_eq q hq] at hword ⊢
      exact (toUInt16_toNat_eq_iff _ _).mp hword
    · exact ⟨_, UInt16.toNat_lt _, (hhysteresisWord q hq).symm⟩
  · intro hfits c
    refine ⟨_, _, hwrites c, fun q hq => ?_, fun q hq => ?_⟩
    · have hfit := hfits.k q hq
      rw [← hk_eq q hq] at hfit ⊢
      exact (toUInt16_toNat_eq_iff _ _).mpr hfit
    · exact ((toUInt16_carried_iff (hhysteresis_iff q hq)).mpr (hfits.hysteresis q hq)).1

/-- Two lists that correspond by `R`, on which `P` says of a pair what `Q` says of its left
component. -/
private theorem forall₂_iff_forall_mem {α β : Type*} {R P : α → β → Prop} {Q : α → Prop}
    (hPQ : ∀ a b, R a b → (P a b ↔ Q a)) {as : List α} {bs : List β}
    (h : List.Forall₂ R as bs) : List.Forall₂ P as bs ↔ ∀ a ∈ as, Q a := by
  induction h with
  | nil => simp
  | cons hab _ ih => simp [hPQ _ _ hab, ih]

/-- **Numbers reach the hardware unchanged exactly when they fit.** For a body accepted as a
stage list the temperatures have to be integers below `2 ^ 16` and the durations integers below
`2 ^ 32`, for one accepted as regulator parameters both have to be integers below `2 ^ 16`. -/
theorem numbers_carried_iff (lib : Libraries) :
    (∀ body doc stagesArray stages, lib.parse body = some doc →
      doc.find "stages" = some (.array stagesArray) →
      RequestUtils.parsePresetUpdateRequest lib body = .ok (.stages stages) →
      (List.Forall₂ StageCarried stagesArray stages ↔ ∀ item ∈ stagesArray, StageFits item)) ∧
    (∀ body doc params, lib.parse body = some doc →
      RequestUtils.parseRegulatorParams lib body = .ok (.ok params) →
      (RegulatorCarried lib.toToolchain doc params ↔ RegulatorFits doc)) := by
  constructor
  · intro body doc stagesArray stages hparse hstages haccepted
    obtain ⟨doc', stagesArray', hparse', hstages', hitems, -⟩ :=
      RequestUtils.parsePresetUpdateRequest_eq_stages haccepted
    obtain rfl := Option.some.inj (hparse.symm.trans hparse')
    obtain rfl := Json.array.inj (Option.some.inj (hstages.symm.trans hstages'))
    have hstage : ∀ item stage, RequestUtils.parseStageItem lib item = .ok (some stage) →
        (StageCarried item stage ↔ StageFits item) := fun _ _ hitem => stageCarried_iff hitem
    exact forall₂_iff_forall_mem hstage (RequestUtils.parseStageItems_eq_some hitems)
  · intro body doc params hparse haccepted
    obtain ⟨doc', hysteresisIt, kCoefIt, hparse', hhysteresis, hk, hget, hfloat⟩ :=
      RequestUtils.parseRegulatorParams_eq_ok haccepted
    obtain rfl := Option.some.inj (hparse.symm.trans hparse')
    exact regulatorCarried_iff hhysteresis hk hget hfloat

/-- A stage of `183` degrees for `30` seconds, and a regulator with `k = 1` and hysteresis `3`. -/
theorem numbers_carried_iff_lead :
    let item : Json := .object
      [("temperature", .numberUnsigned 183), ("duration", .numberUnsigned 30)]
    let stagesText := "\x7b\"stages\":[\x7b\"temperature\":183,\"duration\":30\x7d]\x7d"
    let stagesLib : Libraries := .sample [(stagesText, .object [("stages", .array [item])])]
    let regulator : Json := .object [("hysteresis", .numberUnsigned 3), ("k", .numberUnsigned 1)]
    let regulatorText := "\x7b\"hysteresis\":3,\"k\":1\x7d"
    let regulatorLib : Libraries := .sample [(regulatorText, regulator)]
    RequestUtils.parsePresetUpdateRequest stagesLib (asciiBytes stagesText) =
        .ok (.stages [⟨183, 30⟩]) ∧
      (List.Forall₂ StageCarried [item] [⟨183, 30⟩] ↔ ∀ item' ∈ [item], StageFits item') ∧
      RequestUtils.parseRegulatorParams regulatorLib (asciiBytes regulatorText) =
        .ok (.ok ⟨1, 3⟩) ∧
      (RegulatorCarried regulatorLib.toToolchain regulator ⟨1, 3⟩ ↔ RegulatorFits regulator) := by
  intro item stagesText stagesLib regulator regulatorText regulatorLib
  have hstages : RequestUtils.parsePresetUpdateRequest stagesLib (asciiBytes stagesText) =
      .ok (.stages [⟨183, 30⟩]) := by
    rw [RequestUtils.parsePresetUpdateRequest, Libraries.parse_sample]
    rfl
  have hregulator : RequestUtils.parseRegulatorParams regulatorLib (asciiBytes regulatorText) =
      .ok (.ok ⟨1, 3⟩) := by
    rw [RequestUtils.parseRegulatorParams, Libraries.parse_sample]
    rfl
  exact ⟨hstages,
    (numbers_carried_iff stagesLib).1 _ _ _ _ (Libraries.parse_sample _ _) rfl hstages, hregulator,
    (numbers_carried_iff regulatorLib).2 _ _ _ (Libraries.parse_sample _ _) hregulator⟩

/-- A temperature of `65736` is accepted and requests `200`. -/
theorem not_carried_above_uint16 :
    let item : Json := .object [("temperature", .numberUnsigned 65736)]
    let doc : Json := .object [("stages", .array [item])]
    let text := "\x7b\"stages\":[\x7b\"temperature\":65736\x7d]\x7d"
    RequestUtils.parsePresetUpdateRequest (.sample [(text, doc)]) (asciiBytes text) =
        .ok (.stages [⟨65736, 0⟩]) ∧
      targetWords (enteringController.handleInitStep (enteringHolder ⟨65736, 0⟩) ⟨0, 0⟩).state.trace
        = [200] ∧
      ¬ List.Forall₂ StageCarried [item] [⟨65736, 0⟩] := by
  intro item doc text
  have hwords : targetWords (enteringController.handleInitStep (enteringHolder ⟨65736, 0⟩)
      ⟨0, 0⟩).state.trace = [200] := by
    decide
  refine ⟨?_, hwords, fun hall => ?_⟩
  · rw [RequestUtils.parsePresetUpdateRequest, Libraries.parse_sample]
    rfl
  · obtain ⟨hcarried, -⟩ := List.forall₂_cons.mp hall
    obtain ⟨word, hlast, hword⟩ := hcarried.target 65736 rfl (enteringHolder ⟨65736, 0⟩) ⟨0, 0⟩
      enteringController 0 rfl rfl
    rw [hwords, List.getLast?_singleton, Option.some.injEq] at hlast
    rw [← hlast] at hword
    have hnat : (200 : UInt16).toNat = 65736 := by exact_mod_cast hword
    exact absurd hnat (by decide)

end ReflowTable

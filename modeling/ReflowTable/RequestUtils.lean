import ReflowTable.Json

/-!
# The request decoders

`request_utils.cpp`. The text parser of the JSON library and the URL decoding of the HTTP
framework are parameters; what the decoders make of a document is here. Each decoder has two
ways to turn a body down: its result type, and the exceptions of the JSON library.
-/

namespace ReflowTable

/-- The bytes of a request body. -/
abbrev Body := List UInt8

/-- The toolchain together with the libraries behind the HTTP interface. -/
structure Libraries extends Toolchain where
  /-- `nlohmann::json::parse`, `none` when it throws `parse_error`; a number literal that no
  double holds, for which it throws `out_of_range`, is not a text of the model -/
  parse : Body → Option Json
  /-- `drogon::utils::urlDecode` -/
  urlDecode : Body → Body

/-- The bytes of an ASCII text. -/
def asciiBytes (text : String) : Body := text.toList.map fun ch => .ofNat ch.toNat

/-- Libraries to run the model with: the parser knows these texts. -/
def Libraries.sample (docs : List (String × Json)) : Libraries where
  toToolchain := .sample
  parse body := (docs.find? fun doc => asciiBytes doc.1 = body).map Prod.snd
  urlDecode := id

@[simp] theorem Libraries.parse_sample (text : String) (doc : Json) :
    (Libraries.sample [(text, doc)]).parse (asciiBytes text) = some doc := by
  simp [sample]

namespace RequestUtils

variable (lib : Libraries)

/-! ## Stage lists -/

/-- One of the two optional entries of a stage: `none` when it is not a number. -/
def parseStageField (key : String) (item : Json) : Except JsonException (Option UInt32) :=
  match item.find key with
  | none => .ok (some 0)
  | some field => if !field.isNumber then .ok none else (field.getUInt32 lib.toToolchain).map some

/-- The body of the loop of `parseStagesArray`. -/
def parseStageItem (item : Json) : Except JsonException (Option StageItem) :=
  if !item.isObject then .ok none
  else do
    match ← parseStageField lib "temperature" item with
    | none => return none
    | some temperatureStep =>
      match ← parseStageField lib "duration" item with
      | none => return none
      | some stageDuration => return some ⟨temperatureStep, stageDuration.toNat⟩

/-- The loop of `parseStagesArray`. -/
def parseStageItems : List Json → Except JsonException (Option (List StageItem))
  | [] => .ok (some [])
  | item :: items => do
    match ← parseStageItem lib item with
    | none => return none
    | some stageItem => return (← parseStageItems items).map (stageItem :: ·)

def parseStagesArray (stagesArray : List Json) :
    Except JsonException (Option (List StageItem)) := do
  match ← parseStageItems lib stagesArray with
  | none => return none
  | some stagesContainer => return if stagesContainer.isEmpty then none else some stagesContainer

/-! ## Requests -/

/-- `TPresetRequestVariant`. -/
inductive PresetRequestVariant
  | name (itemName : String)
  | stages (stagesContainer : List StageItem)
  | monostate

def parsePresetUpdateRequest (requestBody : Body) :
    Except JsonException PresetRequestVariant :=
  match lib.parse requestBody with
  | none => .error .parseError
  | some ojsonObj =>
    if !ojsonObj.isObject then .ok .monostate
    else
      match ojsonObj.find "name" with
      | some it => it.getString.map .name
      | none =>
        match ojsonObj.find "stages" with
        | some (.array stagesArray) => do
          match ← parseStagesArray lib stagesArray with
          | some parseResult => return .stages parseResult
          | none => return .monostate
        | _ => .ok .monostate

def parsePresetName (requestBody : Body) : Except JsonException (Option String) :=
  match lib.parse requestBody with
  | none => .error .parseError
  | some jsonBody =>
    if !jsonBody.isObject then .ok none
    else
      match jsonBody.find "preset-name" with
      | some it => it.getString.map fun presetName =>
          if presetName.isEmpty then none else some presetName
      | none => .ok none

/-- Both entries are looked for before either is reported missing. -/
def parseRegulatorParams (requestBody : Body) :
    Except JsonException (Except String RegulatorParams) :=
  match lib.parse requestBody with
  | none => .error .parseError
  | some jsonBody =>
    if !jsonBody.isObject then
      .ok (.error "Expected object JSON type for the Regulator params")
    else
      match jsonBody.find "hysteresis", jsonBody.find "k" with
      | none, _ => .ok (.error "Missed hysteresis entry")
      | some _, none => .ok (.error "Missed 'k' entry")
      | some hysteresisIt, some kCoefIt => do
        let hysteresis ← hysteresisIt.getUInt32 lib.toToolchain
        let k ← kCoefIt.getFloat
        return .ok ⟨k, hysteresis⟩

/-! ## What an accepted body was -/

variable {lib}

/-- A stage entry that was accepted: absent, or a number. -/
theorem parseStageField_eq_some {key : String} {item : Json} {word : UInt32}
    (h : parseStageField lib key item = .ok (some word)) :
    (item.find key = none ∧ word = 0) ∨
      ∃ field, item.find key = some field ∧ field.isNumber = true ∧
        field.getUInt32 lib.toToolchain = .ok word := by
  unfold parseStageField at h
  cases hfind : item.find key with
  | none =>
    simp only [hfind] at h
    cases h
    exact .inl ⟨rfl, rfl⟩
  | some field =>
    simp only [hfind] at h
    cases hnumber : field.isNumber with
    | false => simp [hnumber] at h
    | true =>
      cases hget : field.getUInt32 lib.toToolchain with
      | error e => simp [hnumber, hget, Except.map] at h
      | ok w =>
        simp only [hnumber, hget, Except.map, Bool.not_true, Bool.false_eq_true, if_false,
          Except.ok.injEq, Option.some.injEq] at h
        subst h
        exact .inr ⟨field, rfl, hnumber, hget⟩

/-- A stage that was accepted. -/
theorem parseStageItem_eq_some {item : Json} {stageItem : StageItem}
    (h : parseStageItem lib item = .ok (some stageItem)) :
    ∃ temperatureStep stageDuration : UInt32,
      parseStageField lib "temperature" item = .ok (some temperatureStep) ∧
      parseStageField lib "duration" item = .ok (some stageDuration) ∧
      stageItem = ⟨temperatureStep, stageDuration.toNat⟩ := by
  unfold parseStageItem at h
  split_ifs at h
  · cases h
  · obtain ⟨temperature, htemp, h⟩ := bind_eq_ok_iff.mp h
    cases temperature with
    | none => cases h
    | some temperatureStep =>
      obtain ⟨duration, hdur, h⟩ := bind_eq_ok_iff.mp h
      cases duration with
      | none => cases h
      | some stageDuration =>
        cases h
        exact ⟨_, _, htemp, hdur, rfl⟩

/-- A stage list that was accepted, element by element. -/
theorem parseStageItems_eq_some {items : List Json} {stages : List StageItem}
    (h : parseStageItems lib items = .ok (some stages)) :
    List.Forall₂ (fun item stage => parseStageItem lib item = .ok (some stage)) items stages := by
  induction items generalizing stages with
  | nil =>
    cases h
    exact .nil
  | cons item items ih =>
    obtain ⟨parsed, hitem, h⟩ := bind_eq_ok_iff.mp h
    cases parsed with
    | none => cases h
    | some stage =>
      obtain ⟨rest, hrest, h⟩ := bind_eq_ok_iff.mp h
      cases rest with
      | none => cases h
      | some rest =>
        cases h
        exact .cons hitem (ih hrest)

/-- The empty list is not accepted. -/
theorem parseStagesArray_eq_some {stagesArray : List Json} {stages : List StageItem}
    (h : parseStagesArray lib stagesArray = .ok (some stages)) :
    parseStageItems lib stagesArray = .ok (some stages) ∧ stages ≠ [] := by
  obtain ⟨parsed, hitems, h⟩ := bind_eq_ok_iff.mp h
  cases parsed with
  | none => cases h
  | some stagesContainer =>
    cases stagesContainer with
    | nil => cases h
    | cons stage rest =>
      cases h
      exact ⟨hitems, List.cons_ne_nil _ _⟩

/-- A body that was accepted as a stage list. -/
theorem parsePresetUpdateRequest_eq_stages {body : Body} {stages : List StageItem}
    (h : parsePresetUpdateRequest lib body = .ok (.stages stages)) :
    ∃ doc stagesArray, lib.parse body = some doc ∧ doc.find "stages" = some (.array stagesArray) ∧
      parseStageItems lib stagesArray = .ok (some stages) ∧ stages ≠ [] := by
  unfold parsePresetUpdateRequest at h
  cases hparse : lib.parse body with
  | none => rw [hparse] at h; cases h
  | some doc =>
    simp only [hparse] at h
    split_ifs at h
    · cases h
    · cases hname : doc.find "name" with
      | some it =>
        simp only [hname] at h
        cases hstring : it.getString <;> rw [hstring] at h <;> cases h
      | none =>
        simp only [hname] at h
        split at h
        · next stagesArray hstages =>
          obtain ⟨parseResult, harray, h⟩ := bind_eq_ok_iff.mp h
          cases parseResult with
          | none => cases h
          | some container =>
            cases h
            obtain ⟨hitems, hne⟩ := parseStagesArray_eq_some harray
            exact ⟨doc, stagesArray, rfl, hstages, hitems, hne⟩
        · cases h

/-- A body that was accepted as regulator parameters. -/
theorem parseRegulatorParams_eq_ok {body : Body} {params : RegulatorParams}
    (h : parseRegulatorParams lib body = .ok (.ok params)) :
    ∃ doc hysteresisIt kCoefIt, lib.parse body = some doc ∧
      doc.find "hysteresis" = some hysteresisIt ∧ doc.find "k" = some kCoefIt ∧
      hysteresisIt.getUInt32 lib.toToolchain = .ok params.hysteresis ∧
      kCoefIt.getFloat = .ok params.k := by
  unfold parseRegulatorParams at h
  cases hparse : lib.parse body with
  | none => rw [hparse] at h; cases h
  | some doc =>
    simp only [hparse] at h
    split_ifs at h
    · cases h
    · split at h
      · cases h
      · cases h
      · next hysteresisIt kCoefIt hhysteresis hk =>
        obtain ⟨hysteresis, hget, h⟩ := bind_eq_ok_iff.mp h
        obtain ⟨k, hfloat, h⟩ := bind_eq_ok_iff.mp h
        cases h
        exact ⟨doc, _, _, rfl, hhysteresis, hk, hget, hfloat⟩

end RequestUtils

end ReflowTable

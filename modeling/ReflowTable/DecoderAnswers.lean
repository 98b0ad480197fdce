import ReflowTable.StageLists

/-!
# What the request decoders report

Each decoder has an empty value or an error text for a bad body, and tests `is_discarded`, but
`parse` is called in the form that throws and `get` throws on a value of another type. So a bad
body is reported where a test of the decoder's own turns it down, and raised elsewhere.
-/

namespace ReflowTable

namespace Json

def isString : Json → Bool
  | string _ => true
  | _ => false

end Json

namespace RequestUtils

/-- A body that is no JSON, is no object, or has an entry of the wrong type. -/
def BadDocument (keys : List String) (ofType : Json → Bool) (document : Option Json) : Prop :=
  ∀ doc, document = some doc → doc.isObject = true →
    ∃ key ∈ keys, ∃ it, doc.find key = some it ∧ ofType it = false

theorem not_badDocument {keys : List String} {ofType : Json → Bool} {document : Option Json}
    {doc : Json} (hdoc : document = some doc) (hobject : doc.isObject = true)
    (htypes : ∀ key ∈ keys, ∀ it, doc.find key = some it → ofType it = true) :
    ¬ BadDocument keys ofType document := by
  intro hbad
  obtain ⟨key, hkey, it, hit, htype⟩ := hbad doc hdoc hobject
  rw [htypes key hkey it hit] at htype
  cases htype

/-- A document with one entry to look at. -/
theorem not_badDocument_singleton {key : String} {ofType : Json → Bool} {document : Option Json}
    {doc : Json} (hdoc : document = some doc) (hobject : doc.isObject = true)
    (htype : ∀ it, doc.find key = some it → ofType it = true) :
    ¬ BadDocument [key] ofType document := by
  apply not_badDocument hdoc hobject
  intro key' hkey it hit
  rw [List.mem_singleton.mp hkey] at hit
  exact htype it hit

/-- A decoder reports bad bodies through its result: it returns whatever the body is, it rejects
the bad ones, and what else it returns was read from the entries of an object. -/
structure Reports {α : Type} (document : Option Json) (answer : Except JsonException α)
    (bad : Option Json → Prop) (rejection : α → Prop) (readFrom : Json → α → Prop) : Prop where
  returns : ∃ result, answer = .ok result
  rejects : bad document → ∀ result, answer = .ok result → rejection result
  typed : ∀ result, answer = .ok result → ¬ rejection result →
    ∃ doc, document = some doc ∧ doc.isObject = true ∧ readFrom doc result

section

variable {α : Type} {document : Option Json} {answer : Except JsonException α}
  {bad : Option Json → Prop} {rejection : α → Prop} {readFrom : Json → α → Prop}

theorem Reports.not_of_error {e : JsonException} (h : answer = .error e) :
    ¬ Reports document answer bad rejection readFrom := by
  intro hreports
  obtain ⟨result, hresult⟩ := hreports.returns
  rw [h] at hresult
  cases hresult

theorem Reports.of_rejection {result : α} (h : answer = .ok result) (hreject : rejection result) :
    Reports document answer bad rejection readFrom where
  returns := ⟨result, h⟩
  rejects := by
    intro _ result' h'
    rw [h] at h'
    cases h'
    exact hreject
  typed := by
    intro result' h' hnot
    rw [h] at h'
    cases h'
    exact absurd hreject hnot

theorem Reports.of_typed {result : α} {doc : Json} (h : answer = .ok result)
    (hdoc : document = some doc) (hobject : doc.isObject = true) (hgood : ¬ bad document)
    (hread : readFrom doc result) : Reports document answer bad rejection readFrom where
  returns := ⟨result, h⟩
  rejects := fun hbad => absurd hbad hgood
  typed := by
    intro result' h' _
    rw [h] at h'
    cases h'
    exact ⟨doc, hdoc, hobject, hread⟩

end

/-! ## The three decoders -/

variable (lib : Libraries) (body : Body)

/-- What an update request was read from: the name, or else the stages. -/
def UpdateReadFrom (doc : Json) : PresetRequestVariant → Prop
  | .name itemName => doc.find "name" = some (.string itemName)
  | .stages stagesContainer => doc.find "name" = none ∧
      ∃ stagesArray, doc.find "stages" = some (.array stagesArray) ∧
        (∀ item ∈ stagesArray, item.isStage = true) ∧
        stagesContainer = stagesArray.map (Json.stageItem lib.toToolchain)
  | .monostate => False

def UpdateReported : Prop :=
  Reports (lib.parse body) (parsePresetUpdateRequest lib body)
    (BadDocument ["name"] Json.isString) (· = .monostate) (UpdateReadFrom lib)

def NameReported : Prop :=
  Reports (lib.parse body) (parsePresetName lib body)
    (BadDocument ["preset-name"] Json.isString) (· = none)
    fun doc result => ∃ presetName, result = some presetName ∧
      doc.find "preset-name" = some (.string presetName)

def RegulatorReported : Prop :=
  Reports (lib.parse body) (parseRegulatorParams lib body)
    (BadDocument ["hysteresis", "k"] Json.isNumber) (fun result => ∃ text, result = .error text)
    fun doc result => ∃ params hysteresisIt kCoefIt, result = .ok params ∧
      doc.find "hysteresis" = some hysteresisIt ∧ hysteresisIt.isNumber = true ∧
      doc.find "k" = some kCoefIt ∧ kCoefIt.isNumber = true ∧
      hysteresisIt.getUInt32 lib.toToolchain = .ok params.hysteresis ∧
      kCoefIt.getFloat = .ok params.k

/-- Malformed text leaves every decoder as a `parse_error`. -/
theorem parse_thrown (hparse : lib.parse body = none) :
    parsePresetUpdateRequest lib body = .error .parseError ∧
      parsePresetName lib body = .error .parseError ∧
      parseRegulatorParams lib body = .error .parseError := by
  rw [parsePresetUpdateRequest, parsePresetName, parseRegulatorParams, hparse]
  exact ⟨rfl, rfl, rfl⟩

variable {lib body}

section

variable {doc : Json} (hparse : lib.parse body = some doc)
include hparse

theorem updateReported_of_parse :
    UpdateReported lib body ↔ ∀ it, doc.find "name" = some it → it.isString = true := by
  cases hname : doc.find "name" with
  | some it =>
    have hanswer := parsePresetUpdateRequest_of_name hparse hname
    have hobject := Json.isObject_of_find hname
    cases it with
    | string itemName =>
      have htype : ∀ it, some (Json.string itemName) = some it → it.isString = true := by
        intro it hit
        cases hit
        rfl
      refine iff_of_true (Reports.of_typed hanswer hparse hobject ?_ hname) htype
      exact not_badDocument_singleton hparse hobject (hname ▸ htype)
    | _ =>
      refine iff_of_false (Reports.not_of_error hanswer) fun h => ?_
      have := h _ rfl
      cases this
  | none =>
    refine iff_of_true ?_ fun _ hit => by cases hit
    by_cases hstages : ∃ stagesArray, doc.find "stages" = some (.array stagesArray)
    · obtain ⟨stagesArray, hstages⟩ := hstages
      have hanswer := parsePresetUpdateRequest_of_stages hparse hname hstages
      split_ifs at hanswer with haccepted
      · have hobject := Json.isObject_of_find hstages
        refine Reports.of_typed hanswer hparse hobject ?_
          ⟨hname, stagesArray, hstages, haccepted.2, rfl⟩
        apply not_badDocument_singleton hparse hobject
        intro it hit
        rw [hname] at hit
        cases hit
      · exact Reports.of_rejection hanswer rfl
    · refine Reports.of_rejection (parsePresetUpdateRequest_of_neither hparse hname ?_) rfl
      exact fun stagesArray heq => hstages ⟨stagesArray, heq⟩

theorem nameReported_of_parse :
    NameReported lib body ↔ ∀ it, doc.find "preset-name" = some it → it.isString = true := by
  cases hname : doc.find "preset-name" with
  | none =>
    have hanswer := parsePresetName_of_none hparse hname
    exact iff_of_true (Reports.of_rejection hanswer rfl) fun _ hit => by cases hit
  | some it =>
    have hobject := Json.isObject_of_find hname
    have hanswer := parsePresetName_of_name hparse hname
    cases it with
    | string presetName =>
      have htype : ∀ it, some (Json.string presetName) = some it → it.isString = true := by
        intro it hit
        cases hit
        rfl
      refine iff_of_true ?_ htype
      by_cases hempty : presetName.isEmpty = true
      · refine Reports.of_rejection (hanswer.trans ?_) rfl
        simp [Json.getString, Except.map, hempty]
      · refine Reports.of_typed (hanswer.trans ?_) hparse hobject ?_ ⟨presetName, rfl, hname⟩
        · simp [Json.getString, Except.map, hempty]
        · exact not_badDocument_singleton hparse hobject (hname ▸ htype)
    | _ =>
      refine iff_of_false (Reports.not_of_error hanswer) fun h => ?_
      have := h _ rfl
      cases this

/-- No object, or an entry is missing: the text says which. -/
theorem parseRegulatorParams_of_missing
    (hmissing : doc.find "hysteresis" = none ∨ doc.find "k" = none) :
    ∃ text, parseRegulatorParams lib body = .ok (.error text) := by
  simp only [parseRegulatorParams, hparse]
  split_ifs
  · exact ⟨_, rfl⟩
  · split
    · exact ⟨_, rfl⟩
    · exact ⟨_, rfl⟩
    · next hysteresisIt kCoefIt hhysteresis hk =>
      rw [hhysteresis, hk] at hmissing
      obtain h | h := hmissing <;> cases h

section

variable {hysteresisIt kCoefIt : Json} (hhysteresis : doc.find "hysteresis" = some hysteresisIt)
  (hk : doc.find "k" = some kCoefIt)
include hhysteresis hk

theorem parseRegulatorParams_of_both :
    parseRegulatorParams lib body = (do
      let hysteresis ← hysteresisIt.getUInt32 lib.toToolchain
      let k ← kCoefIt.getFloat
      return .ok ⟨k, hysteresis⟩) := by
  have hobject := Json.isObject_of_find hk
  simp [parseRegulatorParams, hparse, hobject, hhysteresis, hk]

theorem regulatorReported_of_isNumber (hnumber : hysteresisIt.isNumber = true)
    (hnumber' : kCoefIt.isNumber = true) : RegulatorReported lib body := by
  have hobject := Json.isObject_of_find hk
  obtain ⟨hysteresis, hget⟩ := Json.getUInt32_of_isNumber lib.toToolchain hnumber
  obtain ⟨k, hfloat⟩ := Json.getFloat_of_isNumber hnumber'
  have hok : parseRegulatorParams lib body = .ok (.ok ⟨k, hysteresis⟩) := by
    rw [parseRegulatorParams_of_both hparse hhysteresis hk, hget, hfloat]
    rfl
  refine Reports.of_typed hok hparse hobject ?_
    ⟨_, _, _, rfl, hhysteresis, hnumber, hk, hnumber', hget, hfloat⟩
  apply not_badDocument hparse hobject
  intro key hkey it hit
  simp only [List.mem_cons, List.not_mem_nil, or_false] at hkey
  obtain rfl | rfl := hkey
  · rw [hhysteresis] at hit
    cases hit
    exact hnumber
  · rw [hk] at hit
    cases hit
    exact hnumber'

/-- Whatever is returned was accepted, so the entries were numbers. -/
theorem isNumber_of_regulatorReported (hreports : RegulatorReported lib body) :
    hysteresisIt.isNumber = true ∧ kCoefIt.isNumber = true := by
  obtain ⟨result, hresult⟩ := hreports.returns
  have hok := hresult
  rw [parseRegulatorParams_of_both hparse hhysteresis hk] at hok
  obtain ⟨hysteresis, -, hok⟩ := bind_eq_ok_iff.mp hok
  obtain ⟨k, -, hok⟩ := bind_eq_ok_iff.mp hok
  cases hok
  have haccepted : ¬ ∃ text, (Except.ok (RegulatorParams.mk k hysteresis) :
      Except String RegulatorParams) = .error text := by
    rintro ⟨_, ⟨⟩⟩
  obtain ⟨doc', hdoc', -, _, _, _, -, hfind, hnumber, hfind', hnumber', -⟩ :=
    hreports.typed _ hresult haccepted
  obtain rfl := Option.some.inj (hparse.symm.trans hdoc')
  rw [hhysteresis] at hfind
  rw [hk] at hfind'
  cases hfind
  cases hfind'
  exact ⟨hnumber, hnumber'⟩

end

/-- A missing entry is reported before the other one is looked at. -/
theorem regulatorReported_of_parse :
    RegulatorReported lib body ↔ ∀ hysteresisIt kCoefIt,
      doc.find "hysteresis" = some hysteresisIt → doc.find "k" = some kCoefIt →
      hysteresisIt.isNumber = true ∧ kCoefIt.isNumber = true := by
  constructor
  · intro hreports hysteresisIt kCoefIt hhysteresis hk
    exact isNumber_of_regulatorReported hparse hhysteresis hk hreports
  · intro htypes
    by_cases hmissing : doc.find "hysteresis" = none ∨ doc.find "k" = none
    · obtain ⟨text, hanswer⟩ := parseRegulatorParams_of_missing hparse hmissing
      exact Reports.of_rejection hanswer ⟨text, rfl⟩
    · rw [not_or, ← ne_eq, ← ne_eq, Option.ne_none_iff_exists', Option.ne_none_iff_exists']
        at hmissing
      obtain ⟨⟨hysteresisIt, hhysteresis⟩, kCoefIt, hk⟩ := hmissing
      obtain ⟨hnumber, hnumber'⟩ := htypes _ _ hhysteresis hk
      exact regulatorReported_of_isNumber hparse hhysteresis hk hnumber hnumber'

end

/-- No decoder reports malformed text. -/
theorem reported_iff_exists_parse {reported : Prop} {good : Json → Prop}
    (hthrown : lib.parse body = none → ¬ reported)
    (hparsed : ∀ doc, lib.parse body = some doc → (reported ↔ good doc)) :
    reported ↔ ∃ doc, lib.parse body = some doc ∧ good doc := by
  cases hparse : lib.parse body with
  | none => exact iff_of_false (hthrown hparse) fun ⟨_, h, _⟩ => by cases h
  | some doc =>
    rw [hparsed doc hparse]
    exact ⟨fun h => ⟨doc, rfl, h⟩, fun ⟨_, heq, h⟩ => Option.some.inj heq ▸ h⟩

/-- **Each decoder reports a body through its result exactly when the body is JSON and its own
entries have the types asked of them**: a `name` or `preset-name` is a string, and `hysteresis`
and `k` are numbers where both are there. -/
theorem decoders_report_iff (lib : Libraries) (body : Body) :
    (UpdateReported lib body ↔ ∃ doc, lib.parse body = some doc ∧
      ∀ it, doc.find "name" = some it → it.isString = true) ∧
    (NameReported lib body ↔ ∃ doc, lib.parse body = some doc ∧
      ∀ it, doc.find "preset-name" = some it → it.isString = true) ∧
    (RegulatorReported lib body ↔ ∃ doc, lib.parse body = some doc ∧
      ∀ hysteresisIt kCoefIt, doc.find "hysteresis" = some hysteresisIt →
        doc.find "k" = some kCoefIt → hysteresisIt.isNumber = true ∧ kCoefIt.isNumber = true) := by
  refine ⟨?_, ?_, ?_⟩
  · apply reported_iff_exists_parse
    · intro hparse
      exact Reports.not_of_error (parse_thrown lib body hparse).1
    · exact fun doc hparse => updateReported_of_parse hparse
  · apply reported_iff_exists_parse
    · intro hparse
      exact Reports.not_of_error (parse_thrown lib body hparse).2.1
    · exact fun doc hparse => nameReported_of_parse hparse
  · apply reported_iff_exists_parse
    · intro hparse
      exact Reports.not_of_error (parse_thrown lib body hparse).2.2
    · exact fun doc hparse => regulatorReported_of_parse hparse

/-- Malformed text raises a `parse_error` in all three decoders, entries of another type raise a
`type_error`, and a boolean is accepted for a number. -/
theorem decoders_not_reported :
    let badText := "\x7b\"name\""
    let typesText := "\x7b\"name\":5,\"preset-name\":5,\"hysteresis\":\"3\",\"k\":1\x7d"
    let types : Libraries := .sample [(typesText, .object [("name", .numberUnsigned 5),
      ("preset-name", .numberUnsigned 5), ("hysteresis", .string "3"), ("k", .numberUnsigned 1)])]
    let boolText := "\x7b\"hysteresis\":true,\"k\":1\x7d"
    let bool : Libraries := .sample
      [(boolText, .object [("hysteresis", .boolean true), ("k", .numberUnsigned 1)])]
    (parsePresetUpdateRequest types (asciiBytes badText) = .error .parseError ∧
      parsePresetName types (asciiBytes badText) = .error .parseError ∧
      parseRegulatorParams types (asciiBytes badText) = .error .parseError) ∧
    (parsePresetUpdateRequest types (asciiBytes typesText) = .error .typeError ∧
      parsePresetName types (asciiBytes typesText) = .error .typeError ∧
      parseRegulatorParams types (asciiBytes typesText) = .error .typeError) ∧
    parseRegulatorParams bool (asciiBytes boolText) = .ok (.ok ⟨1, 1⟩) ∧
    ¬ ∀ body, UpdateReported types body ∧ NameReported types body ∧
      RegulatorReported types body := by
  intro badText typesText types boolText bool
  have hbad : types.parse (asciiBytes badText) = none :=
    Option.isNone_iff_eq_none.mp (by decide +kernel)
  have hthrown := parse_thrown types (asciiBytes badText) hbad
  refine ⟨hthrown, ⟨?_, ?_, ?_⟩, ?_, fun hall => ?_⟩
  · rw [parsePresetUpdateRequest, Libraries.parse_sample]
    rfl
  · rw [parsePresetName, Libraries.parse_sample]
    rfl
  · rw [parseRegulatorParams, Libraries.parse_sample]
    rfl
  · rw [parseRegulatorParams, Libraries.parse_sample]
    rfl
  · exact Reports.not_of_error hthrown.1 (hall (asciiBytes badText)).1

end RequestUtils

end ReflowTable

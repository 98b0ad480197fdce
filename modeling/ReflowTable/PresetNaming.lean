import ReflowTable.Handlers
import ReflowTable.Lib.JsonText
import ReflowTable.PresetNames
import ReflowTable.StageLists

/-!
# Names of created and of renamed presets

`CreatePreset` decodes the body as form data before it reads the JSON text, and does not accept
the empty name; `UpdatePreset` does neither. So the two treat a name alike exactly when it is not
empty and the form decoding leaves it as it is, and an update is the one way to a preset without
a name.
-/

namespace ReflowTable

open JsonText (memberBody)

/-- What the handlers rely on of the JSON parser and of `drogon::utils::urlDecode`. -/
structure StandardTexts (lib : Libraries) : Prop where
  urlDecode : lib.urlDecode = UrlEncoding.decode
  /-- an object with one string member is read as such -/
  parse_member : ∀ key name, lib.parse (memberBody key name) = some (.object [(key, .string name)])
  /-- no text with the same member is shorter -/
  le_length : ∀ {body doc key name}, lib.parse body = some doc →
    doc.find key = some (.string name) → (memberBody key name).length ≤ body.length

/-- Names that come through the form decoding as they are, and are not empty. -/
structure PlainName (name : String) : Prop where
  ne_empty : name ≠ ""
  no_plus : '+' ∉ name.toList
  no_escape : UrlEncoding.unicode.hasEscape name.toList = false

namespace PresetsHolder

/-- Every stored preset has a name. -/
def AllNamed (h : PresetsHolder) : Prop :=
  ∀ id ptr, h.presetsStorage.lookup id = some ptr → (h.objects ptr).presetName ≠ ""

variable {h : PresetsHolder}

theorem allNamed_make : AllNamed .make := by
  intro id ptr hl
  simp [PresetsHolder.make] at hl

theorem AllNamed.addsOne {h' : PresetsHolder} {name : String} {id : UInt64} (hall : h.AllNamed)
    (hname : name ≠ "") (hadds : AddsOne name id h h') : h'.AllNamed := by
  intro id' ptr hl
  by_cases hid : id' = id
  · obtain ⟨ptr', hl', hnew⟩ := hadds.added
    rw [hid, hl', Option.some.injEq] at hl
    rw [← hl, hnew]
    exact hname
  · rw [hadds.others id' hid] at hl
    rw [hadds.kept id' ptr hl]
    exact hall id' ptr hl

/-- A change of one preset concerns its name only. -/
theorem AllNamed.modify_iff {id : UInt64} {ptr : PresetPtr} (hall : h.AllNamed)
    (hl : h.presetsStorage.lookup id = some ptr) (f : Preset → Preset) :
    (h.modify ptr f).AllNamed ↔ (f (h.objects ptr)).presetName ≠ "" := by
  constructor
  · intro hmodified
    have hname := hmodified id ptr hl
    rwa [objects_modify_self] at hname
  · intro hname id' other hl'
    by_cases hne : other = ptr
    · rw [hne, objects_modify_self]
      exact hname
    · rw [objects_modify_of_ne f h hne]
      exact hall id' other hl'

end PresetsHolder

namespace Server

open RequestUtils

variable (lib : Libraries)

/-- `{"preset-name": name}`. -/
def createBody (name : String) : Body := memberBody "preset-name" name

/-- `{"name": name}`. -/
def renameBody (name : String) : Body := memberBody "name" name

/-- `CreatePreset` answers with success. -/
def CreateAccepts (s : Server) (body : Body) : Prop :=
  ∃ response, (s.createPreset lib body).1 = .ok response ∧ response.statusCode = k200OK

/-- `CreatePreset` answers with the id of a preset of this name. -/
def Creates (s : Server) (body : Body) (presetName : String) : Prop :=
  ∃ id ptr, (s.createPreset lib body).1 =
      .ok ⟨k200OK, .json (.object [("preset-id", .numberUnsigned id)])⟩ ∧
    (s.createPreset lib body).2.presetsHolder.presetsStorage.lookup id = some ptr ∧
    ((s.createPreset lib body).2.presetsHolder.objects ptr).presetName = presetName

/-- `UpdatePreset` takes the body for a name, sets it and answers. -/
def UpdateRenames (s : Server) (presetId : String) (body : Body) : Prop :=
  (∃ itemName, parsePresetUpdateRequest lib body = .ok (.name itemName)) ∧
    (s.updatePreset lib presetId body).1 = .ok .ok

/-- Creating and renaming treat the name alike, and take it as it is. -/
structure NamedAlike (s : Server) (presetId : String) (ptr : PresetPtr) (name : String) : Prop where
  accepted_iff : s.CreateAccepts lib (createBody name) ↔
    s.UpdateRenames lib presetId (renameBody name)
  created : s.CreateAccepts lib (createBody name) → s.Creates lib (createBody name) name
  renamed : s.UpdateRenames lib presetId (renameBody name) →
    ((s.updatePreset lib presetId (renameBody name)).2.presetsHolder.objects ptr).presetName = name

/-- An update that gives a stored preset the empty name. -/
def ClearsName (s : Server) : Event → Prop
  | .request (.updatePreset presetId body) =>
    s.presetsHolder.presetsStorage.lookup (pathId presetId) ≠ none ∧
      ∃ doc, lib.parse body = some doc ∧ doc.find "name" = some (.string "")
  | _ => False

variable {lib} {s : Server}

/-! ## Creating -/

theorem step_createPreset (body : Body) :
    (service lib).step s (.request (.createPreset body)) = (s.createPreset lib body).2 := rfl

theorem createPreset_of_free {body : Body} {presetName : String}
    (hparse : parsePresetName lib (lib.urlDecode body) = .ok (some presetName))
    (hfree : s.presetsHolder.presetsStorage.lookup (lib.hash presetName) = none) :
    s.createPreset lib body =
      (.ok ⟨k200OK, .json (.object [("preset-id", .numberUnsigned (lib.hash presetName))])⟩,
        { s with
          presetsHolder :=
            s.presetsHolder.insertNew (lib.hash presetName) (.make presetName) hfree }) := by
  simp only [createPreset, hparse, PresetsHolder.addNewPreset_of_free hfree]

theorem creates_of_free {body : Body} {presetName : String}
    (hparse : parsePresetName lib (lib.urlDecode body) = .ok (some presetName))
    (hfree : s.presetsHolder.presetsStorage.lookup (lib.hash presetName) = none) :
    s.Creates lib body presetName := by
  have hadds : PresetsHolder.AddsOne presetName _ _ _ := PresetsHolder.addsOne_insertNew hfree
  obtain ⟨ptr, hl, hnew⟩ := hadds.added
  rw [Creates, createPreset_of_free hparse hfree]
  exact ⟨_, ptr, rfl, hl, congrArg Preset.presetName hnew⟩

/-- The created preset has one name. -/
theorem Creates.unique {body : Body} {name name' : String} (h : s.Creates lib body name)
    (h' : s.Creates lib body name') : name = name' := by
  obtain ⟨id, ptr, hanswer, hl, hname⟩ := h
  obtain ⟨id', ptr', hanswer', hl', hname'⟩ := h'
  rw [hanswer] at hanswer'
  cases hanswer'
  rw [hl] at hl'
  cases hl'
  rw [← hname, hname']

theorem createAccepts_iff {body : Body} :
    s.CreateAccepts lib body ↔ ∃ presetName,
      parsePresetName lib (lib.urlDecode body) = .ok (some presetName) ∧
        s.presetsHolder.presetsStorage.lookup (lib.hash presetName) = none := by
  constructor
  · rintro ⟨response, hanswer, hstatus⟩
    unfold createPreset at hanswer
    split at hanswer
    · cases hanswer
    · cases hanswer
      exact absurd hstatus (by decide)
    · next presetName hparse =>
      refine ⟨presetName, hparse, ?_⟩
      by_contra htaken
      rw [PresetsHolder.addNewPreset_of_taken htaken] at hanswer
      cases hanswer
  · rintro ⟨presetName, hparse, hfree⟩
    rw [CreateAccepts, createPreset_of_free hparse hfree]
    exact ⟨_, rfl, rfl⟩

/-! ## Renaming -/

theorem parse_renameBody (hlib : StandardTexts lib) (name : String) :
    parsePresetUpdateRequest lib (renameBody name) = .ok (.name name) :=
  parsePresetUpdateRequest_of_name (hlib.parse_member "name" name) rfl

/-- Every name is accepted for a stored preset. -/
theorem updateRenames_renameBody (hlib : StandardTexts lib) {presetId : String} {ptr : PresetPtr}
    (hl : s.presetsHolder.presetsStorage.lookup (pathId presetId) = some ptr) (name : String) :
    s.UpdateRenames lib presetId (renameBody name) ∧
      ((s.updatePreset lib presetId (renameBody name)).2.presetsHolder.objects ptr).presetName =
        name := by
  have hparse := parse_renameBody hlib name
  have hupdate := updatePreset_of_lookup hl hparse
  rw [UpdateRenames, hupdate]
  refine ⟨⟨⟨name, hparse⟩, rfl⟩, ?_⟩
  show ((s.presetsHolder.modify ptr (·.setName name)).objects ptr).presetName = name
  rw [PresetsHolder.objects_modify_self]
  rfl

/-! ## The names that are treated alike -/

theorem map_spaced_eq_self_iff {name : String} :
    name.map UrlEncoding.spaced = name ↔ '+' ∉ name.toList := by
  have hplus : ∀ c : Char, UrlEncoding.spaced c = c ↔ c ≠ '+' := by
    intro c
    unfold UrlEncoding.spaced
    split_ifs with hc
    · rw [hc]
      decide
    · exact iff_of_true rfl hc
  have hmap := List.map_inj_left (l := name.toList) (f := UrlEncoding.spaced) (g := id)
  rw [List.map_id] at hmap
  rw [← String.toList_inj, String.toList_map, hmap]
  simp only [id_eq, hplus]
  exact ⟨fun h hmem => h '+' hmem rfl, fun h c hmem hc => h (hc ▸ hmem)⟩

theorem map_spaced_isEmpty (name : String) :
    (name.map UrlEncoding.spaced).isEmpty = name.isEmpty := by
  rw [Bool.eq_iff_iff, String.isEmpty_iff, String.isEmpty_iff, String.map_eq_empty]

/-- Without escapes `CreatePreset` takes the name with its plus signs replaced. -/
theorem parse_createBody (hlib : StandardTexts lib) {name : String}
    (hescape : UrlEncoding.unicode.hasEscape name.toList = false) :
    parsePresetName lib (lib.urlDecode (createBody name)) =
      .ok (if name.isEmpty then none else some (name.map UrlEncoding.spaced)) := by
  have hbody : lib.urlDecode (createBody name) = createBody (name.map UrlEncoding.spaced) := by
    have hkey : UrlEncoding.unicode.hasEscape "preset-name".toList = false := by decide
    have hdecode := JsonText.decode_memberBody hkey hescape
    rw [map_spaced_eq_self_iff.mpr (by decide)] at hdecode
    rw [hlib.urlDecode]
    exact hdecode
  rw [hbody, ← map_spaced_isEmpty]
  exact parsePresetName_of_name (hlib.parse_member "preset-name" _) rfl

/-- A name with an escape is not the name a preset is created with. -/
theorem not_creates_of_hasEscape (hlib : StandardTexts lib) {name : String}
    (hescape : UrlEncoding.unicode.hasEscape name.toList = true) :
    ¬ (s.CreateAccepts lib (createBody name) ∧ s.Creates lib (createBody name) name) := by
  rintro ⟨haccepts, hcreates⟩
  obtain ⟨presetName, hparse, hfree⟩ := createAccepts_iff.mp haccepts
  have hname : presetName = name := (creates_of_free hparse hfree).unique hcreates
  obtain ⟨-, doc, hdoc, hfind⟩ := parsePresetName_eq_some hparse
  have hle := hlib.le_length hdoc hfind
  have hlt := JsonText.length_decode_memberBody_lt "preset-name" hescape
  rw [hlib.urlDecode, hname] at hle
  exact Nat.not_lt.mpr hle hlt

/-- **Which names are treated alike.** -/
theorem namedAlike_iff (hlib : StandardTexts lib) {presetId : String} {ptr : PresetPtr}
    {name : String} (hl : s.presetsHolder.presetsStorage.lookup (pathId presetId) = some ptr)
    (hfree : s.presetsHolder.presetsStorage.lookup (lib.hash name) = none) :
    s.NamedAlike lib presetId ptr name ↔ PlainName name := by
  obtain ⟨hrenames, hrenamed⟩ := updateRenames_renameBody hlib hl name
  constructor
  · intro halike
    have haccepts := halike.accepted_iff.mpr hrenames
    have hcreates := halike.created haccepts
    have hescape : UrlEncoding.unicode.hasEscape name.toList = false := by
      rw [← Bool.not_eq_true]
      intro hescape
      exact not_creates_of_hasEscape hlib hescape ⟨haccepts, hcreates⟩
    obtain ⟨presetName, hparse, hfree'⟩ := createAccepts_iff.mp haccepts
    have hname : presetName = name := (creates_of_free hparse hfree').unique hcreates
    have hspaced := parse_createBody hlib hescape
    rw [hparse, Except.ok.injEq] at hspaced
    split_ifs at hspaced with hempty
    rw [Option.some.injEq, hname] at hspaced
    exact ⟨hname ▸ (parsePresetName_eq_some hparse).1, map_spaced_eq_self_iff.mp hspaced.symm,
      hescape⟩
  · intro hplain
    have hparse := parse_createBody hlib hplain.no_escape
    have hempty : ¬ name.isEmpty = true := by
      rw [String.isEmpty_iff]
      exact hplain.ne_empty
    rw [map_spaced_eq_self_iff.mpr hplain.no_plus, if_neg hempty] at hparse
    have hcreates := creates_of_free hparse hfree
    have haccepts := createAccepts_iff.mpr ⟨name, hparse, hfree⟩
    exact ⟨iff_of_true haccepts hrenames, fun _ => hcreates, fun _ => hrenamed⟩

/-! ## Presets without a name -/

open PresetsHolder (AllNamed)

theorem allNamed_createPreset (hall : s.presetsHolder.AllNamed) (body : Body) :
    (s.createPreset lib body).2.presetsHolder.AllNamed := by
  unfold createPreset
  split
  · exact hall
  · exact hall
  · next presetName hparse =>
    have hname := (parsePresetName_eq_some hparse).1
    cases hadd : s.presetsHolder.addNewPreset lib.toToolchain presetName with
    | error e => exact hall
    | ok added =>
      obtain ⟨id, holder⟩ := added
      exact hall.addsOne hname (PresetsHolder.addNewPreset_eq_ok hadd).2

theorem allNamed_updatePreset_iff (hall : s.presetsHolder.AllNamed) (presetId : String)
    (body : Body) :
    (s.updatePreset lib presetId body).2.presetsHolder.AllNamed ↔
      ¬ ClearsName lib s (.request (.updatePreset presetId body)) := by
  cases hl : s.presetsHolder.presetsStorage.lookup (pathId presetId) with
  | none =>
    have hnone := PresetsHolder.getPresetById_of_lookup_none hl
    have hsame : (s.updatePreset lib presetId body).2 = s := by
      simp only [updatePreset, hnone]
    rw [hsame]
    exact iff_of_true hall fun hclears => hclears.1 hl
  | some ptr =>
    have hclears : ClearsName lib s (.request (.updatePreset presetId body)) ↔
        parsePresetUpdateRequest lib body = .ok (.name "") := by
      constructor
      · rintro ⟨-, doc, hdoc, hfind⟩
        exact parsePresetUpdateRequest_of_name hdoc hfind
      · intro hparse
        exact ⟨by rw [hl]; exact Option.some_ne_none ptr, parsePresetUpdateRequest_eq_name hparse⟩
    rw [hclears]
    cases hparse : parsePresetUpdateRequest lib body with
    | error e =>
      rw [updatePreset_of_error hparse]
      exact iff_of_true hall (by rintro ⟨⟩)
    | ok parsedState =>
      rw [updatePreset_of_lookup hl hparse]
      refine (hall.modify_iff hl _).trans ?_
      cases parsedState with
      | name itemName => simp [parseResultVisitor, Preset.setName]
      | stages stagesContainer =>
        rw [parseResultVisitor, Preset.presetName_replaceStages]
        exact iff_of_true (hall _ ptr hl) (by rintro ⟨⟩)
      | monostate => exact iff_of_true (hall _ ptr hl) (by rintro ⟨⟩)

/-- **Step lemma.** Only an update with an empty name leaves a preset without one. -/
theorem allNamed_step_iff (hall : s.presetsHolder.AllNamed) (e : Event) :
    ((service lib).step s e).presetsHolder.AllNamed ↔ ¬ ClearsName lib s e := by
  cases e with
  | tick input => exact iff_of_true hall fun hclears => hclears
  | request req =>
    cases req with
    | createPreset body =>
      exact iff_of_true (allNamed_createPreset hall body) fun hclears => hclears
    | updatePreset presetId body => exact allNamed_updatePreset_iff hall presetId body
    | pushCommand body =>
      have hsame : (s.pushCommand lib body).2.presetsHolder = s.presetsHolder := by
        unfold pushCommand
        split <;> rfl
      refine iff_of_true ?_ fun hclears => hclears
      show (s.pushCommand lib body).2.presetsHolder.AllNamed
      rw [hsame]
      exact hall
    | setRegulatorParams body =>
      have hsame : (s.setRegulatorParams lib body).2.presetsHolder = s.presetsHolder := by
        unfold setRegulatorParams
        split_ifs
        · rfl
        · split <;> rfl
      refine iff_of_true ?_ fun hclears => hclears
      show (s.setRegulatorParams lib body).2.presetsHolder.AllNamed
      rw [hsame]
      exact hall

/-- **Run lemma.** -/
theorem allNamed_of_reachableVia
    (hs : (service lib).ReachableVia (fun s e => ¬ ClearsName lib s e) s) :
    s.presetsHolder.AllNamed := by
  refine System.ReachableVia.invariant (I := fun s => s.presetsHolder.AllNamed) ?_ ?_ hs
  · rintro s ⟨hholder, -⟩
    rw [hholder]
    exact PresetsHolder.allNamed_make
  · intro s e _ hall hok
    exact (allNamed_step_iff hall e).mpr hok

/-- **When creating and renaming treat names alike.** A new name is treated alike exactly when it
is plain; and every stored preset has a name as long as no update clears one, which an update with
an empty name does. -/
theorem names_alike_iff (hlib : StandardTexts lib) :
    (∀ (s : Server) (presetId : String) (ptr : PresetPtr) (name : String),
      s.presetsHolder.presetsStorage.lookup (pathId presetId) = some ptr →
      s.presetsHolder.presetsStorage.lookup (lib.hash name) = none →
        (s.NamedAlike lib presetId ptr name ↔ PlainName name)) ∧
    ∀ s, (service lib).ReachableVia (fun s e => ¬ ClearsName lib s e) s →
      s.presetsHolder.AllNamed ∧
        ∀ e, ((service lib).step s e).presetsHolder.AllNamed ↔ ¬ ClearsName lib s e := by
  constructor
  · intro s presetId ptr name hl hfree
    exact namedAlike_iff hlib hl hfree
  · intro s hs
    have hall := allNamed_of_reachableVia hs
    exact ⟨hall, allNamed_step_iff hall⟩

/-! ## Names of two kinds -/

/-- Libraries that read the texts of objects with one string member. -/
def memberLibraries : Libraries where
  toToolchain := .sample
  parse body := (JsonText.parseMember body).map fun p => .object [(p.1, .string p.2)]
  urlDecode := UrlEncoding.decode

theorem standardTexts_memberLibraries : StandardTexts memberLibraries where
  urlDecode := rfl
  parse_member key name := by
    have hparse := JsonText.parseMember_eq_some_iff.mpr (rfl : memberBody key name = _)
    simp only [memberLibraries, hparse, Option.map_some]
  le_length := by
    intro body doc key name hdoc hfind
    obtain ⟨⟨key', name'⟩, hparse, rfl⟩ := Option.map_eq_some_iff.mp hdoc
    have hbody := JsonText.parseMember_eq_some_iff.mp hparse
    have hlookup : [(key', Json.string name')].lookup key = some (.string name) := hfind
    obtain ⟨before, behind, hsplit, -⟩ := List.lookup_eq_some_iff.mp hlookup
    have hmem : (key, Json.string name) ∈ [(key', Json.string name')] := by
      rw [hsplit]
      exact List.mem_append_right before List.mem_cons_self
    cases List.mem_singleton.mp hmem
    rw [hbody]

/-- The server with one preset, created as "lead". -/
def oneCreated : Server :=
  (service memberLibraries).step make (.request (.createPreset (createBody "lead")))

theorem oneCreated_presetsHolder :
    oneCreated.presetsHolder = PresetsHolder.make.insertNew (memberLibraries.hash "lead")
      (.make "lead") (AList.lookup_empty _) := by
  have hescape : UrlEncoding.unicode.hasEscape "lead".toList = false := by decide
  have hparse := parse_createBody standardTexts_memberLibraries hescape
  rw [map_spaced_eq_self_iff.mpr (by decide), if_neg (by decide)] at hparse
  have hcreate := createPreset_of_free (s := make) hparse (AList.lookup_empty _)
  rw [oneCreated, step_createPreset, hcreate]
  rfl

theorem oneCreated_reachableVia :
    (service memberLibraries).ReachableVia (fun s e => ¬ ClearsName memberLibraries s e)
      oneCreated :=
  .step (.start constructed_make) fun hclears => hclears

theorem oneCreated_lookup :
    oneCreated.presetsHolder.presetsStorage.lookup (pathId "4") = some 0 := by
  rw [oneCreated_presetsHolder]
  decide

/-- "tin" is a plain name, and the preset that is there has one. -/
theorem names_alike_iff_tin :
    oneCreated.NamedAlike memberLibraries "4" 0 "tin" ∧ oneCreated.presetsHolder.AllNamed ∧
      ∀ e, ((service memberLibraries).step oneCreated e).presetsHolder.AllNamed ↔
        ¬ ClearsName memberLibraries oneCreated e := by
  obtain ⟨halike, hruns⟩ := names_alike_iff standardTexts_memberLibraries
  have hfree :
      oneCreated.presetsHolder.presetsStorage.lookup (memberLibraries.hash "tin") = none := by
    rw [oneCreated_presetsHolder]
    decide
  have hplain : PlainName "tin" := ⟨by decide, by decide, by decide⟩
  exact ⟨(halike oneCreated "4" 0 "tin" oneCreated_lookup hfree).mpr hplain,
    hruns oneCreated oneCreated_reachableVia⟩

/-- "a+b" is created as "a b", the empty name is set but not created, and setting it leaves a
preset without a name. -/
theorem not_namedAlike :
    (service memberLibraries).Reachable oneCreated ∧
      oneCreated.presetsHolder.presetsStorage.lookup (pathId "4") = some 0 ∧
      oneCreated.presetsHolder.presetsStorage.lookup (memberLibraries.hash "a+b") = none ∧
      oneCreated.Creates memberLibraries (createBody "a+b") "a b" ∧
      ¬ oneCreated.NamedAlike memberLibraries "4" 0 "a+b" ∧
      ¬ oneCreated.NamedAlike memberLibraries "4" 0 "" ∧
      ¬ ((service memberLibraries).step oneCreated
        (.request (.updatePreset "4" (renameBody "")))).presetsHolder.AllNamed := by
  have hlib := standardTexts_memberLibraries
  have hl := oneCreated_lookup
  have hfree : ∀ name, name ∈ ["a+b", "a b", ""] →
      oneCreated.presetsHolder.presetsStorage.lookup (memberLibraries.hash name) = none := by
    rw [oneCreated_presetsHolder]
    decide
  have hescape : UrlEncoding.unicode.hasEscape "a+b".toList = false := by decide
  have hparse := parse_createBody hlib hescape
  rw [String.map_eq_internal, if_neg (by decide)] at hparse
  have hclears : ClearsName memberLibraries oneCreated
      (.request (.updatePreset "4" (renameBody ""))) := by
    refine ⟨by rw [hl]; exact Option.some_ne_none 0, _, hlib.parse_member "name" "", rfl⟩
  have hall := allNamed_of_reachableVia oneCreated_reachableVia
  refine ⟨oneCreated_reachableVia.reachable, hl, hfree _ (by decide),
    creates_of_free hparse (hfree _ (by decide)), fun halike => ?_, fun halike => ?_,
    fun hnamed => ?_⟩
  · have hplain := (namedAlike_iff hlib hl (hfree _ (by decide))).mp halike
    exact absurd hplain.no_plus (by decide)
  · have hplain := (namedAlike_iff hlib hl (hfree _ (by decide))).mp halike
    exact absurd rfl hplain.ne_empty
  · exact (allNamed_step_iff hall _).mp hnamed hclears

end Server

end ReflowTable

import ReflowTable.Handlers
import ReflowTable.StageLists

/-!
# Updates are all-or-nothing

`UpdatePreset` decodes the whole body before it touches the preset, so a bad element of a stage
list stops the update before its first assignment, wherever in the list it is. A name in the
document keeps the stages out.
-/

namespace ReflowTable

open RequestUtils

/-- Every stage of the array was stored at its own index, and the stages behind them stayed. -/
structure Restaged (tc : Toolchain) (stagesArray : List Json) (old new : Preset) : Prop where
  presetName : new.presetName = old.presetName
  stored : ∀ (idx : ℕ) item, stagesArray[idx]? = some item →
    new.presetItems.items[idx]? = some (item.stageItem tc)
  behind : ∀ idx : ℕ, stagesArray.length ≤ idx →
    new.presetItems.items[idx]? = old.presetItems.items[idx]?

/-- What an update may do to its preset. -/
inductive UpdateEffect (tc : Toolchain) (document : Option Json) (old new : Preset) : Prop
  | renamed (doc : Json) (itemName : String) (hdoc : document = some doc)
      (hname : doc.find "name" = some (.string itemName)) (hnew : new.presetName = itemName)
      (hitems : new.presetItems = old.presetItems)
  | restaged (doc : Json) (stagesArray : List Json) (hdoc : document = some doc)
      (hstages : doc.find "stages" = some (.array stagesArray))
      (hnew : Restaged tc stagesArray old new)
  | unchanged (hnew : new = old)

/-- An element `parseStagesArray` gives up at. -/
def BadStage (item : Json) : Prop :=
  item.isObject = false ∨ ∃ key ∈ ["temperature", "duration"], ∃ field,
    item.find key = some field ∧ field.isNumber = false

theorem isStage_of_badStage {item : Json} (h : BadStage item) : item.isStage = false := by
  rw [← Bool.not_eq_true, Json.isStage_iff]
  rintro ⟨hobject, hnumbers⟩
  obtain hnot | ⟨key, hkey, field, hfind, hnot⟩ := h
  · rw [hobject] at hnot
    cases hnot
  · rw [hnumbers key hkey field hfind] at hnot
    cases hnot

theorem restaged_replaceStages (tc : Toolchain) (stagesArray : List Json) (p : Preset) :
    Restaged tc stagesArray p (p.replaceStages tc (stagesArray.map (Json.stageItem tc))) where
  presetName := Preset.presetName_replaceStages tc _ p
  stored := by
    intro idx item hitem
    have hlt : idx < (stagesArray.map (Json.stageItem tc)).length := by
      rw [List.length_map]
      exact (List.getElem?_eq_some_iff.mp hitem).1
    rw [Preset.items_replaceStages, List.getElem?_append_left hlt, List.getElem?_map, hitem,
      Option.map_some]
  behind := by
    intro idx hle
    have hlen : (stagesArray.map (Json.stageItem tc)).length ≤ idx := by rwa [List.length_map]
    rw [Preset.items_replaceStages, List.getElem?_append_right hlen, List.getElem?_drop]
    congr 1
    omega

/-- The effects of one `UpdatePreset` on the server. -/
structure AtomicUpdate (lib : Libraries) (presetId : UInt64) (ptr : PresetPtr) (body : Body)
    (s s' : Server) : Prop where
  effect : UpdateEffect lib.toToolchain (lib.parse body) (s.presetsHolder.objects ptr)
    (s'.presetsHolder.objects ptr)
  nothing : ∀ doc stagesArray, lib.parse body = some doc → doc.find "name" = none →
    doc.find "stages" = some (.array stagesArray) →
    (stagesArray = [] ∨ ∃ item ∈ stagesArray, BadStage item) → s' = s
  nameOnly : ∀ doc it stages, lib.parse body = some doc → doc.find "name" = some it →
    doc.find "stages" = some stages →
    (s'.presetsHolder.objects ptr).presetItems = (s.presetsHolder.objects ptr).presetItems ∧
    ∀ itemName, it = .string itemName → (s'.presetsHolder.objects ptr).presetName = itemName
  others : ∀ id other, id ≠ presetId → s.presetsHolder.presetsStorage.lookup id = some other →
    s'.presetsHolder.objects other = s.presetsHolder.objects other
  storage : s'.presetsHolder.presetsStorage = s.presetsHolder.presetsStorage
  reflowController : s'.reflowController = s.reflowController

namespace Server

variable {lib : Libraries} {s : Server} {presetId : String} {ptr : PresetPtr} {body : Body}

/-- What a body makes of the preset it is sent to. -/
def updated (lib : Libraries) (body : Body) (p : Preset) : Preset :=
  match parsePresetUpdateRequest lib body with
  | .error _ => p
  | .ok parsedState => parseResultVisitor lib parsedState p

/-- An update concerns its preset only, whether it returns or raises. -/
theorem updatePreset_eq_modify
    (hl : s.presetsHolder.presetsStorage.lookup (pathId presetId) = some ptr) (body : Body) :
    (s.updatePreset lib presetId body).2 =
      { s with presetsHolder := s.presetsHolder.modify ptr (updated lib body) } := by
  cases hanswer : parsePresetUpdateRequest lib body with
  | error e =>
    have hid : updated lib body = fun p => p := by
      funext p
      rw [updated, hanswer]
    rw [updatePreset_of_error hanswer, hid]
    have hmodify := PresetsHolder.modify_id ptr s.presetsHolder
    exact congrArg (Server.mk · s.reflowController) hmodify.symm
  | ok parsedState =>
    have hvisitor : updated lib body = parseResultVisitor lib parsedState := by
      funext p
      rw [updated, hanswer]
    rw [updatePreset_of_lookup hl hanswer, hvisitor]

/-- What a decoded request does to the preset. -/
theorem updateEffect_parseResultVisitor {parsedState : PresetRequestVariant} (p : Preset)
    (h : parsePresetUpdateRequest lib body = .ok parsedState) :
    UpdateEffect lib.toToolchain (lib.parse body) p (parseResultVisitor lib parsedState p) := by
  cases parsedState with
  | monostate => exact .unchanged rfl
  | name itemName =>
    obtain ⟨doc, hparse, hname⟩ := parsePresetUpdateRequest_eq_name h
    exact .renamed doc itemName hparse hname rfl rfl
  | stages stagesContainer =>
    obtain ⟨doc, stagesArray, hparse, hstages, hitems, -⟩ :=
      parsePresetUpdateRequest_eq_stages h
    rw [parseStageItems_eq] at hitems
    split_ifs at hitems
    · cases hitems
      exact .restaged doc stagesArray hparse hstages (restaged_replaceStages _ _ p)
    · cases hitems

theorem updateEffect_updated (lib : Libraries) (body : Body) (p : Preset) :
    UpdateEffect lib.toToolchain (lib.parse body) p (updated lib body p) := by
  unfold updated
  split
  · exact .unchanged rfl
  · next parsedState hanswer => exact updateEffect_parseResultVisitor p hanswer

section

variable {doc it : Json} (hparse : lib.parse body = some doc)
include hparse

/-- A name keeps the stages out, and is set if it is a string. -/
theorem updated_of_name (hname : doc.find "name" = some it) (p : Preset) :
    (updated lib body p).presetItems = p.presetItems ∧
      ∀ itemName, it = .string itemName → (updated lib body p).presetName = itemName := by
  have hanswer := parsePresetUpdateRequest_of_name hparse hname
  cases it with
  | string value =>
    have hset : updated lib body p = p.setName value := by
      rw [updated, hanswer]
      rfl
    rw [hset]
    refine ⟨rfl, fun itemName hit => ?_⟩
    cases hit
    rfl
  | _ =>
    -- `get` has thrown
    have hsame : updated lib body p = p := by
      rw [updated, hanswer]
      rfl
    rw [hsame]
    refine ⟨rfl, fun itemName hit => ?_⟩
    cases hit

/-- An empty list, or a bad element at any position, changes nothing. -/
theorem updated_of_badStages {stagesArray : List Json} (hname : doc.find "name" = none)
    (hstages : doc.find "stages" = some (.array stagesArray))
    (hbad : stagesArray = [] ∨ ∃ item ∈ stagesArray, BadStage item) (p : Preset) :
    updated lib body p = p := by
  have hrejected : ¬ (stagesArray ≠ [] ∧ ∀ item ∈ stagesArray, item.isStage = true) := by
    rintro ⟨hne, hall⟩
    obtain hempty | ⟨item, hmem, hitem⟩ := hbad
    · exact hne hempty
    · have hstage := hall item hmem
      rw [isStage_of_badStage hitem] at hstage
      cases hstage
  rw [updated, parsePresetUpdateRequest_of_stages hparse hname hstages, if_neg hrejected]
  rfl

end

/-- **An update is all-or-nothing**, for any server, any stored preset and any body. -/
theorem updatePreset_atomic
    (hl : s.presetsHolder.presetsStorage.lookup (pathId presetId) = some ptr) (body : Body) :
    AtomicUpdate lib (pathId presetId) ptr body s (s.updatePreset lib presetId body).2 := by
  have hnew : (s.presetsHolder.modify ptr (updated lib body)).objects ptr =
      updated lib body (s.presetsHolder.objects ptr) := PresetsHolder.objects_modify_self _ _ _
  rw [updatePreset_eq_modify hl]
  refine ⟨?_, ?_, ?_, ?_, PresetsHolder.presetsStorage_modify _ _ _, rfl⟩
  · rw [hnew]
    exact updateEffect_updated lib body _
  · intro doc stagesArray hparse hname hstages hbad
    have hid : updated lib body = fun p => p :=
      funext (updated_of_badStages hparse hname hstages hbad)
    rw [hid]
    exact congrArg (Server.mk · s.reflowController) (PresetsHolder.modify_id ptr s.presetsHolder)
  · intro doc it stages hparse hname _
    rw [hnew]
    exact updated_of_name hparse hname _
  · intro id other hid hother
    have hne : other ≠ ptr := fun heq => hid (s.presetsHolder.unique hother (heq ▸ hl))
    exact PresetsHolder.objects_modify_of_ne _ _ hne

/-- A list whose second element is no object leaves the preset of the session as it is. -/
theorem updatePreset_atomic_badElement :
    let text := "\x7b\"stages\":[\x7b\"temperature\":217\x7d,5]\x7d"
    let lib : Libraries := .sample ((text, .object [("stages", .array
      [.object [("temperature", .numberUnsigned 217)], .numberUnsigned 5])]) :: sessionDocs)
    let s := (service lib).run make (startSession.take 2)
    s.presetsHolder.presetsStorage.lookup (pathId "4") = some 0 ∧
      (s.presetsHolder.objects 0).presetItems.items = [⟨183, 30⟩] ∧
      AtomicUpdate lib (pathId "4") 0 (asciiBytes text) s
        (s.updatePreset lib "4" (asciiBytes text)).2 := by
  intro text lib s
  have hl : s.presetsHolder.presetsStorage.lookup (pathId "4") = some 0 := by decide +kernel
  exact ⟨hl, by decide +kernel, updatePreset_atomic hl _⟩

end Server

end ReflowTable

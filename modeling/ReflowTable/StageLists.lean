import ReflowTable.RequestUtils

/-!
# Stage lists, decoded

`parseStagesArray` looks at the type of an entry before it converts it. It throws nothing, and a
list is accepted as a whole or turned down as a whole, wherever in it the first bad element is.
-/

namespace ReflowTable

namespace Json

/-- An entry that may be missing and is a number otherwise. -/
def numericOrMissing (key : String) (item : Json) : Bool :=
  ((item.find key).map isNumber).getD true

/-- An element `parseStagesArray` accepts. -/
def isStage (item : Json) : Bool :=
  item.isObject && item.numericOrMissing "temperature" && item.numericOrMissing "duration"

/-- The word an entry is converted to; a missing one is `0`. -/
def stageWord (tc : Toolchain) (key : String) (item : Json) : UInt32 :=
  ((item.find key).bind fun field => (field.getUInt32 tc).toOption).getD 0

/-- The stage an element stands for. -/
def stageItem (tc : Toolchain) (item : Json) : StageItem :=
  ⟨item.stageWord tc "temperature", (item.stageWord tc "duration").toNat⟩

theorem numericOrMissing_iff {key : String} {item : Json} : item.numericOrMissing key = true ↔
    ∀ field, item.find key = some field → field.isNumber = true := by
  unfold numericOrMissing
  cases item.find key <;> simp

theorem isStage_iff {item : Json} : item.isStage = true ↔ item.isObject = true ∧
    ∀ key ∈ ["temperature", "duration"], ∀ field, item.find key = some field →
      field.isNumber = true := by
  simp only [isStage, Bool.and_eq_true, numericOrMissing_iff, List.mem_cons, List.not_mem_nil,
    or_false, forall_eq_or_imp, forall_eq, and_assoc]

/-- A number is converted without an exception. -/
theorem getUInt32_of_isNumber (tc : Toolchain) {j : Json} (h : j.isNumber = true) :
    ∃ word, j.getUInt32 tc = .ok word := by
  cases j with
  | numberInteger value => exact ⟨_, rfl⟩
  | numberUnsigned value => exact ⟨_, rfl⟩
  | numberFloat value => exact ⟨_, rfl⟩
  | _ => cases h

theorem getFloat_of_isNumber {j : Json} (h : j.isNumber = true) : ∃ q, j.getFloat = .ok q := by
  cases j with
  | numberInteger value => exact ⟨_, rfl⟩
  | numberUnsigned value => exact ⟨_, rfl⟩
  | numberFloat value => exact ⟨_, rfl⟩
  | _ => cases h

end Json

namespace RequestUtils

variable {lib : Libraries}

theorem parseStageField_eq (lib : Libraries) (key : String) (item : Json) :
    parseStageField lib key item =
      .ok (if item.numericOrMissing key then some (item.stageWord lib.toToolchain key)
        else none) := by
  unfold parseStageField Json.numericOrMissing Json.stageWord
  cases item.find key with
  | none => rfl
  | some field =>
    cases hnumber : field.isNumber with
    | false => simp [hnumber]
    | true =>
      obtain ⟨word, hget⟩ := Json.getUInt32_of_isNumber lib.toToolchain hnumber
      simp [hnumber, hget, Except.map, Except.toOption]

theorem parseStageItem_eq (lib : Libraries) (item : Json) :
    parseStageItem lib item =
      .ok (if item.isStage then some (item.stageItem lib.toToolchain) else none) := by
  unfold parseStageItem Json.isStage
  rw [parseStageField_eq, parseStageField_eq]
  cases hobject : item.isObject with
  | false => simp
  | true =>
    cases htemperature : item.numericOrMissing "temperature" with
    | false => rfl
    | true => cases hduration : item.numericOrMissing "duration" <;> rfl

/-- One bad element turns the list down, at any position. -/
theorem parseStageItems_eq (lib : Libraries) (items : List Json) :
    parseStageItems lib items =
      .ok (if items.all Json.isStage then some (items.map (Json.stageItem lib.toToolchain))
        else none) := by
  induction items with
  | nil => rfl
  | cons item items ih =>
    rw [parseStageItems, parseStageItem_eq, ih, List.all_cons]
    cases hitem : item.isStage with
    | false => rfl
    | true => cases hitems : items.all Json.isStage <;> rfl

/-- A stage list is accepted when it has elements and every element is a stage. -/
theorem parseStagesArray_eq (lib : Libraries) (stagesArray : List Json) :
    parseStagesArray lib stagesArray =
      .ok (if stagesArray ≠ [] ∧ ∀ item ∈ stagesArray, item.isStage = true then
        some (stagesArray.map (Json.stageItem lib.toToolchain)) else none) := by
  have hall : (stagesArray.all Json.isStage = true) ↔
      ∀ item ∈ stagesArray, item.isStage = true := List.all_eq_true
  rw [parseStagesArray, parseStageItems_eq]
  by_cases hstages : ∀ item ∈ stagesArray, item.isStage = true
  · rw [if_pos (hall.mpr hstages)]
    cases stagesArray with
    | nil => rfl
    | cons item items =>
      rw [if_pos ⟨List.cons_ne_nil _ _, hstages⟩]
      rfl
  · rw [if_neg (mt hall.mp hstages), if_neg (fun h => hstages h.2)]
    rfl

/-! ## The decoders by document -/

/-- A request that renames a preset does nothing else, whatever its stage list. -/
theorem parsePresetUpdateRequest_of_name {body : Body} {doc it : Json}
    (hparse : lib.parse body = some doc) (hname : doc.find "name" = some it) :
    parsePresetUpdateRequest lib body = it.getString.map .name := by
  have hobject := Json.isObject_of_find hname
  simp only [parsePresetUpdateRequest, hparse, hobject, Bool.not_true, Bool.false_eq_true, if_false,
    hname]

theorem parsePresetUpdateRequest_of_stages {body : Body} {doc : Json} {stagesArray : List Json}
    (hparse : lib.parse body = some doc) (hname : doc.find "name" = none)
    (hstages : doc.find "stages" = some (.array stagesArray)) :
    parsePresetUpdateRequest lib body =
      .ok (if stagesArray ≠ [] ∧ ∀ item ∈ stagesArray, item.isStage = true then
        .stages (stagesArray.map (Json.stageItem lib.toToolchain)) else .monostate) := by
  have hobject := Json.isObject_of_find hstages
  simp only [parsePresetUpdateRequest, hparse, hobject, Bool.not_true, Bool.false_eq_true, if_false,
    hname, hstages, parseStagesArray_eq]
  split <;> rfl

/-- Without a name and an array of stages nothing is requested. -/
theorem parsePresetUpdateRequest_of_neither {body : Body} {doc : Json}
    (hparse : lib.parse body = some doc) (hname : doc.find "name" = none)
    (hstages : ∀ stagesArray, doc.find "stages" ≠ some (.array stagesArray)) :
    parsePresetUpdateRequest lib body = .ok .monostate := by
  simp only [parsePresetUpdateRequest, hparse, hname]
  split_ifs <;> rfl

theorem parsePresetName_of_name {body : Body} {doc it : Json}
    (hparse : lib.parse body = some doc) (hname : doc.find "preset-name" = some it) :
    parsePresetName lib body = it.getString.map fun presetName =>
      if presetName.isEmpty then none else some presetName := by
  have hobject := Json.isObject_of_find hname
  simp only [parsePresetName, hparse, hobject, Bool.not_true, Bool.false_eq_true, if_false, hname]

theorem parsePresetName_of_none {body : Body} {doc : Json}
    (hparse : lib.parse body = some doc) (hname : doc.find "preset-name" = none) :
    parsePresetName lib body = .ok none := by
  simp only [parsePresetName, hparse, hname]
  split_ifs <;> rfl

/-- The empty string is no name for a new preset. -/
theorem parsePresetName_eq_some {body : Body} {presetName : String}
    (h : parsePresetName lib body = .ok (some presetName)) :
    presetName ≠ "" ∧
      ∃ doc, lib.parse body = some doc ∧ doc.find "preset-name" = some (.string presetName) := by
  cases hparse : lib.parse body with
  | none =>
    rw [parsePresetName, hparse] at h
    cases h
  | some doc =>
    cases hname : doc.find "preset-name" with
    | none =>
      rw [parsePresetName_of_none hparse hname] at h
      cases h
    | some it =>
      rw [parsePresetName_of_name hparse hname] at h
      cases it with
      | string value =>
        have hvalue : (if value.isEmpty then none else some value) = some presetName :=
          Except.ok.inj h
        split_ifs at hvalue with hempty
        cases hvalue
        refine ⟨?_, doc, rfl, hname⟩
        rintro rfl
        exact hempty rfl
      | _ => cases h

/-- A body that was accepted as a name. -/
theorem parsePresetUpdateRequest_eq_name {body : Body} {itemName : String}
    (h : parsePresetUpdateRequest lib body = .ok (.name itemName)) :
    ∃ doc, lib.parse body = some doc ∧ doc.find "name" = some (.string itemName) := by
  cases hparse : lib.parse body with
  | none =>
    rw [parsePresetUpdateRequest, hparse] at h
    cases h
  | some doc =>
    cases hname : doc.find "name" with
    | some it =>
      rw [parsePresetUpdateRequest_of_name hparse hname] at h
      cases it with
      | string value =>
        cases h
        exact ⟨doc, rfl, hname⟩
      | _ => cases h
    | none =>
      by_cases hstages : ∃ stagesArray, doc.find "stages" = some (.array stagesArray)
      · obtain ⟨stagesArray, hstages⟩ := hstages
        rw [parsePresetUpdateRequest_of_stages hparse hname hstages] at h
        split_ifs at h <;> cases h
      · have hneither := parsePresetUpdateRequest_of_neither hparse hname
          fun stagesArray heq => hstages ⟨stagesArray, heq⟩
        rw [hneither] at h
        cases h

end RequestUtils

end ReflowTable

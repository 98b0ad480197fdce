import ReflowTable.Handlers
import ReflowTable.Lib.Numerals

/-!
# What `GetPreset` answers, and what becomes of it in an update

`GetPreset` gives the stages of a preset under the keys `temperature` and `stage-duration`, the
latter as a text such as `30s`. `UpdatePreset` takes them under `temperature` and `duration`, both
numbers, and an entry it does not find is `0`. So a client that sends the stages back as it got
them keeps the temperatures and loses the durations.
-/

namespace ReflowTable

/-- What can leave `GetPreset` instead of a response. -/
inductive GetPresetException
  /-- what `std::stoull` throws -/
  | number (e : Numerals.Errc)
  | fault (e : Fault)

/-- The object of one stage, with the duration as `fmt` prints seconds. -/
def temperatureStamp (presetStage : StageItem) : Json :=
  .object [("temperature", .numberUnsigned presetStage.temperatureStep.toUInt64),
    ("stage-duration", .string (toString presetStage.stageDuration ++ "s"))]

def Preset.stagesArray (p : Preset) : List Json :=
  p.forEachStage (fun presetStage stagesArray => stagesArray ++ [temperatureStamp presetStage]) []

/-- The body of the response. -/
def Preset.document (p : Preset) : Json :=
  .object [("preset-name", .string p.presetName), ("stages", .array p.stagesArray)]

theorem Preset.stagesArray_eq (p : Preset) :
    p.stagesArray = p.presetItems.items.map temperatureStamp :=
  p.forEachStage_append temperatureStamp []

namespace Server

def getPreset (presetId : String) (s : Server) : Except GetPresetException HttpResponse :=
  match Numerals.stoull presetId.toList with
  | .error e => .error (.number e)
  | .ok id =>
    match s.presetsHolder.getPresetById (.ofNat id) with
    | .error e => .error (.fault e)
    | .ok presetPtr => .ok ⟨k200OK, .json (s.presetsHolder.objects presetPtr).document⟩

variable {lib : Libraries} {s : Server} {presetId : String} {id : UInt64} {ptr : PresetPtr}

theorem getPreset_of_lookup (hread : Numerals.stoull presetId.toList = .ok id.toNat)
    (hl : s.presetsHolder.presetsStorage.lookup id = some ptr) :
    s.getPreset presetId = .ok ⟨k200OK, .json (s.presetsHolder.objects ptr).document⟩ := by
  unfold getPreset
  rw [hread]
  simp only [UInt64.ofNat_toNat, PresetsHolder.getPresetById_eq_ok.mpr hl]

end Server

/-! ## The stages sent back -/

namespace RequestUtils

variable {lib : Libraries}

/-- A stage as the update takes it: without its duration. -/
def withoutDuration (stage : StageItem) : StageItem := { stage with stageDuration := 0 }

theorem parseStageItem_temperatureStamp (stage : StageItem) :
    parseStageItem lib (temperatureStamp stage) = .ok (some (withoutDuration stage)) := by
  have htemperature : parseStageField lib "temperature" (temperatureStamp stage) =
      .ok (some stage.temperatureStep) := by
    have hword : Casts.ofInt 32 (stage.temperatureStep.toUInt64.toNat : ℤ) =
        stage.temperatureStep.toNat := by
      rw [UInt32.toNat_toUInt64]
      exact Casts.ofInt_natCast stage.temperatureStep.toNat_lt
    show Except.ok (some (UInt32.ofNat (Casts.ofInt 32 _))) = _
    rw [hword, UInt32.ofNat_toNat]
  -- the entry is there under another key, so it counts as absent
  have hduration : parseStageField lib "duration" (temperatureStamp stage) = .ok (some 0) := rfl
  have hobject : (temperatureStamp stage).isObject = true := rfl
  unfold parseStageItem
  rw [hobject, htemperature, hduration]
  rfl

theorem parseStageItems_map (stages : List StageItem) :
    parseStageItems lib (stages.map temperatureStamp) =
      .ok (some (stages.map withoutDuration)) := by
  induction stages with
  | nil => rfl
  | cons stage stages ih =>
    rw [List.map_cons, parseStageItems, parseStageItem_temperatureStamp]
    show (do
      let rest ← parseStageItems lib (stages.map temperatureStamp)
      return rest.map (withoutDuration stage :: ·)) = _
    rw [ih]
    rfl

theorem map_withoutDuration_eq_iff (stages : List StageItem) :
    stages.map withoutDuration = stages ↔ ∀ stage ∈ stages, stage.stageDuration = 0 := by
  have hstage : ∀ stage : StageItem, withoutDuration stage = stage ↔ stage.stageDuration = 0 := by
    intro stage
    obtain ⟨temperatureStep, stageDuration⟩ := stage
    simp [withoutDuration, eq_comm]
  induction stages with
  | nil => simp
  | cons stage stages ih =>
    rw [List.map_cons, List.forall_mem_cons, List.cons.injEq, hstage]
    exact and_congr_right fun _ => ih

theorem parsePresetUpdateRequest_stages {body : Body} {stages : List StageItem}
    (hne : stages ≠ [])
    (hbody : lib.parse body = some (.object [("stages", .array (stages.map temperatureStamp))])) :
    parsePresetUpdateRequest lib body = .ok (.stages (stages.map withoutDuration)) := by
  have harray : parseStagesArray lib (stages.map temperatureStamp) =
      .ok (some (stages.map withoutDuration)) := by
    unfold parseStagesArray
    rw [parseStageItems_map]
    cases stages with
    | nil => exact absurd rfl hne
    | cons stage stages => rfl
  unfold parsePresetUpdateRequest
  rw [hbody]
  show (parseStagesArray lib (stages.map temperatureStamp) >>= _) = _
  rw [harray]
  rfl

end RequestUtils

namespace Server

open RequestUtils (withoutDuration map_withoutDuration_eq_iff)

variable {lib : Libraries} {s : Server} {id : UInt64} {ptr : PresetPtr}

/-- **The stages of a response, sent back in an update**, are accepted; the preset keeps the
temperatures in their order and loses the durations. So it is as before exactly when the
durations were `0`. The two requests may spell the id differently, as the large ones need. -/
theorem stages_sent_back {getPath putPath : String}
    (hgetPath : Numerals.stoull getPath.toList = .ok id.toNat) (hputPath : pathId putPath = id)
    (hl : s.presetsHolder.presetsStorage.lookup id = some ptr)
    (hne : (s.presetsHolder.objects ptr).presetItems.items ≠ []) {doc stages : Json}
    (hget : s.getPreset getPath = .ok ⟨k200OK, .json doc⟩)
    (hstages : doc.find "stages" = some stages) {body : Body}
    (hbody : lib.parse body = some (.object [("stages", stages)])) :
    let items := (s.presetsHolder.objects ptr).presetItems.items
    let sent := s.updatePreset lib putPath body
    let itemsAfter := (sent.2.presetsHolder.objects ptr).presetItems.items
    sent.1 = .ok .ok ∧ itemsAfter = items.map withoutDuration ∧
      (itemsAfter = items ↔ ∀ stage ∈ items, stage.stageDuration = 0) := by
  intro items sent itemsAfter
  -- the response is the document of the stored preset
  have hdoc : doc = (s.presetsHolder.objects ptr).document := by
    rw [getPreset_of_lookup hgetPath hl] at hget
    simpa [eq_comm] using hget
  have hsent : stages = .array (items.map temperatureStamp) := by
    have hfind : (s.presetsHolder.objects ptr).document.find "stages" =
        some (.array (s.presetsHolder.objects ptr).stagesArray) := rfl
    rw [hdoc, hfind, Preset.stagesArray_eq] at hstages
    exact (Option.some.inj hstages).symm
  have hparse := RequestUtils.parsePresetUpdateRequest_stages hne (hsent ▸ hbody)
  have hput := updatePreset_of_lookup (hputPath.symm ▸ hl) hparse
  have hitems : itemsAfter = items.map withoutDuration := by
    show ((s.updatePreset lib putPath body).2.presetsHolder.objects ptr).presetItems.items = _
    rw [hput]
    show (((s.presetsHolder.modify ptr _).objects ptr).presetItems.items) = _
    rw [PresetsHolder.objects_modify_self, parseResultVisitor, Preset.items_replaceStages,
      List.length_map, List.drop_length, List.append_nil]
  refine ⟨congrArg Prod.fst hput, hitems, ?_⟩
  rw [hitems, map_withoutDuration_eq_iff]

/-- The stages of `GetPreset` in an update, once 183 degrees for 30 s are stored. -/
def sentBackText : String :=
  "\x7b\"stages\":[\x7b\"stage-duration\":\"30s\",\"temperature\":183\x7d]\x7d"

def sentBackDoc : Json :=
  .object [("stages", .array [temperatureStamp ⟨183, 30⟩])]

/-- A server with that preset under id 4. -/
def servedPreset : Server :=
  (operations .sample).run make
    [.addNewPreset "lead", .replaceStageItem 4 0 ⟨183, 30⟩]

theorem stages_sent_back_lead :
    let sent := servedPreset.updatePreset (.sample [(sentBackText, sentBackDoc)]) "4"
      (asciiBytes sentBackText)
    let itemsAfter := (sent.2.presetsHolder.objects 0).presetItems.items
    sent.1 = .ok .ok ∧ itemsAfter = [⟨183, 0⟩] ∧
      (itemsAfter = [⟨183, 30⟩] ↔ ∀ stage ∈ [(⟨183, 30⟩ : StageItem)], stage.stageDuration = 0) := by
  have hgetPath : Numerals.stoull "4".toList = .ok (4 : UInt64).toNat := by decide
  have hputPath : pathId "4" = 4 := by decide
  have hl : servedPreset.presetsHolder.presetsStorage.lookup 4 = some 0 := by decide
  have hget : servedPreset.getPreset "4" =
      .ok ⟨k200OK, .json (.object [("preset-name", .string "lead"),
        ("stages", .array [temperatureStamp ⟨183, 30⟩])])⟩ := by
    rw [getPreset_of_lookup hgetPath hl]
    rfl
  exact stages_sent_back hgetPath hputPath hl (by decide) hget rfl (Libraries.parse_sample _ _)

/-- The duration does not come back, though `GetPreset` gave it. -/
theorem duration_not_sent_back :
    let sent := servedPreset.updatePreset (.sample [(sentBackText, sentBackDoc)]) "4"
      (asciiBytes sentBackText)
    servedPreset.getPreset "4" = .ok ⟨k200OK, .json (.object [("preset-name", .string "lead"),
        ("stages", .array [temperatureStamp ⟨183, 30⟩])])⟩ ∧
      (servedPreset.presetsHolder.objects 0).presetItems.items = [⟨183, 30⟩] ∧
      (sent.2.presetsHolder.objects 0).presetItems.items = [⟨183, 0⟩] := by
  refine ⟨?_, by decide, ?_⟩
  · have hget : Numerals.stoull "4".toList = .ok (4 : UInt64).toNat := by decide
    rw [getPreset_of_lookup hget (show _ = some 0 by decide)]
    rfl
  · have hparse := RequestUtils.parsePresetUpdateRequest_stages
      (List.cons_ne_nil ⟨183, 30⟩ []) (Libraries.parse_sample sentBackText sentBackDoc)
    have hl : servedPreset.presetsHolder.presetsStorage.lookup (pathId "4") = some 0 := by decide
    rw [updatePreset_of_lookup hl hparse]
    decide

end Server

end ReflowTable

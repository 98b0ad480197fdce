import ReflowTable.GetPreset
import ReflowTable.StageOrder

/-!
# The stages after updates

`UpdatePreset` assigns the stages it is given one by one and appends those for which there is no
place. It takes no stage away: behind a list that is shorter than one before it, the rest of the
longer one stays, and a run heats through it as well.
-/

namespace ReflowTable

/-! ## Runs that end by themselves -/

/-- These moments are a run of the preset, with these stages, from its start to an end of its
own. -/
structure CompleteRun (tc : Toolchain) (ptr : PresetPtr) (v : Vec StageItem) (run : List Moment) :
    Prop where
  reached : ∃ s ops pre start rest, Server.Constructed s ∧
    s.history tc ops = pre ++ start :: (run ++ rest) ∧ start.OpensRun ptr
  running : ∀ m ∈ run, m.before.isReflowRunning = true
  items : ∀ m ∈ run, (m.holder.objects ptr).presetItems = v
  ended : ∃ past m, run = past ++ [m] ∧ (m.after tc).isReflowRunning = false ∧
    m.activity ≠ .handle .stopReflow

/-- The stages taken in these moments, with their presets and indices. -/
def enteredIn (tc : Toolchain) (run : List Moment) : List (PresetPtr × ℕ × StageItem) :=
  stagesEntered (run.flatMap (Moment.effects tc))

theorem mem_enteredIn {tc : Toolchain} {run : List Moment} {taken : PresetPtr × ℕ × StageItem} :
    taken ∈ enteredIn tc run ↔ ∃ m ∈ run, taken ∈ stagesEntered (m.effects tc) := by
  unfold enteredIn
  induction run with
  | nil => simp [stagesEntered]
  | cons m run ih =>
    rw [List.flatMap_cons, stagesEntered_append, List.mem_append, ih, List.exists_mem_cons_iff]

/-- **A complete run takes every stage at its index**, and no others. -/
theorem CompleteRun.mem_enteredIn_iff {tc : Toolchain} {ptr : PresetPtr} {v : Vec StageItem}
    {run : List Moment} (h : CompleteRun tc ptr v run) (i : ℕ) (item : StageItem) :
    (ptr, i, item) ∈ enteredIn tc run ↔ v.items[i]? = some item := by
  obtain ⟨⟨s, ops, pre, start, rest, hs, hhistory, hstart⟩, hrun, hitems, past, last, hlast,
    hidle, hstop⟩ := h
  obtain ⟨-, hbefore⟩ := Server.orderInvariant_history hs hhistory hstart hrun hitems
  rw [mem_enteredIn]
  constructor
  · rintro ⟨m, hm, htaken⟩
    obtain ⟨-, -, -, hitem⟩ := Moment.mem_stagesEntered_effects_iff.mp htaken
    rwa [hitems m hm] at hitem
  · intro hitem
    have hin := Server.stages_in_order hs hhistory hstart hrun hitems
    have hlt : i < v.size := (List.getElem?_eq_some_iff.mp hitem).1
    obtain ⟨m, hm, hinit⟩ := List.mem_filterMap.mp (hin.complete past last hlast hidle hstop i hlt)
    obtain ⟨before, later, heq⟩ := List.append_of_mem hm
    obtain ⟨hexecutes, hindex⟩ := Moment.initIndex?_eq_some_iff.mp hinit
    refine ⟨m, hm, Moment.mem_stagesEntered_effects_iff.mpr ⟨hexecutes, ?_, hindex, ?_⟩⟩
    · exact (hbefore before m later heq).selected (hrun m hm)
    · rw [hitems m hm]
      exact hitem

/-! ## Updates -/

namespace Preset

variable {tc : Toolchain}

theorem numStages_replaceStages (stages : List StageItem) (p : Preset) :
    (p.replaceStages tc stages).numStages = max stages.length p.numStages := by
  rw [numStages_eq, items_replaceStages, List.length_append, List.length_drop, numStages_eq]
  omega

/-- An update in place of everything that was there. -/
theorem items_replaceStages_eq_iff (stages : List StageItem) (p : Preset) :
    (p.replaceStages tc stages).presetItems.items = stages ↔ p.numStages ≤ stages.length := by
  rw [items_replaceStages, List.append_right_eq_self, List.drop_eq_nil_iff, numStages_eq]

/-- The longest list so far is how long the list is. -/
theorem numStages_foldl_le_iff (updates : List (List StageItem)) (p : Preset) (n : ℕ) :
    (updates.foldl (fun p stages => p.replaceStages tc stages) p).numStages ≤ n ↔
      p.numStages ≤ n ∧ ∀ stages ∈ updates, stages.length ≤ n := by
  induction updates generalizing p with
  | nil => simp
  | cons stages updates ih =>
    rw [List.foldl_cons, ih, numStages_replaceStages, List.forall_mem_cons, Nat.max_le]
    exact and_assoc.trans and_left_comm

end Preset

namespace Server

open RequestUtils (parsePresetUpdateRequest)

variable (lib : Libraries)

/-- One `UpdatePreset` after the other. -/
def updatePresets (presetId : String) (bodies : List Body) (s : Server) : Server :=
  bodies.foldl (fun s body => (s.updatePreset lib presetId body).2) s

variable {lib} {s : Server} {presetId : String} {ptr : PresetPtr}

/-- What updates with stages do to the preset. -/
theorem updatePresets_stages
    (hl : s.presetsHolder.presetsStorage.lookup (pathId presetId) = some ptr)
    {bodies : List Body} {updates : List (List StageItem)}
    (hparse : List.Forall₂ (fun body stages => parsePresetUpdateRequest lib body =
      .ok (.stages stages)) bodies updates) :
    let updated := s.updatePresets lib presetId bodies
    updated.presetsHolder.presetsStorage.lookup (pathId presetId) = some ptr ∧
      updated.presetsHolder.objects ptr = updates.foldl
        (fun p stages => p.replaceStages lib.toToolchain stages) (s.presetsHolder.objects ptr) := by
  induction hparse generalizing s with
  | nil => exact ⟨hl, rfl⟩
  | @cons body stages bodies updates hbody _ ih =>
    have hstep := updatePreset_of_lookup hl hbody
    have hl' : (s.updatePreset lib presetId body).2.presetsHolder.presetsStorage.lookup
        (pathId presetId) = some ptr := by
      rw [hstep]
      exact hl
    have hobject : (s.updatePreset lib presetId body).2.presetsHolder.objects ptr =
        (s.presetsHolder.objects ptr).replaceStages lib.toToolchain stages := by
      rw [hstep]
      exact PresetsHolder.objects_modify_self _ _ _
    obtain ⟨hlookup, hrest⟩ := ih hl'
    rw [hobject] at hrest
    exact ⟨hlookup, hrest⟩

/-- **A preset has the stages of its last update**, and a complete run takes these and no
others, exactly when no list before was longer. -/
theorem stages_of_last_update_iff
    (hl : s.presetsHolder.presetsStorage.lookup (pathId presetId) = some ptr)
    {bodies : List Body} {updates : List (List StageItem)}
    (hparse : List.Forall₂ (fun body stages => parsePresetUpdateRequest lib body =
      .ok (.stages stages)) bodies updates)
    {lastBody : Body} {stages : List StageItem}
    (hlast : parsePresetUpdateRequest lib lastBody = .ok (.stages stages)) :
    let updated := (s.updatePresets lib presetId (bodies ++ [lastBody])).presetsHolder.objects ptr
    let longest := (s.presetsHolder.objects ptr).numStages ≤ stages.length ∧
      ∀ earlier ∈ updates, earlier.length ≤ stages.length
    (updated.numStages = stages.length ∧
        updated.forEachStage (fun item visited => visited ++ [item]) [] = stages ↔ longest) ∧
      ∀ {tc : Toolchain} {ptr' : PresetPtr} {run : List Moment},
        CompleteRun tc ptr' updated.presetItems run →
          ((∀ i item, (ptr', i, item) ∈ enteredIn tc run ↔ stages[i]? = some item) ↔
            longest) := by
  intro updated longest
  have hwhole := (updatePresets_stages hl (List.rel_append hparse (.cons hlast .nil))).2
  rw [List.foldl_append, List.foldl_cons, List.foldl_nil] at hwhole
  have hitems : updated.presetItems.items = stages ↔ longest := by
    show ((updatePresets lib presetId _ s).presetsHolder.objects ptr).presetItems.items = _ ↔ _
    rw [hwhole, Preset.items_replaceStages_eq_iff, Preset.numStages_foldl_le_iff]
  have hvisited : updated.forEachStage (fun item visited => visited ++ [item]) [] =
      updated.presetItems.items := by
    have hmap := updated.forEachStage_append (fun item => item) []
    rwa [List.map_id', List.nil_append] at hmap
  refine ⟨?_, fun hrun => ?_⟩
  · rw [hvisited, ← hitems]
    refine ⟨fun h => h.2, fun h => ⟨?_, h⟩⟩
    rw [Preset.numStages_eq, h]
  · rw [← hitems]
    constructor
    · intro htaken
      refine List.ext_getElem? fun i => Option.ext fun item => ?_
      rw [← hrun.mem_enteredIn_iff, htaken]
    · intro heq i item
      rw [hrun.mem_enteredIn_iff, heq]

/-- Two stages without heating, and one of them. -/
def longText : String :=
  "\x7b\"stages\":[\x7b\"temperature\":0\x7d,\x7b\"temperature\":0\x7d]\x7d"
def shortText : String := "\x7b\"stages\":[\x7b\"temperature\":0\x7d]\x7d"

def updateDocs : List (String × Json) :=
  [(longText, .object [("stages", .array [.object [("temperature", .numberUnsigned 0)],
      .object [("temperature", .numberUnsigned 0)]])]),
    (shortText, .object [("stages", .array [.object [("temperature", .numberUnsigned 0)]])])]

def updateLibraries : Libraries := .sample updateDocs

theorem parse_longText : parsePresetUpdateRequest updateLibraries (asciiBytes longText) =
    .ok (.stages [⟨0, 0⟩, ⟨0, 0⟩]) := by
  rfl

theorem parse_shortText : parsePresetUpdateRequest updateLibraries (asciiBytes shortText) =
    .ok (.stages [⟨0, 0⟩]) := by
  rfl

/-- A server with a new preset under id 4. -/
def newPreset : Server := make.addNewPreset .sample "lead"

theorem lookup_newPreset :
    newPreset.presetsHolder.presetsStorage.lookup (pathId "4") = some 0 := by
  decide

/-- A run on the longer list, up to its own end. -/
theorem completeRun_skippedRun : CompleteRun .sample 0 skippedStages skippedMoments where
  reached := ⟨make, skippedRun, _, _, _, constructed_make, skippedRun_history, skippedRun_opens⟩
  running := skippedRun_running
  items := skippedRun_items
  ended := by
    have hprocess : (skippedMoments.get ⟨3, by decide⟩).activity = .process ⟨0, 0⟩ := rfl
    refine ⟨skippedMoments.take 3, skippedMoments.get ⟨3, by decide⟩, rfl, by decide, ?_⟩
    rw [hprocess]
    simp

/-- The longer list last. -/
theorem stages_of_last_update_iff_long :
    let updated := (newPreset.updatePresets updateLibraries "4"
      ([asciiBytes shortText] ++ [asciiBytes longText])).presetsHolder.objects 0
    let longest := (newPreset.presetsHolder.objects 0).numStages ≤ 2 ∧
      ∀ earlier ∈ [[(⟨0, 0⟩ : StageItem)]], earlier.length ≤ 2
    (updated.numStages = 2 ∧
        updated.forEachStage (fun item visited => visited ++ [item]) [] = [⟨0, 0⟩, ⟨0, 0⟩] ↔
      longest) ∧
      ((∀ i item, (0, i, item) ∈ enteredIn .sample skippedMoments ↔
          [⟨0, 0⟩, ⟨0, 0⟩][i]? = some item) ↔ longest) := by
  have hiff := stages_of_last_update_iff lookup_newPreset (.cons parse_shortText .nil) parse_longText
  exact ⟨hiff.1, hiff.2 completeRun_skippedRun⟩

/-- The shorter list last: both stages stay, and a run takes the second one as well. -/
theorem stages_stay_behind :
    let updated := (newPreset.updatePresets updateLibraries "4"
      [asciiBytes longText, asciiBytes shortText]).presetsHolder.objects 0
    parsePresetUpdateRequest updateLibraries (asciiBytes shortText) = .ok (.stages [⟨0, 0⟩]) ∧
      updated.numStages = 2 ∧
      updated.forEachStage (fun item visited => visited ++ [item]) [] ≠ [⟨0, 0⟩] ∧
      CompleteRun .sample 0 updated.presetItems skippedMoments ∧
      (0, 1, ⟨0, 0⟩) ∈ enteredIn .sample skippedMoments := by
  intro updated
  have hvisited : updated.forEachStage (fun item visited => visited ++ [item]) [] =
      [⟨0, 0⟩, ⟨0, 0⟩] := rfl
  refine ⟨parse_shortText, rfl, ?_, completeRun_skippedRun, by decide⟩
  rw [hvisited]
  decide

end Server

end ReflowTable

import ReflowTable.GetPreset

/-!
# The ids of presets in the requests

A client names a preset by the id `createPreset` gave it: in decimal in the paths of `GetPreset`
and `UpdatePreset`, and as a JSON number in `select-preset`. An id is a hash, so any 64-bit word.
`GetPreset` reads the path with `stoull`, which has the words' range, but `UpdatePreset` with
`atoll`, which stops at the largest signed word: it does not find the presets with ids above.
-/

namespace ReflowTable.Server

/-- An id as a path spells it. -/
def idPath (id : UInt64) : String := toString id.toNat

theorem toList_idPath (id : UInt64) : (idPath id).toList = Numerals.decimal 0 id.toNat := by
  rw [idPath, Nat.toString_eq_repr, Nat.toList_repr]
  rfl

/-- `GetPreset` reads the id back. -/
theorem stoull_idPath (id : UInt64) : Numerals.stoull (idPath id).toList = .ok id.toNat := by
  rw [toList_idPath]
  exact Numerals.stoull_decimal id.toNat_lt

/-- `UpdatePreset` reads at most the largest `long long`. -/
theorem toNat_pathId_idPath (id : UInt64) :
    (pathId (idPath id)).toNat = min (2 ^ 63 - 1) id.toNat := by
  have hread : Casts.atoll (idPath id).toList = ((min (2 ^ 63 - 1) id.toNat : ℕ) : ℤ) := by
    rw [toList_idPath, Numerals.atoll_decimal]
    omega
  have hlt : min (2 ^ 63 - 1) id.toNat < 2 ^ 64 := by omega
  rw [pathId, hread, Casts.ofInt_natCast hlt]
  exact UInt64.toNat_ofNat_of_lt' hlt

theorem pathId_idPath_iff (id : UInt64) : pathId (idPath id) = id ↔ id.toNat < 2 ^ 63 := by
  have hpath := toNat_pathId_idPath id
  rw [← UInt64.toNat_inj, hpath]
  omega

/-- The document of a `select-preset` command. -/
def selectDoc (id : UInt64) : Json :=
  .object [("command", .string CommandsParser.kSelectPresetCommand),
    ("payload", .object [("preset-id", .numberUnsigned id)])]

variable {lib : Libraries}

theorem pushCommand_selectDoc {body : Body} {id : UInt64} (hbody : lib.parse body = selectDoc id)
    (s : Server) : s.pushCommand lib body = (.ok .ok, s.postCommand (.selectPreset id)) := by
  have hparse : CommandsParser.parseCommandContext lib body = .ok (.ok (.selectPreset id)) := by
    unfold CommandsParser.parseCommandContext CommandsParser.parseCommand
    rw [hbody]
    rfl
  simp only [pushCommand, hparse]

/-- The ways to name a preset all lead to this one. -/
structure ReachedEveryWay (lib : Libraries) (s : Server) (id : UInt64) (ptr : PresetPtr) :
    Prop where
  /-- `GetPreset` answers with it -/
  get : s.getPreset (idPath id) = .ok ⟨k200OK, .json (s.presetsHolder.objects ptr).document⟩
  /-- `UpdatePreset` finds it -/
  found : s.presetsHolder.getPresetById (pathId (idPath id)) = .ok ptr
  /-- so an update is made to it -/
  update : ∀ body parsedState, RequestUtils.parsePresetUpdateRequest lib body = .ok parsedState →
    s.updatePreset lib (idPath id) body = (.ok .ok, { s with
      presetsHolder := s.presetsHolder.modify ptr (parseResultVisitor lib parsedState) })
  /-- `select-preset` posts its id -/
  select : ∀ body, lib.parse body = selectDoc id →
    s.pushCommand lib body = (.ok .ok, s.postCommand (.selectPreset id))
  /-- which an idle controller finds -/
  selected : ∀ c : ReflowProcessController, c.isReflowRunning = false →
    c.handlePresetSelection s.presetsHolder id =
      .done { c with activePresetId := some id, activePreset := some ptr }

/-- **Every way leads to the preset exactly when its id is in the lower half of the range.** -/
theorem reachedEveryWay_iff {s : Server} {id : UInt64} {ptr : PresetPtr}
    (hl : s.presetsHolder.presetsStorage.lookup id = some ptr) :
    ReachedEveryWay lib s id ptr ↔ id.toNat < 2 ^ 63 := by
  rw [← pathId_idPath_iff]
  constructor
  · intro h
    -- no preset is stored under two ids
    exact s.presetsHolder.unique (PresetsHolder.getPresetById_eq_ok.mp h.found) hl
  · intro hpath
    have hpathLookup : s.presetsHolder.presetsStorage.lookup (pathId (idPath id)) = some ptr := by
      rw [hpath]
      exact hl
    refine ⟨?_, ?_, ?_, ?_, ?_⟩
    · exact getPreset_of_lookup (stoull_idPath id) hl
    · exact PresetsHolder.getPresetById_eq_ok.mpr hpathLookup
    · intro body parsedState hparse
      exact updatePreset_of_lookup hpathLookup hparse
    · intro body hbody
      exact pushCommand_selectDoc hbody s
    · intro c hidle
      exact ReflowProcessController.handlePresetSelection_of_some hidle hl

theorem reachedEveryWay_iff_lead :
    ReachedEveryWay sessionLibraries servedPreset 4 0 ↔ (4 : UInt64).toNat < 2 ^ 63 := by
  have hl : servedPreset.presetsHolder.presetsStorage.lookup 4 = some 0 := by decide
  exact reachedEveryWay_iff hl

/-- The first id above the signed words. -/
def highId : UInt64 := 0x8000000000000000

/-- The libraries with a hash that gives it. -/
def highLibraries : Libraries := { sessionLibraries with hash := fun _ => highId }

/-- A server with a preset under such an id. -/
def highServer : Server := make.addNewPreset highLibraries.toToolchain "lead"

/-- `GetPreset` answers with the preset, `UpdatePreset` throws whatever the body. -/
theorem not_reachedEveryWay_lead :
    highServer.presetsHolder.presetsStorage.lookup highId = some 0 ∧
      highServer.getPreset (idPath highId) =
        .ok ⟨k200OK, .json (highServer.presetsHolder.objects 0).document⟩ ∧
      (∀ body, highServer.updatePreset highLibraries (idPath highId) body =
        (.error (.fault (.runtimeError
          "Attempt to take unexisting preset by id:9223372036854775807")), highServer)) ∧
      ¬ ReachedEveryWay highLibraries highServer highId 0 := by
  have hl : highServer.presetsHolder.presetsStorage.lookup highId = some 0 := by decide
  have hget := getPreset_of_lookup (stoull_idPath highId) hl
  have hpath : pathId (idPath highId) = 0x7FFFFFFFFFFFFFFF := by
    rw [← UInt64.toNat_inj, toNat_pathId_idPath]
    rfl
  have hnone : highServer.presetsHolder.presetsStorage.lookup 0x7FFFFFFFFFFFFFFF = none := by decide
  have hput := PresetsHolder.getPresetById_of_lookup_none hnone
  refine ⟨hl, hget, fun body => ?_, fun hreached => ?_⟩
  · simp only [updatePreset, hpath, hput]
    rfl
  · have hfound := hreached.found
    rw [hpath, hput] at hfound
    simp at hfound

end ReflowTable.Server

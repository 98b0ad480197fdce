import ReflowTable.OvenService
import ReflowTable.PresetIds

/-!
# What became of a preset

The presets are so many stores. What `GetPreset` answers for an id depends on the requests that
name the id, in their order, and on nothing else: not on the requests for other presets, the
commands, the run, or the readings (`Server.getPreset_of_session`). `GetPresets` lists the same
presets (`Server.getPresets_lists`).
-/

namespace ReflowTable

open RequestUtils (parsePresetName parsePresetUpdateRequest)

variable (lib : Libraries)

/-- The id of the preset a request is for. -/
def HttpRequest.addressee : HttpRequest → Option UInt64
  | .createPreset body =>
    match parsePresetName lib (lib.urlDecode body) with
    | .ok (some presetName) => some (lib.hash presetName)
    | _ => none
  | .updatePreset presetId _ => some (Server.pathId presetId)
  | _ => none

/-- What a request makes of the preset it is for. The first one of a name creates it, the others
find it there. -/
def HttpRequest.effect (recipe : Option Recipe) : HttpRequest → Option Recipe
  | .createPreset body =>
    match parsePresetName lib (lib.urlDecode body) with
    | .ok (some presetName) => some (recipe.getD ⟨presetName, []⟩)
    | _ => recipe
  | .updatePreset _ body =>
    match parsePresetUpdateRequest lib body with
    | .ok parsedState => recipe.map (Recipe.update parsedState)
    | .error _ => recipe
  | _ => recipe

/-- The requests for a preset, in order. -/
def requestsFor (id : UInt64) (events : List Event) : List HttpRequest :=
  events.filterMap fun e =>
    match e with
    | .request req => if req.addressee lib = some id then some req else none
    | .tick _ => none

/-- The preset these requests make. -/
def recipeOf (requests : List HttpRequest) : Option Recipe :=
  requests.foldl (HttpRequest.effect lib) none

namespace Oven

variable {lib}

/-- **A request changes the preset it is for, and no other.** -/
theorem recipes_change (req : HttpRequest) (o : Oven) :
    (o.change lib req).2.recipes =
      match req.addressee lib with
      | none => o.recipes
      | some id => Function.update o.recipes id (req.effect lib (o.recipes id)) := by
  cases req with
  | createPreset body =>
    simp only [change, createPreset, HttpRequest.addressee, HttpRequest.effect]
    cases parsePresetName lib (lib.urlDecode body) with
    | error e => rfl
    | ok parsed =>
      cases parsed with
      | none => rfl
      | some presetName =>
        dsimp only
        cases hfound : o.recipes (lib.hash presetName) with
        | none =>
          show (o.add _ _).recipes = _
          rw [add, hfound]
        | some recipe =>
          -- the name is taken
          rw [Option.getD_some, ← hfound, Function.update_eq_self, hfound]
  | updatePreset presetId body =>
    simp only [change, updatePreset, HttpRequest.addressee, HttpRequest.effect]
    cases hfound : o.recipes (Server.pathId presetId) with
    | none =>
      have hnone : (match parsePresetUpdateRequest lib body with
          | .ok parsedState => none.map (Recipe.update parsedState)
          | .error _ => none) = o.recipes (Server.pathId presetId) := by
        rw [hfound]
        cases parsePresetUpdateRequest lib body <;> rfl
      rw [hnone, Function.update_eq_self]
    | some recipe =>
      cases parsePresetUpdateRequest lib body with
      | error e => rw [← hfound, Function.update_eq_self, hfound]
      | ok parsedState =>
        show (o.edit _ _).recipes = _
        rw [edit, hfound]
  | pushCommand body =>
    simp only [change, pushCommand, HttpRequest.addressee]
    cases CommandsParser.parseCommandContext lib body with
    | error e => rfl
    | ok parsed => cases parsed <;> rfl
  | setRegulatorParams body =>
    simp only [change, setRegulatorParams, HttpRequest.addressee]
    split_ifs
    · rfl
    · cases RequestUtils.parseRegulatorParams lib body with
      | error e => rfl
      | ok parsed => cases parsed <;> rfl

end Oven

namespace Server

variable {lib} {s : Server}

theorem recipes_handle (req : HttpRequest) (id : UInt64) (s : Server) :
    (s.handle lib req).2.presetsHolder.recipes id =
      if req.addressee lib = some id then req.effect lib (s.presetsHolder.recipes id)
      else s.presetsHolder.recipes id := by
  have hoven : (s.handle lib req).2.presetsHolder.recipes = (s.oven.change lib req).2.recipes := by
    rw [← handle_oven]
    rfl
  have hrecipes : s.oven.recipes = s.presetsHolder.recipes := rfl
  rw [hoven, Oven.recipes_change, hrecipes]
  cases req.addressee lib with
  | none => rfl
  | some other =>
    dsimp only
    rw [Function.update_apply]
    by_cases hid : id = other
    · rw [if_pos hid, if_pos (congrArg some hid.symm), hid]
    · rw [if_neg hid, if_neg fun h => hid (Option.some.inj h).symm]

/-- **Run lemma.** -/
theorem recipes_run (id : UInt64) (events : List Event) (s : Server) :
    ((service lib).run s events).presetsHolder.recipes id =
      (requestsFor lib id events).foldl (HttpRequest.effect lib) (s.presetsHolder.recipes id) := by
  induction events generalizing s with
  | nil => rfl
  | cons e events ih =>
    rw [System.run_cons, ih]
    cases e with
    | tick input => rfl
    | request req =>
      have hstep : ((service lib).step s (.request req)).presetsHolder.recipes id = _ :=
        recipes_handle req id s
      rw [hstep, requestsFor, requestsFor, List.filterMap_cons]
      dsimp only
      split_ifs <;> rfl

/-- **Presets do not disturb each other.** After any session of requests and ticks, `GetPreset`
answers for every id with the preset that the requests for this id make, taken alone and in their
order; when they make none, it throws. -/
theorem getPreset_of_session (lib : Libraries) (t : ℤ) (events : List Event) (id : UInt64) :
    ((service lib).run ⟨.make, .make t⟩ events).getPreset (idPath id) =
      match recipeOf lib (requestsFor lib id events) with
      | none => .error (.fault (Oven.unknown id))
      | some recipe => .ok ⟨k200OK, .json recipe.document⟩ := by
  have hrun : ((service lib).run ⟨.make, .make t⟩ events).oven.recipes id =
      recipeOf lib (requestsFor lib id events) := recipes_run id events _
  cases hrecipe : recipeOf lib (requestsFor lib id events) with
  | none =>
    rw [hrecipe] at hrun
    simp only [getPreset_oven, Oven.getPreset, stoull_idPath, UInt64.ofNat_toNat, hrun]
  | some recipe =>
    rw [hrecipe] at hrun
    simp only [getPreset_oven, Oven.getPreset, stoull_idPath, UInt64.ofNat_toNat, hrun]

/-- **`GetPresets` lists what `GetPreset` finds**: in every state, each preset once, with its name,
from the least id to the greatest. -/
theorem getPresets_lists (s : Server) :
    ∃ entries : List (UInt64 × String),
      s.getPresets = ⟨k200OK, .json (.array (entries.map fun entry =>
        presetObj entry.1 entry.2))⟩ ∧
      entries.length = s.presetsHolder.presetsCount ∧
      (entries.Pairwise fun a b => a.1 < b.1) ∧
      ∀ id presetName, (id, presetName) ∈ entries ↔ ∃ doc,
        s.getPreset (idPath id) = .ok ⟨k200OK, .json doc⟩ ∧
          doc.find "preset-name" = some (.string presetName) := by
  have hlists := (lists_recipes s.presetsHolder).map Recipe.name
  refine ⟨_, ?_, ?_, hlists.ascending, fun id presetName => ?_⟩
  · rw [getPresets_eq, List.map_map, List.map_map]
    rfl
  · rw [List.length_map, List.length_map, PresetsHolder.length_ascending]
  · rw [hlists.mem_iff, getPreset_oven, Oven.getPreset, stoull_idPath]
    dsimp only
    rw [UInt64.ofNat_toNat]
    show (s.oven.recipes id).map Recipe.name = _ ↔ _
    cases s.oven.recipes id with
    | none => simp
    | some recipe =>
      have hfind : recipe.document.find "preset-name" = some (.string recipe.name) := rfl
      simp [hfind, eq_comm]

end Server

end ReflowTable

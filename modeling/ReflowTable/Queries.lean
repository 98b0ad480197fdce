import ReflowTable.GetPreset
import ReflowTable.Lib.Listings

/-!
# The requests that only read

`soldering_table_responses_handler.cpp`: `GetPresets`, `GetStats` and `GetRegulatorParams`, beside
`GetPreset`; and `forEachPreset`, `presetsCount` and `isEmpty` of the holder. The documents are
`Json::Value`s. Those have signed and unsigned integers of either size; here the former are
`numberInteger`, the latter `numberUnsigned`.
-/

namespace ReflowTable

open Listings

/-! ## The holder's presets -/

namespace PresetsHolder

def isEmpty (h : PresetsHolder) : Bool := h.presetsStorage.entries.isEmpty

def presetsCount (h : PresetsHolder) : ℕ := h.presetsStorage.entries.length

/-- Hands every preset to `callback`, which acts on a state of its own. A `std::map` is traversed
in the order of its keys. -/
def forEachPreset {σ : Type} (callback : UInt64 → PresetPtr → σ → σ) (h : PresetsHolder) (s : σ) :
    σ :=
  h.presetsStorage.ascending.foldl (fun s entry => callback entry.1 entry.2 s) s

/-- A callback that collects something of every preset. -/
theorem forEachPreset_append {α : Type} (f : UInt64 → PresetPtr → α) (h : PresetsHolder)
    (collected : List α) :
    h.forEachPreset (fun presetHash presetPtr collected => collected ++ [f presetHash presetPtr])
        collected =
      collected ++ h.presetsStorage.ascending.map fun entry => f entry.1 entry.2 := by
  unfold forEachPreset
  induction h.presetsStorage.ascending generalizing collected with
  | nil => simp
  | cons entry entries ih =>
    rw [List.foldl_cons, ih, List.map_cons, List.append_assoc]
    rfl

theorem length_ascending (h : PresetsHolder) :
    h.presetsStorage.ascending.length = h.presetsCount := by
  rw [AList.ascending, List.length_mergeSort, List.length_map, presetsCount]

theorem isEmpty_iff (h : PresetsHolder) : h.isEmpty = true ↔ h.presetsCount = 0 := by
  rw [isEmpty, presetsCount, List.isEmpty_iff, List.length_eq_zero_iff]

end PresetsHolder

/-! ## The controller's observers -/

namespace ReflowProcessController

def getTableTemperature (s : ReflowProcessController) : Int32 := s.lastModbusData.tableTemperature

def getSurroundingTemperature (s : ReflowProcessController) : Int32 :=
  s.lastModbusData.surroundingTemperature

end ReflowProcessController

/-! ## The documents -/

def presetObj (presetHash : UInt64) (presetName : String) : Json :=
  .object [("preset-id", .numberUnsigned presetHash), ("preset-name", .string presetName)]

/-- `Json::nullValue` is an enumerator, and the choice between it and an id an integer. -/
def nullValue : UInt64 := 0

/-- The document of `GetStats`. `systemTime` is in seconds. -/
def statsDocument (tableTemperature surroundingTemperature : Int32) (systemTime : ℤ)
    (isReflowRunning : Bool) (activePreset : Option UInt64) : Json :=
  .object
    [("temperature-data", .numberInteger tableTemperature.toInt64),
      ("surrounding-temperature", .numberInteger surroundingTemperature.toInt64),
      ("system-time", .numberInteger (.ofInt systemTime)),
      ("is-reflow-running", .boolean isReflowRunning),
      ("active-preset-id", .numberUnsigned (activePreset.getD nullValue))]

def regulatorDocument (regulatorParams : RegulatorParams) : Json :=
  .object [("hysteresis", .numberUnsigned regulatorParams.hysteresis.toUInt64),
    ("k", .numberFloat regulatorParams.k)]

inductive Query
  | getPreset (presetId : String)
  | getPresets
  | getStats
  | getRegulatorParams

namespace Server

def getPresets (s : Server) : HttpResponse :=
  ⟨k200OK, .json (.array (s.presetsHolder.forEachPreset
    (fun presetHash presetPtr ret =>
      ret ++ [presetObj presetHash (s.presetsHolder.objects presetPtr).presetName]) []))⟩

/-- The two temperatures are of one reading, since nothing else moves during a request here. -/
def getStats (s : Server) : HttpResponse :=
  let c := s.reflowController
  -- `duration_cast` rounds toward zero
  ⟨k200OK, .json (statsDocument c.getTableTemperature c.getSurroundingTemperature
    (c.getSystickTime.tdiv 1000) c.isRunning c.getActiveReflowPresetId)⟩

def getRegulatorParams (s : Server) : HttpResponse :=
  ⟨k200OK, .json (regulatorDocument s.reflowController.getRegulatorParams)⟩

def answer (s : Server) : Query → Except GetPresetException HttpResponse
  | .getPreset presetId => s.getPreset presetId
  | .getPresets => .ok s.getPresets
  | .getStats => .ok s.getStats
  | .getRegulatorParams => .ok s.getRegulatorParams

theorem getPresets_eq (s : Server) :
    s.getPresets = ⟨k200OK, .json (.array (s.presetsHolder.presetsStorage.ascending.map
      fun entry => presetObj entry.1 (s.presetsHolder.objects entry.2).presetName))⟩ := by
  rw [getPresets, PresetsHolder.forEachPreset_append, List.nil_append]

end Server

end ReflowTable

import ReflowTable.HeaterOff
import ReflowTable.History
import ReflowTable.Lib.Lockstep

/-!
# A run leaves nothing behind for the next

Two idle controllers with the same selection and the same register data may have different
histories: another system time, another step, another cached stage, another completion timepoint.
`Alike` lists what two controllers have to agree on: while idle none of the four; during a run the
step, what the cached pointer reads once a stage is entered, and during a soak the time to its
completion. Every function of the controller preserves it, so two such controllers do the same
on the same commands and readings.
-/

namespace ReflowTable

open ReflowProcessController
open Outcome (Lockstep)

/-! ## Holders with equal contents -/

namespace PresetsHolder

/-- The name and the stages found under an id. -/
def contentsOf (id : UInt64) (h : PresetsHolder) : Option (String × List StageItem) :=
  (h.presetsStorage.lookup id).map fun ptr =>
    ((h.objects ptr).presetName, (h.objects ptr).presetItems.items)

/-- Every id has the same name and stages in both. -/
def SameContents (h₁ h₂ : PresetsHolder) : Prop := ∀ id, h₁.contentsOf id = h₂.contentsOf id

/-- No preset in both cases, or the presets of one id. -/
def SamePreset (h₁ h₂ : PresetsHolder) (preset₁ preset₂ : Option PresetPtr) : Prop :=
  (preset₁ = none ∧ preset₂ = none) ∨
    ∃ id ptr₁ ptr₂, preset₁ = some ptr₁ ∧ preset₂ = some ptr₂ ∧
      h₁.presetsStorage.lookup id = some ptr₁ ∧ h₂.presetsStorage.lookup id = some ptr₂

variable {h₁ h₂ : PresetsHolder}

theorem SameContents.lookup_eq_none_iff (h : SameContents h₁ h₂) (id : UInt64) :
    h₁.presetsStorage.lookup id = none ↔ h₂.presetsStorage.lookup id = none := by
  have hid := h id
  unfold contentsOf at hid
  constructor
  · intro hnone
    rwa [hnone, Option.map_none, eq_comm, Option.map_eq_none_iff] at hid
  · intro hnone
    rwa [hnone, Option.map_none, Option.map_eq_none_iff] at hid

theorem SameContents.items_eq (h : SameContents h₁ h₂) {id : UInt64} {ptr₁ ptr₂ : PresetPtr}
    (hl₁ : h₁.presetsStorage.lookup id = some ptr₁)
    (hl₂ : h₂.presetsStorage.lookup id = some ptr₂) :
    (h₁.objects ptr₁).presetItems.items = (h₂.objects ptr₂).presetItems.items := by
  have hid := h id
  simp only [contentsOf, hl₁, hl₂, Option.map_some, Option.some.injEq, Prod.mk.injEq] at hid
  exact hid.2

end PresetsHolder

open PresetsHolder (SameContents SamePreset)

/-! ## Controllers alike -/

/-- What the cached stage pointer reads. -/
def cachedItem (h : PresetsHolder) (c : ReflowProcessController) : Option StageItem :=
  c.reflowProcessData.activePresetState.bind fun sp => h.readStage sp

/-- The process data of two runs, as far as they are read again. -/
structure SamePhase (h₁ h₂ : PresetsHolder) (c₁ c₂ : ReflowProcessController) : Prop where
  step : c₁.reflowProcessData.reflowStep = c₂.reflowProcessData.reflowStep
  cached : c₁.reflowProcessData.reflowStep ≠ .kInitStep →
    ∃ item, cachedItem h₁ c₁ = some item ∧ cachedItem h₂ c₂ = some item
  /-- the timepoint counts relative to the system time only -/
  timepoint : c₁.reflowProcessData.reflowStep = .kInProgress →
    c₁.reflowProcessData.stageCompletionTimepoint - c₁.sysTickTime =
      c₂.reflowProcessData.stageCompletionTimepoint - c₂.sysTickTime

/-- Two controllers that will do the same; `w₁` and `w₂` are their writes up to some earlier
moment, after which they have made the same ones. -/
structure Alike (h₁ h₂ : PresetsHolder) (w₁ w₂ : List RegistersWrite)
    (c₁ c₂ : ReflowProcessController) : Prop where
  running : c₁.isReflowRunning = c₂.isReflowRunning
  queue : c₁.requestsQueue = c₂.requestsQueue
  preset : SamePreset h₁ h₂ c₁.activePreset c₂.activePreset
  presetId : c₁.activePresetId = c₂.activePresetId
  data : c₁.lastModbusData = c₂.lastModbusData
  index : c₁.reflowProcessData.activeStageIndex = c₂.reflowProcessData.activeStageIndex
  phase : c₁.isReflowRunning = true → SamePhase h₁ h₂ c₁ c₂
  made : ∃ w, writes c₁.trace = w₁ ++ w ∧ writes c₂.trace = w₂ ++ w

/-- By how much the first controller's system time is ahead. -/
def lag (c₁ c₂ : ReflowProcessController) : ℤ := c₁.sysTickTime - c₂.sysTickTime

/-- The controllers are alike after a step as well, and either it ended a run or it left their
lag as it was. -/
structure StaysAlike (h₁ h₂ : PresetsHolder) (w₁ w₂ : List RegistersWrite)
    (c₁ c₂ c₁' c₂' : ReflowProcessController) : Prop where
  alike : Alike h₁ h₂ w₁ w₂ c₁' c₂'
  lag_eq : lag c₁' c₂' = lag c₁ c₂ ∨ c₁.isReflowRunning = true ∧ c₁'.isReflowRunning = false

namespace Alike

variable {tc : Toolchain} {h₁ h₂ : PresetsHolder} {w₁ w₂ : List RegistersWrite}
  {c₁ c₂ : ReflowProcessController} {freed₁ freed₂ : StageItem}

theorem stays (h : Alike h₁ h₂ w₁ w₂ c₁ c₂) : StaysAlike h₁ h₂ w₁ w₂ c₁ c₂ c₁ c₂ :=
  ⟨h, .inl rfl⟩

/-! ### Commands -/

theorem setQueue (h : Alike h₁ h₂ w₁ w₂ c₁ c₂) (queue : List CommandVariant) :
    Alike h₁ h₂ w₁ w₂ { c₁ with requestsQueue := queue } { c₂ with requestsQueue := queue } :=
  { h with
    queue := rfl
    phase := fun hrun => ⟨(h.phase hrun).step, (h.phase hrun).cached, (h.phase hrun).timepoint⟩ }

/-- The run begins, or begins again, with the stage at the index. -/
theorem handleReflowStart (h : Alike h₁ h₂ w₁ w₂ c₁ c₂) :
    StaysAlike h₁ h₂ w₁ w₂ c₁ c₂ c₁.handleReflowStart c₂.handleReflowStart := by
  rcases h.preset with ⟨hp₁, hp₂⟩ | ⟨id, ptr₁, ptr₂, hp₁, hp₂, -, -⟩
  · rw [handleReflowStart_of_none hp₁, handleReflowStart_of_none hp₂]
    exact h.stays
  · rw [handleReflowStart_of_some hp₁, handleReflowStart_of_some hp₂]
    refine ⟨{ h with running := rfl, phase := fun _ => ?_ }, .inl rfl⟩
    -- whatever was cached or computed before is overwritten before it is read
    refine ⟨rfl, fun hne => absurd rfl hne, fun hsoak => ?_⟩
    simp [started] at hsoak

theorem ended (h : Alike h₁ h₂ w₁ w₂ c₁ c₂) : Alike h₁ h₂ w₁ w₂ c₁.ended c₂.ended := by
  obtain ⟨w, hw₁, hw₂⟩ := h.made
  refine ⟨rfl, h.queue, .inl ⟨rfl, rfl⟩, rfl, h.data, rfl, fun hrun => ?_,
    w ++ [⟨kTargetTemperatureAddr, [0]⟩], ?_, ?_⟩
  · simp [ReflowProcessController.ended] at hrun
  · simp [ReflowProcessController.ended, hw₁]
  · simp [ReflowProcessController.ended, hw₂]

theorem staysAlike_ended (h : Alike h₁ h₂ w₁ w₂ c₁ c₂) (hrun : c₁.isReflowRunning = true) :
    StaysAlike h₁ h₂ w₁ w₂ c₁ c₂ c₁.ended c₂.ended :=
  ⟨h.ended, .inr ⟨hrun, rfl⟩⟩

theorem handleReflowEnd (h : Alike h₁ h₂ w₁ w₂ c₁ c₂) :
    StaysAlike h₁ h₂ w₁ w₂ c₁ c₂ c₁.handleReflowEnd c₂.handleReflowEnd := by
  have hrunning := h.running
  cases hrun : c₁.isReflowRunning with
  | false =>
    rw [hrun, eq_comm] at hrunning
    rw [handleReflowEnd_of_idle hrun, handleReflowEnd_of_idle hrunning]
    exact h.stays
  | true =>
    rw [hrun, eq_comm] at hrunning
    rw [handleReflowEnd_of_running hrun, handleReflowEnd_of_running hrunning]
    exact h.staysAlike_ended hrun

theorem handlePresetSelection (hsame : SameContents h₁ h₂) (h : Alike h₁ h₂ w₁ w₂ c₁ c₂)
    (id : UInt64) :
    Lockstep (StaysAlike h₁ h₂ w₁ w₂ c₁ c₂) (c₁.handlePresetSelection h₁ id)
      (c₂.handlePresetSelection h₂ id) := by
  have hrunning := h.running
  cases hrun : c₁.isReflowRunning with
  | true =>
    rw [hrun, eq_comm] at hrunning
    rw [handlePresetSelection_of_running id hrun, handlePresetSelection_of_running id hrunning]
    exact .done h.stays
  | false =>
    rw [hrun, eq_comm] at hrunning
    have hidle : c₁.isReflowRunning ≠ true := by simp [hrun]
    cases hl₁ : h₁.presetsStorage.lookup id with
    | none =>
      have hl₂ := (hsame.lookup_eq_none_iff id).mp hl₁
      rw [handlePresetSelection_of_none hrun hl₁, handlePresetSelection_of_none hrunning hl₂]
      exact .raised _ ⟨{ h with presetId := rfl, phase := fun hon => absurd hon hidle }, .inl rfl⟩
    | some ptr₁ =>
      obtain ⟨ptr₂, hl₂⟩ := Option.ne_none_iff_exists'.mp
        (mt (hsame.lookup_eq_none_iff id).mpr (by simp [hl₁]))
      rw [handlePresetSelection_of_some hrun hl₁, handlePresetSelection_of_some hrunning hl₂]
      refine .done ⟨{ h with
        presetId := rfl
        phase := fun hon => absurd hon hidle
        preset := ?_ }, .inl rfl⟩
      exact .inr ⟨id, ptr₁, ptr₂, rfl, rfl, hl₁, hl₂⟩

theorem setRegulatorParams (h : Alike h₁ h₂ w₁ w₂ c₁ c₂) (params : RegulatorParams) :
    StaysAlike h₁ h₂ w₁ w₂ c₁ c₂ (c₁.setRegulatorParams tc params)
      (c₂.setRegulatorParams tc params) := by
  obtain ⟨w, hw₁, hw₂⟩ := h.made
  refine ⟨{ h with phase := fun hrun => ?_, made := ?_ }, .inl rfl⟩
  · exact ⟨(h.phase hrun).step, (h.phase hrun).cached, (h.phase hrun).timepoint⟩
  · refine ⟨w ++ [⟨kFactorAddr, [tc.toUInt16 params.k, params.hysteresis.toUInt16]⟩], ?_, ?_⟩
    · simp [ReflowProcessController.setRegulatorParams, hw₁]
    · simp [ReflowProcessController.setRegulatorParams, hw₂]

variable (tc) in
/-- **Step lemma for commands.** -/
theorem handleOperation_lockstep (hsame : SameContents h₁ h₂) (h : Alike h₁ h₂ w₁ w₂ c₁ c₂)
    (command : CommandVariant) :
    Lockstep (StaysAlike h₁ h₂ w₁ w₂ c₁ c₂) (handleOperation tc h₁ command c₁)
      (handleOperation tc h₂ command c₂) := by
  have hpop : Alike h₁ h₂ w₁ w₂ { c₁ with requestsQueue := c₁.requestsQueue.tail }
      { c₂ with requestsQueue := c₂.requestsQueue.tail } := by
    rw [← h.queue]
    exact h.setQueue _
  have hvisit : Lockstep (StaysAlike h₁ h₂ w₁ w₂
      { c₁ with requestsQueue := c₁.requestsQueue.tail }
      { c₂ with requestsQueue := c₂.requestsQueue.tail })
      (handleOperation tc h₁ command c₁) (handleOperation tc h₂ command c₂) := by
    cases command with
    | startReflow => exact .done hpop.handleReflowStart
    | stopReflow => exact .done hpop.handleReflowEnd
    | selectPreset id => exact hpop.handlePresetSelection hsame id
    | setRegulatorParams params => exact .done (hpop.setRegulatorParams params)
  exact hvisit.mono fun _ _ hstays => ⟨hstays.alike, hstays.lag_eq⟩

/-! ### The process step -/

theorem requestModbusData (h : Alike h₁ h₂ w₁ w₂ c₁ c₂) (reading : Option ModbusReading) :
    Alike h₁ h₂ w₁ w₂ (c₁.requestModbusData reading) (c₂.requestModbusData reading) := by
  cases reading with
  | none => exact h
  | some words =>
    refine { h with data := rfl, phase := fun hrun => ?_ }
    exact ⟨(h.phase hrun).step, (h.phase hrun).cached, (h.phase hrun).timepoint⟩

/-- A step of a run that writes nothing and keeps the system time and the preset. -/
theorem staysAlike_data (h : Alike h₁ h₂ w₁ w₂ c₁ c₂) {data₁ data₂ : ReflowProcessData}
    (hindex : data₁.activeStageIndex = data₂.activeStageIndex)
    (hphase : SamePhase h₁ h₂ { c₁ with reflowProcessData := data₁ }
      { c₂ with reflowProcessData := data₂ }) :
    StaysAlike h₁ h₂ w₁ w₂ c₁ c₂ { c₁ with reflowProcessData := data₁ }
      { c₂ with reflowProcessData := data₂ } :=
  ⟨{ h with index := hindex, phase := fun _ => hphase }, .inl rfl⟩

section SelectedRun

variable {id : UInt64} {ptr₁ ptr₂ : PresetPtr}

theorem moveToNextStage (hsame : SameContents h₁ h₂) (h : Alike h₁ h₂ w₁ w₂ c₁ c₂)
    (hrun : c₁.isReflowRunning = true) (hp₁ : c₁.activePreset = some ptr₁)
    (hp₂ : c₂.activePreset = some ptr₂) (hl₁ : h₁.presetsStorage.lookup id = some ptr₁)
    (hl₂ : h₂.presetsStorage.lookup id = some ptr₂) :
    Lockstep (StaysAlike h₁ h₂ w₁ w₂ c₁ c₂) (c₁.moveToNextStage h₁) (c₂.moveToNextStage h₂) := by
  have hrun₂ : c₂.isReflowRunning = true := h.running ▸ hrun
  have hnum : (h₁.objects ptr₁).numStages = (h₂.objects ptr₂).numStages := by
    rw [Preset.numStages_eq, Preset.numStages_eq, hsame.items_eq hl₁ hl₂]
  by_cases hlt : c₁.reflowProcessData.activeStageIndex + 1 < (h₁.objects ptr₁).numStages
  · have hlt₂ : c₂.reflowProcessData.activeStageIndex + 1 < (h₂.objects ptr₂).numStages := by
      rw [← h.index, ← hnum]
      exact hlt
    rw [moveToNextStage_of_lt hp₁ hlt, moveToNextStage_of_lt hp₂ hlt₂]
    refine .done (h.staysAlike_data (by rw [h.index]) ⟨rfl, fun hne => absurd rfl hne, ?_⟩)
    simp
  · have hle := Nat.not_lt.mp hlt
    have hle₂ : (h₂.objects ptr₂).numStages ≤ c₂.reflowProcessData.activeStageIndex + 1 := by
      rw [← h.index, ← hnum]
      exact hle
    rw [moveToNextStage_of_le hrun hp₁ hle, moveToNextStage_of_le hrun₂ hp₂ hle₂]
    exact .done (h.staysAlike_ended hrun)

theorem handleInitStep (hsame : SameContents h₁ h₂) (h : Alike h₁ h₂ w₁ w₂ c₁ c₂)
    (hp₁ : c₁.activePreset = some ptr₁) (hp₂ : c₂.activePreset = some ptr₂)
    (hl₁ : h₁.presetsStorage.lookup id = some ptr₁)
    (hl₂ : h₂.presetsStorage.lookup id = some ptr₂) :
    Lockstep (StaysAlike h₁ h₂ w₁ w₂ c₁ c₂) (c₁.handleInitStep h₁ freed₁)
      (c₂.handleInitStep h₂ freed₂) := by
  have hitems := hsame.items_eq hl₁ hl₂
  cases hitem : (h₁.objects ptr₁).presetItems.items[c₁.reflowProcessData.activeStageIndex]? with
  | none =>
    have hle₁ := List.getElem?_eq_none_iff.mp hitem
    have hle₂ : (h₂.objects ptr₂).numStages ≤ c₂.reflowProcessData.activeStageIndex := by
      rw [Preset.numStages_eq, ← hitems, ← h.index]
      exact hle₁
    rw [handleInitStep_of_le hp₁ hle₁, handleInitStep_of_le hp₂ hle₂]
    exact .raised _ h.stays
  | some item =>
    have hitem₂ : (h₂.objects ptr₂).presetItems.items[c₂.reflowProcessData.activeStageIndex]? =
        some item := by
      rw [← hitems, ← h.index]
      exact hitem
    rw [handleInitStep_of_getElem? hp₁ hitem, handleInitStep_of_getElem? hp₂ hitem₂]
    obtain ⟨w, hw₁, hw₂⟩ := h.made
    refine .done ⟨{ h with phase := fun _ => ?_, made := ?_ }, .inl rfl⟩
    · refine ⟨rfl, fun _ => ⟨item, ?_, ?_⟩, fun hsoak => ?_⟩
      · show h₁.readStage _ = _
        rw [PresetsHolder.readStage, Vec.read_ptrTo]
        exact hitem
      · show h₂.readStage _ = _
        rw [PresetsHolder.readStage, Vec.read_ptrTo]
        exact hitem₂
      · simp [entered] at hsoak
    · refine ⟨w ++ [⟨kTargetTemperatureAddr, [item.temperatureStep.toUInt16]⟩], ?_, ?_⟩
      · rw [writes_entered, hw₁, List.append_assoc]
      · rw [writes_entered, hw₂, List.append_assoc]

theorem handlePreheatState (hsame : SameContents h₁ h₂) (h : Alike h₁ h₂ w₁ w₂ c₁ c₂)
    (hrun : c₁.isReflowRunning = true) (hp₁ : c₁.activePreset = some ptr₁)
    (hp₂ : c₂.activePreset = some ptr₂) (hl₁ : h₁.presetsStorage.lookup id = some ptr₁)
    (hl₂ : h₂.presetsStorage.lookup id = some ptr₂)
    (hstep : c₁.reflowProcessData.reflowStep = .kPreheat) :
    Lockstep (StaysAlike h₁ h₂ w₁ w₂ c₁ c₂) (c₁.handlePreheatState h₁ freed₁)
      (c₂.handlePreheatState h₂ freed₂) := by
  have hphase := h.phase hrun
  obtain ⟨item, hcached₁, hcached₂⟩ := hphase.cached (by simp [hstep])
  obtain ⟨sp₁, hsp₁, hread₁⟩ := Option.bind_eq_some_iff.mp hcached₁
  obtain ⟨sp₂, hsp₂, hread₂⟩ := Option.bind_eq_some_iff.mp hcached₂
  -- the pointers are good, so freed memory plays no part
  have hderef₁ : derefStage h₁ freed₁ sp₁ = item := by rw [derefStage, hread₁, Option.getD_some]
  have hderef₂ : derefStage h₂ freed₂ sp₂ = item := by rw [derefStage, hread₂, Option.getD_some]
  by_cases hskip : skipsStage item.temperatureStep c₁.lastModbusData
  · rw [handlePreheatState_of_skip hsp₁ (by rw [hderef₁]; exact hskip),
      handlePreheatState_of_skip hsp₂ (by rw [hderef₂, ← h.data]; exact hskip)]
    exact h.moveToNextStage hsame hrun hp₁ hp₂ hl₁ hl₂
  · by_cases hband : canCompletePreheatStage item.temperatureStep c₁.lastModbusData
    · rw [handlePreheatState_of_band hsp₁ (by rw [hderef₁]; exact hskip)
          (by rw [hderef₁]; exact hband),
        handlePreheatState_of_band hsp₂ (by rw [hderef₂, ← h.data]; exact hskip)
          (by rw [hderef₂, ← h.data]; exact hband), hderef₁, hderef₂]
      refine .done (h.staysAlike_data h.index ⟨rfl, fun _ => ⟨item, hcached₁, hcached₂⟩, ?_⟩)
      intro _
      show c₁.sysTickTime + _ - c₁.sysTickTime = c₂.sysTickTime + _ - c₂.sysTickTime
      omega
    · rw [handlePreheatState_of_wait hsp₁ (by rw [hderef₁]; exact hskip)
          (by rw [hderef₁]; exact hband),
        handlePreheatState_of_wait hsp₂ (by rw [hderef₂, ← h.data]; exact hskip)
          (by rw [hderef₂, ← h.data]; exact hband)]
      exact .done h.stays

end SelectedRun

theorem handleInProgressState (h : Alike h₁ h₂ w₁ w₂ c₁ c₂) (hrun : c₁.isReflowRunning = true)
    (hstep : c₁.reflowProcessData.reflowStep = .kInProgress) :
    StaysAlike h₁ h₂ w₁ w₂ c₁ c₂ c₁.handleInProgressState c₂.handleInProgressState := by
  have hphase := h.phase hrun
  have htimepoint := hphase.timepoint hstep
  obtain ⟨item, hcached₁, hcached₂⟩ := hphase.cached (by simp [hstep])
  obtain ⟨sp₁, hsp₁, -⟩ := Option.bind_eq_some_iff.mp hcached₁
  obtain ⟨sp₂, hsp₂, -⟩ := Option.bind_eq_some_iff.mp hcached₂
  have hreached : c₁.reflowProcessData.stageCompletionTimepoint ≤ c₁.sysTickTime ↔
      c₂.reflowProcessData.stageCompletionTimepoint ≤ c₂.sysTickTime := by
    omega
  by_cases htime : c₁.reflowProcessData.stageCompletionTimepoint ≤ c₁.sysTickTime
  · rw [handleInProgressState_of_le hsp₁ htime,
      handleInProgressState_of_le hsp₂ (hreached.mp htime)]
    refine h.staysAlike_data h.index ⟨rfl, fun _ => ⟨item, ?_, ?_⟩, fun hsoak => ?_⟩
    · exact hcached₁
    · exact hcached₂
    · simp at hsoak
  · rw [handleInProgressState_of_not_le htime,
      handleInProgressState_of_not_le (mt hreached.mpr htime)]
    exact h.stays

theorem processReflowStep (hsame : SameContents h₁ h₂) (h : Alike h₁ h₂ w₁ w₂ c₁ c₂) :
    Lockstep (StaysAlike h₁ h₂ w₁ w₂ c₁ c₂) (c₁.processReflowStep h₁ freed₁)
      (c₂.processReflowStep h₂ freed₂) := by
  rcases h.preset with ⟨hp₁, hp₂⟩ | ⟨id, ptr₁, ptr₂, hp₁, hp₂, hl₁, hl₂⟩
  · rw [processReflowStep_of_idle (.inl hp₁), processReflowStep_of_idle (.inl hp₂)]
    exact .done h.stays
  · have hrunning := h.running
    cases hrun : c₁.isReflowRunning with
    | false =>
      rw [hrun, eq_comm] at hrunning
      rw [processReflowStep_of_idle (.inr hrun), processReflowStep_of_idle (.inr hrunning)]
      exact .done h.stays
    | true =>
      have hsteps := (h.phase hrun).step
      rw [hrun, eq_comm] at hrunning
      cases hstep : c₁.reflowProcessData.reflowStep with
      | kInitStep =>
        rw [hstep, eq_comm] at hsteps
        rw [processReflowStep_of_init hp₁ hrun hstep, processReflowStep_of_init hp₂ hrunning hsteps]
        exact h.handleInitStep hsame hp₁ hp₂ hl₁ hl₂
      | kPreheat =>
        rw [hstep, eq_comm] at hsteps
        rw [processReflowStep_of_preheat hp₁ hrun hstep,
          processReflowStep_of_preheat hp₂ hrunning hsteps]
        exact h.handlePreheatState hsame hrun hp₁ hp₂ hl₁ hl₂ hstep
      | kInProgress =>
        rw [hstep, eq_comm] at hsteps
        rw [processReflowStep_of_inProgress hp₁ hrun hstep,
          processReflowStep_of_inProgress hp₂ hrunning hsteps]
        exact .done (h.handleInProgressState hrun hstep)
      | kStageCompleted =>
        rw [hstep, eq_comm] at hsteps
        rw [processReflowStep_of_completed hp₁ hrun hstep,
          processReflowStep_of_completed hp₂ hrunning hsteps]
        exact h.moveToNextStage hsame hrun hp₁ hp₂ hl₁ hl₂

theorem advanceSysTick (h : Alike h₁ h₂ w₁ w₂ c₁ c₂) :
    Alike h₁ h₂ w₁ w₂ c₁.advanceSysTick c₂.advanceSysTick ∧
      lag c₁.advanceSysTick c₂.advanceSysTick = lag c₁ c₂ := by
  have hrunning := h.running
  cases hrun : c₁.isReflowRunning with
  | false =>
    rw [hrun, eq_comm] at hrunning
    rw [advanceSysTick_of_idle c₁ hrun, advanceSysTick_of_idle c₂ hrunning]
    exact ⟨h, rfl⟩
  | true =>
    rw [hrun, eq_comm] at hrunning
    rw [advanceSysTick_of_running c₁ hrun, advanceSysTick_of_running c₂ hrunning]
    have hphase := h.phase hrun
    refine ⟨{ h with phase := fun _ => ⟨hphase.step, hphase.cached, fun hsoak => ?_⟩ }, ?_⟩
    · have htimepoint := hphase.timepoint hsoak
      show c₁.reflowProcessData.stageCompletionTimepoint - (c₁.sysTickTime + kSystickResolution) =
        c₂.reflowProcessData.stageCompletionTimepoint - (c₂.sysTickTime + kSystickResolution)
      omega
    · show c₁.sysTickTime + kSystickResolution - (c₂.sysTickTime + kSystickResolution) =
        c₁.sysTickTime - c₂.sysTickTime
      omega

/-! ### Ticks -/

/-- **Run lemma for the dispatch loop.** -/
theorem dispatch (hsame : SameContents h₁ h₂) (queue : List CommandVariant)
    (h : Alike h₁ h₂ w₁ w₂ c₁ c₂) :
    Lockstep (fun c₁' c₂' => Alike h₁ h₂ w₁ w₂ c₁' c₂' ∧
        ((∀ m ∈ dispatchMoments tc h₁ queue c₁, ¬ m.EndsRun tc) → lag c₁' c₂' = lag c₁ c₂))
      (Outcome.sweep (handleOperation tc h₁) queue c₁)
      (Outcome.sweep (handleOperation tc h₂) queue c₂) := by
  induction queue generalizing c₁ c₂ with
  | nil => exact .done ⟨h, fun _ => rfl⟩
  | cons command queue ih =>
    have hstep := h.handleOperation_lockstep tc hsame command
    have hlag {c₁' c₂' : ReflowProcessController}
        (hafter : (handleOperation tc h₁ command c₁).state = c₁')
        (hstays : StaysAlike h₁ h₂ w₁ w₂ c₁ c₂ c₁' c₂')
        (hend : ¬ Moment.EndsRun tc ⟨h₁, .handle command, c₁⟩) : lag c₁' c₂' = lag c₁ c₂ := by
      rcases hstays.lag_eq with heq | ⟨hrun, hidle⟩
      · exact heq
      · refine absurd ⟨hrun, ?_⟩ hend
        show (handleOperation tc h₁ command c₁).state.isReflowRunning = false
        rw [hafter]
        exact hidle
    rw [Outcome.sweep_cons, Outcome.sweep_cons, dispatchMoments]
    refine hstep.bind (fun e c₁' c₂' hone hstays => ⟨hstays.alike, fun hends => ?_⟩)
      fun c₁' c₂' hone hstays => ?_
    · exact hlag (by rw [hone]; rfl) hstays (hends _ List.mem_cons_self)
    · rw [hone]
      refine (ih hstays.alike).mono fun _ _ hrest => ⟨hrest.1, fun hends => ?_⟩
      rw [hrest.2 fun m hm => hends m (List.mem_cons_of_mem _ hm)]
      exact hlag (by rw [hone]; rfl) hstays (hends _ List.mem_cons_self)

variable (tc) in
/-- The process step with the clock. -/
theorem process (hsame : SameContents h₁ h₂) (h : Alike h₁ h₂ w₁ w₂ c₁ c₂)
    (freed₁ freed₂ : StageItem) :
    Lockstep (fun c₁' c₂' => Alike h₁ h₂ w₁ w₂ c₁' c₂' ∧
        (¬ Moment.EndsRun tc ⟨h₁, .process freed₁, c₁⟩ → lag c₁' c₂' = lag c₁ c₂))
      ((c₁.processReflowStep h₁ freed₁).bind fun s => .done s.advanceSysTick)
      ((c₂.processReflowStep h₂ freed₂).bind fun s => .done s.advanceSysTick) := by
  have hstep : Lockstep (StaysAlike h₁ h₂ w₁ w₂ c₁ c₂) (c₁.processReflowStep h₁ freed₁)
      (c₂.processReflowStep h₂ freed₂) := h.processReflowStep hsame
  have hlag {c₁' c₂' : ReflowProcessController}
      (hafter : (Moment.after tc ⟨h₁, .process freed₁, c₁⟩).isReflowRunning = c₁'.isReflowRunning)
      (hstays : StaysAlike h₁ h₂ w₁ w₂ c₁ c₂ c₁' c₂')
      (hend : ¬ Moment.EndsRun tc ⟨h₁, .process freed₁, c₁⟩) : lag c₁' c₂' = lag c₁ c₂ := by
    rcases hstays.lag_eq with heq | ⟨hrun, hidle⟩
    · exact heq
    · exact absurd ⟨hrun, hafter.trans hidle⟩ hend
  refine hstep.bind (fun e c₁' c₂' hone hstays => ⟨hstays.alike, hlag ?_ hstays⟩)
    fun c₁' c₂' hone hstays => ?_
  · simp [Moment.after, Moment.outcome, hone]
  · obtain ⟨halike, hclock⟩ := hstays.alike.advanceSysTick
    refine .done ⟨halike, fun hend => ?_⟩
    rw [hclock]
    refine hlag ?_ hstays hend
    simp [Moment.after, Moment.outcome, hone]

variable (tc) in
/-- **Step lemma for ticks**: two controllers that are alike see the same exceptions, make the same
writes and stay alike; only the end of a run changes their lag. -/
theorem runnable (hsame : SameContents h₁ h₂) {input₁ input₂ : TickInput}
    (hreading : input₁.reading = input₂.reading) (h : Alike h₁ h₂ w₁ w₂ c₁ c₂) :
    Lockstep (fun c₁' c₂' => Alike h₁ h₂ w₁ w₂ c₁' c₂' ∧
        ((∀ m ∈ tickMoments tc h₁ input₁ c₁, ¬ m.EndsRun tc) → lag c₁' c₂' = lag c₁ c₂))
      (c₁.runnable tc h₁ input₁) (c₂.runnable tc h₂ input₂) := by
  have hdispatch : Lockstep (fun c₁' c₂' => Alike h₁ h₂ w₁ w₂ c₁' c₂' ∧
      ((∀ m ∈ dispatchMoments tc h₁ c₁.requestsQueue c₁, ¬ m.EndsRun tc) →
        lag c₁' c₂' = lag c₁ c₂))
      (c₁.dispatchCommandsQueue tc h₁) (c₂.dispatchCommandsQueue tc h₂) := by
    unfold ReflowProcessController.dispatchCommandsQueue
    rw [← h.queue]
    exact h.dispatch hsame c₁.requestsQueue
  unfold ReflowProcessController.runnable tickMoments
  refine hdispatch.bind (fun e c₁' c₂' hone ⟨halike, hlag⟩ => ⟨halike, fun hends => ?_⟩)
    fun c₁' c₂' hone ⟨halike, hlag⟩ => ?_
  · exact hlag fun m hm => hends m (List.mem_append_left _ hm)
  · rw [hone, ← hreading]
    have hread := halike.requestModbusData input₁.reading
    have hsameLag : lag (c₁'.requestModbusData input₁.reading)
        (c₂'.requestModbusData input₁.reading) = lag c₁' c₂' := by
      cases input₁.reading <;> rfl
    refine (hread.process tc hsame input₁.freed input₂.freed).mono
      fun _ _ hrest => ⟨hrest.1, fun hends => ?_⟩
    rw [hrest.2 (hends _ (by simp)), hsameLag]
    exact hlag fun m hm => hends m (List.mem_append_left _ hm)

end Alike

/-! ## Two idle servers -/

/-- A batch of commands and the tick that finds them. -/
structure Round where
  batch : List CommandVariant
  input : TickInput

namespace Round

def operations (r : Round) : List Operation :=
  r.batch.map Operation.postCommand ++ [.tick r.input]

/-- The same commands and the same answer of the registers; freed memory may differ. -/
structure SameInput (r r' : Round) : Prop where
  batch : r.batch = r'.batch
  reading : r.input.reading = r'.input.reading

end Round

/-- What a round shows of the controller. -/
structure Observed where
  writes : List RegistersWrite
  isRunning : Bool
  activePresetId : Option UInt64
  error? : Option Fault

namespace Server

variable (tc : Toolchain)

/-- The system in rounds. -/
def rounds : System Server Round :=
  ⟨Constructed, fun s r => (operations tc).run s r.operations⟩

def observe (s : Server) (r : Round) : Observed where
  writes := ReflowTable.writes ((s.history tc r.operations).flatMap (Moment.effects tc))
  isRunning := ((rounds tc).step s r).reflowController.isRunning
  activePresetId := ((rounds tc).step s r).reflowController.getActiveReflowPresetId
  error? := (((operations tc).run s (r.batch.map .postCommand)).runnable tc r.input).error?

/-- What a sequence of rounds shows, round by round. -/
def observations (s : Server) (rs : List Round) : List Observed :=
  (rounds tc).history (fun s r => [s.observe tc r]) s rs

/-- Two idle servers that a client cannot tell apart. -/
structure SameIdle (s₁ s₂ : Server) : Prop where
  contents : SameContents s₁.presetsHolder s₂.presetsHolder
  idle₁ : s₁.reflowController.isReflowRunning = false
  idle₂ : s₂.reflowController.isReflowRunning = false
  preset : SamePreset s₁.presetsHolder s₂.presetsHolder s₁.reflowController.activePreset
    s₂.reflowController.activePreset
  presetId : s₁.reflowController.getActiveReflowPresetId =
    s₂.reflowController.getActiveReflowPresetId
  queue₁ : s₁.reflowController.requestsQueue = []
  queue₂ : s₂.reflowController.requestsQueue = []
  data : s₁.reflowController.lastModbusData = s₂.reflowController.lastModbusData

variable {tc} {s s₁ s₂ : Server}

theorem run_postCommand (batch : List CommandVariant) (s : Server) :
    (operations tc).run s (batch.map .postCommand) = { s with
      reflowController.requestsQueue := s.reflowController.requestsQueue ++ batch } := by
  induction batch generalizing s with
  | nil =>
    rw [List.append_nil]
    rfl
  | cons command batch ih =>
    show (operations tc).run (s.postCommand command) (batch.map .postCommand) = _
    rw [ih]
    simp [postCommand, ReflowProcessController.postCommand]

theorem history_postCommand (batch : List CommandVariant) (s : Server) :
    s.history tc (batch.map .postCommand) = [] := by
  induction batch generalizing s with
  | nil => rfl
  | cons command batch ih => exact ih (s.postCommand command)

/-- The controller with a batch posted. -/
def posted (s : Server) (r : Round) : ReflowProcessController :=
  { s.reflowController with requestsQueue := s.reflowController.requestsQueue ++ r.batch }

theorem step_rounds (s : Server) (r : Round) : (rounds tc).step s r =
    { s with reflowController := ((s.posted r).runnable tc s.presetsHolder r.input).state } := by
  show (operations tc).run s (r.batch.map .postCommand ++ [.tick r.input]) = _
  rw [System.run_append, run_postCommand]
  rfl

theorem history_round (s : Server) (r : Round) : s.history tc r.operations =
    (s.posted r).tickMoments tc s.presetsHolder r.input := by
  unfold Round.operations history
  rw [System.history_append, run_postCommand]
  show s.history tc (r.batch.map .postCommand) ++ _ = _
  rw [history_postCommand, List.nil_append, System.history_cons, System.history_nil,
    List.append_nil]
  rfl

theorem history_rounds (s : Server) (r : Round) (rs : List Round) :
    s.history tc ((r :: rs).flatMap Round.operations) =
      s.history tc r.operations ++
        ((rounds tc).step s r).history tc (rs.flatMap Round.operations) := by
  rw [List.flatMap_cons]
  exact System.history_append s r.operations _

theorem run_rounds (s : Server) (rs : List Round) :
    (operations tc).run s (rs.flatMap Round.operations) = (rounds tc).run s rs := by
  induction rs generalizing s with
  | nil => rfl
  | cons r rs ih =>
    rw [List.flatMap_cons, System.run_append, System.run_cons, ← ih]
    rfl

/-- Idle servers that look the same are alike: their indices are both 0. -/
theorem SameIdle.alike (hs₁ : (operations tc).Reachable s₁) (hs₂ : (operations tc).Reachable s₂)
    (h : SameIdle s₁ s₂) :
    Alike s₁.presetsHolder s₂.presetsHolder (writes s₁.reflowController.trace)
      (writes s₂.reflowController.trace) s₁.reflowController s₂.reflowController := by
  refine ⟨?_, ?_, h.preset, h.presetId, h.data, ?_, ?_, [], by simp, by simp⟩
  · rw [h.idle₁, h.idle₂]
  · rw [h.queue₁, h.queue₂]
  · rw [(RunInvariant.of_reachable hs₁).idle_index h.idle₁,
      (RunInvariant.of_reachable hs₂).idle_index h.idle₂]
  · intro hrun
    rw [h.idle₁] at hrun
    cases hrun

/-- **Step lemma for rounds.** -/
theorem round_alike (hsame : SameContents s₁.presetsHolder s₂.presetsHolder) {r₁ r₂ : Round}
    (hinput : r₁.SameInput r₂)
    (h : Alike s₁.presetsHolder s₂.presetsHolder (writes s₁.reflowController.trace)
      (writes s₂.reflowController.trace) s₁.reflowController s₂.reflowController) :
    let s₁' := (rounds tc).step s₁ r₁
    let s₂' := (rounds tc).step s₂ r₂
    SameContents s₁'.presetsHolder s₂'.presetsHolder ∧
      Alike s₁'.presetsHolder s₂'.presetsHolder (writes s₁'.reflowController.trace)
        (writes s₂'.reflowController.trace) s₁'.reflowController s₂'.reflowController ∧
      s₁.observe tc r₁ = s₂.observe tc r₂ ∧
      ((∀ m ∈ s₁.history tc r₁.operations, ¬ m.EndsRun tc) →
        lag s₁'.reflowController s₂'.reflowController =
          lag s₁.reflowController s₂.reflowController) := by
  intro s₁' s₂'
  have hposted : Alike s₁.presetsHolder s₂.presetsHolder (writes s₁.reflowController.trace)
      (writes s₂.reflowController.trace) (s₁.posted r₁) (s₂.posted r₂) := by
    unfold posted
    rw [h.queue, hinput.batch]
    exact h.setQueue _
  have htick := hposted.runnable tc hsame hinput.reading
  obtain ⟨halike, hlag⟩ := htick.state
  have hs₁' : s₁'.reflowController =
      ((s₁.posted r₁).runnable tc s₁.presetsHolder r₁.input).state := by
    rw [show s₁' = _ from step_rounds s₁ r₁]
  have hs₂' : s₂'.reflowController =
      ((s₂.posted r₂).runnable tc s₂.presetsHolder r₂.input).state := by
    rw [show s₂' = _ from step_rounds s₂ r₂]
  have hholder₁ : s₁'.presetsHolder = s₁.presetsHolder := by
    rw [show s₁' = _ from step_rounds s₁ r₁]
  have hholder₂ : s₂'.presetsHolder = s₂.presetsHolder := by
    rw [show s₂' = _ from step_rounds s₂ r₂]
  rw [← hs₁', ← hs₂'] at halike hlag
  rw [hholder₁, hholder₂]
  refine ⟨hsame, { halike with made := ⟨[], by simp, by simp⟩ }, ?_, fun hends => ?_⟩
  · have htrace₁ : s₁'.reflowController.trace = _ := trace_history s₁ r₁.operations
    have htrace₂ : s₂'.reflowController.trace = _ := trace_history s₂ r₂.operations
    obtain ⟨w, hw₁, hw₂⟩ := halike.made
    rw [htrace₁, writes_append] at hw₁
    rw [htrace₂, writes_append] at hw₂
    have hmade : writes ((s₁.history tc r₁.operations).flatMap (Moment.effects tc)) =
        writes ((s₂.history tc r₂.operations).flatMap (Moment.effects tc)) :=
      (List.append_cancel_left hw₁).trans (List.append_cancel_left hw₂).symm
    have herror := htick.error?_eq
    unfold observe
    congr 1
    · exact halike.running
    · exact halike.presetId
    · rw [run_postCommand, run_postCommand]
      exact herror
  · rw [history_round] at hends
    exact hlag hends

/-- **A run leaves nothing behind for the next.** -/
theorem fresh_runs (hs₁ : (operations tc).Reachable s₁) (hs₂ : (operations tc).Reachable s₂)
    (hidle : SameIdle s₁ s₂) {rounds₁ rounds₂ : List Round}
    (hinputs : List.Forall₂ Round.SameInput rounds₁ rounds₂) :
    s₁.observations tc rounds₁ = s₂.observations tc rounds₂ ∧
      ((∀ m ∈ s₁.history tc (rounds₁.flatMap Round.operations), ¬ m.EndsRun tc) →
        ((operations tc).run s₁ (rounds₁.flatMap Round.operations)).reflowController.getSystickTime
            - ((operations tc).run s₂
                (rounds₂.flatMap Round.operations)).reflowController.getSystickTime =
          s₁.reflowController.getSystickTime - s₂.reflowController.getSystickTime) := by
  have hsame := hidle.contents
  have halike := hidle.alike hs₁ hs₂
  clear hidle hs₁ hs₂
  rw [run_rounds, run_rounds]
  induction hinputs generalizing s₁ s₂ with
  | nil => exact ⟨rfl, fun _ => rfl⟩
  | @cons r₁ r₂ rounds₁ rounds₂ hinput _ ih =>
    obtain ⟨hsame', halike', hobserved, hlag⟩ := round_alike hsame hinput halike
    obtain ⟨hrest, hclock⟩ := ih hsame' halike'
    constructor
    · show s₁.observe tc r₁ :: observations tc ((rounds tc).step s₁ r₁) rounds₁ =
        s₂.observe tc r₂ :: observations tc ((rounds tc).step s₂ r₂) rounds₂
      rw [hobserved, hrest]
    · intro hends
      rw [history_rounds] at hends
      have hlater := hclock fun m hm => hends m (List.mem_append_right _ hm)
      have hfirst := hlag fun m hm => hends m (List.mem_append_left _ hm)
      exact hlater.trans hfirst

/-- The presets of `stoppedRun`, before any run. -/
def unusedServer : Server :=
  (operations .sample).run make [.addNewPreset "lead", .addStageItem 4 ⟨183, 30⟩]

/-- The server after `stoppedRun`: its clock shows 1, and it has a stage cached. -/
def usedServer : Server := (operations .sample).run make stoppedRun

/-- A run up to the soak of its first stage. -/
def soakRounds (freed : StageItem) : List Round :=
  [⟨[.selectPreset 4, .startReflow], ⟨none, freed⟩⟩, ⟨[], ⟨some #v[25, 183, 5, 2, 183], freed⟩⟩,
    ⟨[], ⟨none, freed⟩⟩]

theorem sameIdle_usedServer : SameIdle usedServer unusedServer where
  contents _ := rfl
  idle₁ := by decide
  idle₂ := by decide
  preset := .inl ⟨by decide, by decide⟩
  presetId := by decide
  queue₁ := by decide
  queue₂ := by decide
  data := by decide

theorem fresh_runs_soakRounds :
    usedServer.observations .sample (soakRounds ⟨0, 0⟩) =
        unusedServer.observations .sample (soakRounds ⟨1, 1⟩) ∧
      ((operations .sample).run usedServer ((soakRounds ⟨0, 0⟩).flatMap
          Round.operations)).reflowController.getSystickTime -
        ((operations .sample).run unusedServer ((soakRounds ⟨1, 1⟩).flatMap
          Round.operations)).reflowController.getSystickTime = 1 := by
  have hinputs : List.Forall₂ Round.SameInput (soakRounds ⟨0, 0⟩) (soakRounds ⟨1, 1⟩) :=
    .cons ⟨rfl, rfl⟩ (.cons ⟨rfl, rfl⟩ (.cons ⟨rfl, rfl⟩ .nil))
  have hends : ∀ m ∈ usedServer.history .sample ((soakRounds ⟨0, 0⟩).flatMap Round.operations),
      ¬ m.EndsRun .sample := by
    decide
  obtain ⟨hobserved, hclock⟩ := fresh_runs (reachable_run .sample stoppedRun)
    (reachable_run .sample _) sameIdle_usedServer hinputs
  exact ⟨hobserved, hclock hends⟩

end Server

end ReflowTable

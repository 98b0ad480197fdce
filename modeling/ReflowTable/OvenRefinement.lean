import ReflowTable.Lib.Abstraction
import ReflowTable.Oven
import ReflowTable.SelectedPreset

/-!
# The server is an oven

The abstraction function `Server.oven` forgets the objects, the pointers and the timepoints. It
carries every run of the server to a run of the oven (`Server.oven_refines`), exceptions included,
as long as no edit moves the stages of a preset while one of them is being preheated; the
controller would read that one through a dangling pointer.
-/

namespace ReflowTable

open ReflowProcessController

namespace ReflowProcessController

/-! ## The abstraction -/

/-- What a run does, read off the process step and the timepoint. -/
def phase (c : ReflowProcessController) : Oven.Phase :=
  match c.reflowProcessData.reflowStep with
  | .kInitStep => .entering
  | .kPreheat => .preheating
  | .kInProgress => .soaking ((c.reflowProcessData.stageCompletionTimepoint - c.sysTickTime) / 1000)
  | .kStageCompleted => .leaving

def run? (c : ReflowProcessController) : Option Oven.Run :=
  if c.isReflowRunning then some ⟨c.reflowProcessData.activeStageIndex, c.phase⟩ else none

end ReflowProcessController

def Preset.recipe (p : Preset) : Recipe := ⟨p.presetName, p.presetItems.items⟩

def PresetsHolder.recipes (h : PresetsHolder) (presetId : UInt64) : Option Recipe :=
  (h.presetsStorage.lookup presetId).map fun ptr => (h.objects ptr).recipe

/-- A controller over a holder, its queue apart. -/
def ReflowProcessController.ovenOver (h : PresetsHolder) (c : ReflowProcessController) : Oven where
  recipes := h.recipes
  selected := c.activePresetId
  run := c.run?
  elapsed := c.sysTickTime / 1000
  data := c.lastModbusData
  queue := []
  writes := writes c.trace

def Server.oven (s : Server) : Oven :=
  { s.reflowController.ovenOver s.presetsHolder with queue := s.reflowController.requestsQueue }

/-! ## The invariant -/

/-- What the abstraction leaves out, and the oven does without. -/
structure Tracks (h : PresetsHolder) (c : ReflowProcessController) : Prop where
  invariant : RunInvariant h c
  coherent : Coherent h c
  /-- no negative temperature has been read -/
  ambient : 0 ≤ c.lastModbusData.surroundingTemperature.toInt
  /-- the pointer of a preheating run is the address of its stage -/
  cached : c.isReflowRunning = true → c.reflowProcessData.reflowStep = .kPreheat →
    ∀ ptr, c.activePreset = some ptr → c.reflowProcessData.activePresetState =
      some ⟨ptr, (h.objects ptr).presetItems.ptrTo c.reflowProcessData.activeStageIndex⟩
  /-- a soaking run completes on a tick -/
  aligned : c.isReflowRunning = true → c.reflowProcessData.reflowStep = .kInProgress →
    1000 ∣ c.reflowProcessData.stageCompletionTimepoint - c.sysTickTime

section

variable {tc : Toolchain} {h : PresetsHolder} {freed : StageItem} {c c' : ReflowProcessController}

namespace Tracks

/-- The queue and the trace do not matter. -/
theorem congr (hc : Tracks h c) (hrun : c'.isReflowRunning = c.isReflowRunning)
    (hactive : c'.activePreset = c.activePreset) (hid : c'.activePresetId = c.activePresetId)
    (hdata : c'.reflowProcessData = c.reflowProcessData) (htime : c'.sysTickTime = c.sysTickTime)
    (hread : c'.lastModbusData = c.lastModbusData) : Tracks h c' where
  invariant := hc.invariant.congr hrun hactive hdata
  coherent := hc.coherent.congr hid hactive hrun
  ambient := by rw [hread]; exact hc.ambient
  cached := by rw [hrun, hdata, hactive]; exact hc.cached
  aligned := by rw [hrun, hdata, htime]; exact hc.aligned

/-- Stages may come and change, but not move while one of them is preheated. -/
theorem grow {h' : PresetsHolder} (hgrow : h.GrowsTo h')
    (hbuffer : c.isReflowRunning = true → c.reflowProcessData.reflowStep = .kPreheat →
      ∀ ptr, c.activePreset = some ptr →
        (h'.objects ptr).presetItems.buffer = (h.objects ptr).presetItems.buffer)
    (hc : Tracks h c) : Tracks h' c where
  invariant := hc.invariant.grow hgrow
  coherent := hc.coherent.grow hgrow
  ambient := hc.ambient
  cached hrun hstep ptr hptr := by
    rw [Vec.ptrTo, hbuffer hrun hstep ptr hptr]
    exact hc.cached hrun hstep ptr hptr
  aligned := hc.aligned

/-- Of a run that neither preheats nor soaks nothing more is asked. -/
theorem of_between (hinvariant : RunInvariant h c) (hcoherent : Coherent h c)
    (hambient : 0 ≤ c.lastModbusData.surroundingTemperature.toInt)
    (hstep : c.reflowProcessData.reflowStep = .kInitStep ∨
      c.reflowProcessData.reflowStep = .kStageCompleted) : Tracks h c where
  invariant := hinvariant
  coherent := hcoherent
  ambient := hambient
  cached _ hpreheat := by
    rcases hstep with heq | heq
    · simp [heq] at hpreheat
    · simp [heq] at hpreheat
  aligned _ hsoak := by
    rcases hstep with heq | heq
    · simp [heq] at hsoak
    · simp [heq] at hsoak

theorem make (t : ℤ) : Tracks .make (.make t) :=
  .of_between (.make t) (.unselected rfl rfl rfl) (Int.le_refl 0) (.inl rfl)

/-- The selected preset, with its stages. -/
theorem stages_eq (hc : Tracks h c) {ptr : PresetPtr} (hactive : c.activePreset = some ptr) :
    (c.ovenOver h).stages = (h.objects ptr).presetItems.items := by
  obtain ⟨id, hid, hl⟩ := hc.coherent.selected_of_active hactive
  simp [Oven.stages, ovenOver, hid, PresetsHolder.recipes, hl, Preset.recipe]

end Tracks

/-! ## Commands -/

theorem run?_of_idle (hidle : c.isReflowRunning = false) : c.run? = none := by
  rw [run?, hidle]
  rfl

theorem run?_of_running (hrun : c.isReflowRunning = true) :
    c.run? = some ⟨c.reflowProcessData.activeStageIndex, c.phase⟩ := by
  rw [run?, hrun]
  rfl

theorem ovenOver_ended (h : PresetsHolder) (c : ReflowProcessController) :
    c.ended.ovenOver h = (c.ovenOver h).endRun := by
  simp [ovenOver, ended, Oven.endRun, Oven.write, run?]

/-- **Step lemma for commands.** -/
theorem visitCommand_oven (hc : Tracks h c) (command : CommandVariant) :
    (visitCommand tc h command c).done?.map (ovenOver h) = (c.ovenOver h).handle tc command := by
  have heffect := visitCommand_effect tc h command c
  generalize visitCommand tc h command c = o at heffect ⊢
  cases heffect with
  | startUnselected hnone =>
    have hid : c.activePresetId = none := by
      cases hc.coherent with
      | unselected hid => exact hid
      | selected _ hptr => simp [hnone] at hptr
    simp [Oven.handle, ovenOver, hid]
  | start hptr =>
    obtain ⟨id, hid, -⟩ := hc.coherent.selected_of_active hptr
    cases hrun : c.isReflowRunning with
    | false =>
      have hidx := hc.invariant.idle_index hrun
      simp [Oven.handle, ovenOver, started, hid, run?, phase, hrun, hidx]
    | true => simp [Oven.handle, ovenOver, started, hid, run?, phase, hrun]
  | stopIdle hidle => simp [Oven.handle, ovenOver, run?_of_idle hidle]
  | stop hrun =>
    simp only [Outcome.done?_done, Option.map_some, ovenOver_ended, Oven.handle]
    simp [ovenOver, run?_of_running hrun]
  | selectRunning hrun => simp [Oven.handle, ovenOver, run?_of_running hrun]
  | select hidle hl =>
    simp [Oven.handle, ovenOver, run?, hidle, PresetsHolder.recipes, hl]
  | selectUnknown hidle hl =>
    simp [Oven.handle, ovenOver, run?_of_idle hidle, PresetsHolder.recipes, hl]
  | setParams =>
    simp [Oven.handle, ovenOver, Oven.write, setRegulatorParams, scheduleRegistersWrite, run?,
      phase]

/-- A handler that returns keeps the invariant. -/
theorem Tracks.of_visitCommand (hc : Tracks h c) {command : CommandVariant}
    (hdone : visitCommand tc h command c = .done c') : Tracks h c' := by
  have hcoherent := Coherent.of_visitCommand hdone hc.coherent
  have hinvariant : RunInvariant h c' := by
    have hkeeps := (@visitCommand_follows tc h command).keeps
      (fun _ _ hstep hI => RunInvariant.command hstep hI) c hc.invariant
    rwa [hdone] at hkeeps
  have heffect := visitCommand_effect tc h command c
  rw [hdone] at heffect
  cases heffect with
  | startUnselected => exact hc
  | start hptr => exact .of_between hinvariant hcoherent hc.ambient (.inl rfl)
  | stopIdle => exact hc
  | stop => exact .of_between hinvariant hcoherent hc.ambient (.inr rfl)
  | selectRunning => exact hc
  | select hidle =>
    refine ⟨hinvariant, hcoherent, hc.ambient, fun hrun => ?_, fun hrun => ?_⟩
    · simp [hidle] at hrun
    · simp [hidle] at hrun
  | setParams => exact hc.congr rfl rfl rfl rfl rfl rfl

variable (tc) in
/-- **The dispatch loop**, from the queue to its end. -/
theorem dispatchCommandsQueue_oven (hc : Tracks h c) :
    (c.dispatchCommandsQueue tc h).done?.map (ovenOver h) =
      c.requestsQueue.foldlM (Oven.handle tc) (c.ovenOver h) := by
  refine Outcome.map_done?_sweep_of (I := Tracks h) ?_ ?_ c.requestsQueue hc
  · intro command s hs
    have hpopped : Tracks h { s with requestsQueue := s.requestsQueue.tail } :=
      hs.congr rfl rfl rfl rfl rfl rfl
    exact visitCommand_oven hpopped command
  · intro command s s' hdone hs
    have hpopped : Tracks h { s with requestsQueue := s.requestsQueue.tail } :=
      hs.congr rfl rfl rfl rfl rfl rfl
    exact hpopped.of_visitCommand hdone

theorem Tracks.of_dispatchCommandsQueue (hc : Tracks h c)
    (hdone : c.dispatchCommandsQueue tc h = .done c') : Tracks h c' := by
  refine Outcome.sweep_done (I := Tracks h) (fun command s s' hdone hs => ?_) hdone hc
  have hpopped : Tracks h { s with requestsQueue := s.requestsQueue.tail } :=
    hs.congr rfl rfl rfl rfl rfl rfl
  exact hpopped.of_visitCommand hdone

/-! ## The run -/

theorem requestModbusData_oven (reading : Option ModbusReading) (c : ReflowProcessController) :
    (c.requestModbusData reading).ovenOver h = (c.ovenOver h).read reading := by
  cases reading <;> rfl

theorem Tracks.requestModbusData (hc : Tracks h c) (reading : Option ModbusReading) :
    Tracks h (c.requestModbusData reading) := by
  cases reading with
  | none => exact hc
  | some words =>
    exact ⟨hc.invariant.congr rfl rfl rfl, hc.coherent.congr rfl rfl rfl,
      surroundingTemperature_decodeReading_nonneg words, hc.cached, hc.aligned⟩

theorem process_of_running (hrun : c.isReflowRunning = true) :
    (c.ovenOver h).process =
      (c.ovenOver h).advance ⟨c.reflowProcessData.activeStageIndex, c.phase⟩ := by
  have hrun? : (c.ovenOver h).run = some ⟨c.reflowProcessData.activeStageIndex, c.phase⟩ :=
    run?_of_running hrun
  rw [Oven.process, hrun?]

theorem entered_oven (hrun : c.isReflowRunning = true) (sp : StagePtr) (item : StageItem) :
    (c.entered sp item).ovenOver h =
      { (c.ovenOver h).write kTargetTemperatureAddr [item.temperatureStep.toUInt16] with
        run := some ⟨c.reflowProcessData.activeStageIndex, .preheating⟩ } := by
  have hwrites := writes_entered sp item c
  simp only [ovenOver, Oven.write, hwrites]
  simp [entered, run?, phase, hrun]

theorem soaking_oven (hrun : c.isReflowRunning = true) (stageDuration : ℤ) :
    (c.soaking stageDuration).ovenOver h =
      { c.ovenOver h with
        run := some ⟨c.reflowProcessData.activeStageIndex, .soaking stageDuration⟩ } := by
  simp [ovenOver, run?, phase, soaking, hrun]

theorem soaked_oven (hrun : c.isReflowRunning = true) :
    c.soaked.ovenOver h =
      { c.ovenOver h with run := some ⟨c.reflowProcessData.activeStageIndex, .leaving⟩ } := by
  simp [ovenOver, run?, phase, soaked, hrun]

theorem movedOn_oven (hc : Tracks h c) (hrun : c.isReflowRunning = true) {ptr : PresetPtr}
    (hptr : c.activePreset = some ptr)
    (hlt : c.reflowProcessData.activeStageIndex + 1 < (h.objects ptr).numStages) :
    c.movedOn.ovenOver h = (c.ovenOver h).leave c.reflowProcessData.activeStageIndex := by
  rw [Oven.leave, hc.stages_eq hptr, if_pos (Preset.numStages_eq _ ▸ hlt)]
  simp [ovenOver, movedOn, run?, hrun, phase]

theorem ended_oven (hc : Tracks h c) {ptr : PresetPtr} (hptr : c.activePreset = some ptr)
    (hle : (h.objects ptr).numStages ≤ c.reflowProcessData.activeStageIndex + 1) :
    c.ended.ovenOver h = (c.ovenOver h).leave c.reflowProcessData.activeStageIndex := by
  have hnot : ¬ c.reflowProcessData.activeStageIndex + 1 <
      (h.objects ptr).presetItems.items.length := Nat.not_lt.mpr hle
  rw [Oven.leave, hc.stages_eq hptr, if_neg hnot, ovenOver_ended]

variable (freed) in
/-- The pointer of a preheating run reads the stage the oven looks up. -/
theorem exists_preheated (hc : Tracks h c) (hrun : c.isReflowRunning = true) {ptr : PresetPtr}
    (hptr : c.activePreset = some ptr) (hstep : c.reflowProcessData.reflowStep = .kPreheat)
    {sp : StagePtr} (hsp : c.reflowProcessData.activePresetState = some sp) :
    ∃ item, (c.ovenOver h).stages[c.reflowProcessData.activeStageIndex]? = some item ∧
      derefStage h freed sp = item := by
  have hlt : c.reflowProcessData.activeStageIndex < (h.objects ptr).presetItems.items.length :=
    hc.invariant.entered_lt hrun (by simp [hstep]) ptr hptr
  have hitem := List.getElem?_eq_getElem hlt
  have hcached := hc.cached hrun hstep ptr hptr
  obtain rfl := Option.some.inj (hsp.symm.trans hcached)
  refine ⟨_, ?_, derefStage_of_getElem? hitem⟩
  rw [hc.stages_eq hptr, hitem]

/-- A stage that the program finds to be over is one the oven leaves. -/
theorem advance_of_stageOver (hc : Tracks h c) (hrun : c.isReflowRunning = true) {ptr : PresetPtr}
    (hptr : c.activePreset = some ptr) (hover : StageOver h freed c) :
    (c.ovenOver h).advance ⟨c.reflowProcessData.activeStageIndex, c.phase⟩ =
      some ((c.ovenOver h).leave c.reflowProcessData.activeStageIndex) := by
  rcases hover with ⟨hstep, sp, hsp, hskip⟩ | hstep
  · obtain ⟨item, hitem, hderef⟩ := exists_preheated freed hc hrun hptr hstep hsp
    have hverdict : profileVerdict item (c.ovenOver h).data = .skip :=
      (profileVerdict_eq_skip_iff item hc.ambient).mpr (hderef ▸ hskip)
    simp [Oven.advance, phase, hstep, hitem, hverdict]
  · simp [Oven.advance, phase, hstep]

/-- A stage that is neither skipped nor in its band is waited for. -/
theorem profileVerdict_eq_wait {item : StageItem} {data : LastModbusData}
    (hambient : 0 ≤ data.surroundingTemperature.toInt)
    (hskip : ¬ skipsStage item.temperatureStep data)
    (hband : canCompletePreheatStage item.temperatureStep data ≠ true) :
    profileVerdict item data = .wait := by
  cases hverdict : profileVerdict item data with
  | skip => exact absurd ((profileVerdict_eq_skip_iff item hambient).mp hverdict) hskip
  | soak => exact absurd ((profileVerdict_eq_soak_iff item hambient).mp hverdict).2 hband
  | wait => rfl

/-- A controller that takes no process step is idle. -/
theorem Tracks.idle (hc : Tracks h c)
    (hidle : c.activePreset = none ∨ c.isReflowRunning = false) : c.isReflowRunning = false := by
  rcases hidle with hnull | hidle
  · by_contra hrun
    obtain ⟨ptr, hptr⟩ := hc.invariant.selected (by simpa using hrun)
    simp [hnull] at hptr
  · exact hidle

variable (freed) in
/-- **Step lemma for the run.** -/
theorem processReflowStep_oven (hc : Tracks h c) :
    (c.processReflowStep h freed).done?.map (ovenOver h) = (c.ovenOver h).process := by
  have heffect := processReflowStep_effect h freed c
  generalize c.processReflowStep h freed = o at heffect ⊢
  cases heffect with
  | idle hidle =>
    have hnone : (c.ovenOver h).run = none := run?_of_idle (hc.idle hidle)
    rw [Oven.process, hnone]
    rfl
  | @enter ptr item hrun hptr hstep hitem =>
    have hstage : (c.ovenOver h).stages[c.reflowProcessData.activeStageIndex]? = some item := by
      rw [hc.stages_eq hptr, hitem]
    rw [process_of_running hrun, Outcome.done?_done, Option.map_some, entered_oven hrun]
    simp [Oven.advance, phase, hstep, hstage]
  | enterNothing hrun hptr hstep hle =>
    have hstage : (c.ovenOver h).stages[c.reflowProcessData.activeStageIndex]? = none := by
      rw [hc.stages_eq hptr]
      exact List.getElem?_eq_none hle
    rw [process_of_running hrun]
    simp [Oven.advance, phase, hstep, hstage]
  | preheatNothing hrun _ hstep hnone =>
    obtain ⟨sp, hsp⟩ := hc.invariant.entered hrun (by simp [hstep])
    simp [hnone] at hsp
  | preheat hrun hptr hstep hsp hskip hband =>
    obtain ⟨item, hitem, hderef⟩ := exists_preheated freed hc hrun hptr hstep hsp
    rw [hderef] at hskip hband
    have hwait : profileVerdict item (c.ovenOver h).data = .wait :=
      profileVerdict_eq_wait hc.ambient hskip hband
    rw [process_of_running hrun]
    simp [Oven.advance, phase, hstep, hitem, hwait]
  | soak hrun hptr hstep hsp hskip hband =>
    obtain ⟨item, hitem, hderef⟩ := exists_preheated freed hc hrun hptr hstep hsp
    rw [hderef] at hskip hband ⊢
    have hsoak : profileVerdict item (c.ovenOver h).data = .soak :=
      (profileVerdict_eq_soak_iff item hc.ambient).mpr ⟨hskip, hband⟩
    rw [process_of_running hrun, Outcome.done?_done, Option.map_some, soaking_oven hrun]
    simp [Oven.advance, phase, hstep, hitem, hsoak]
  | dwell hrun hptr hstep hwait =>
    have htime : ¬ c.reflowProcessData.stageCompletionTimepoint ≤ c.sysTickTime := by
      refine hwait.resolve_left fun hnone => ?_
      obtain ⟨sp, hsp⟩ := hc.invariant.entered hrun (by simp [hstep])
      simp [hnone] at hsp
    have hleft : ¬ (c.reflowProcessData.stageCompletionTimepoint - c.sysTickTime) / 1000 ≤ 0 := by
      have := hc.aligned hrun hstep
      omega
    rw [process_of_running hrun]
    simp [Oven.advance, phase, hstep, hleft]
  | soakDone hrun hptr hstep hsp htime =>
    have hleft : (c.reflowProcessData.stageCompletionTimepoint - c.sysTickTime) / 1000 ≤ 0 := by
      omega
    rw [process_of_running hrun]
    simp [Oven.advance, phase, hstep, hleft, soaked_oven hrun]
  | moveOn hrun hptr hover hlt =>
    rw [process_of_running hrun, advance_of_stageOver hc hrun hptr hover, Outcome.done?_done,
      Option.map_some, movedOn_oven hc hrun hptr hlt]
  | finish hrun hptr hover hle =>
    rw [process_of_running hrun, advance_of_stageOver hc hrun hptr hover, Outcome.done?_done,
      Option.map_some, ended_oven hc hptr hle]

theorem Tracks.process (hstep : ProcessChange h freed c c') (hc : Tracks h c) : Tracks h c' := by
  have hinvariant := hc.invariant.process hstep
  have hcoherent := hc.coherent.process hstep
  cases hstep with
  | @enter ptr item hrun hptr _ _ =>
    refine ⟨hinvariant, hcoherent, hc.ambient, fun _ _ ptr' hptr' => ?_, fun _ hsoak => ?_⟩
    · obtain rfl := Option.some.inj (hptr.symm.trans hptr')
      rfl
    · simp [entered] at hsoak
  | moveOn => exact .of_between hinvariant hcoherent hc.ambient (.inl rfl)
  | finish => exact .of_between hinvariant hcoherent hc.ambient (.inr rfl)
  | soak =>
    refine ⟨hinvariant, hcoherent, hc.ambient, fun _ hpreheat => ?_, fun _ _ => ?_⟩
    · simp [soaking] at hpreheat
    · simp [soaking]
  | soakDone => exact .of_between hinvariant hcoherent hc.ambient (.inr rfl)
  | advance =>
    refine ⟨hinvariant, hcoherent, hc.ambient, hc.cached, fun hrun hstep => ?_⟩
    have haligned := hc.aligned hrun hstep
    show 1000 ∣ c.reflowProcessData.stageCompletionTimepoint - (c.sysTickTime + 1000)
    omega

theorem advanceSysTick_oven (h : PresetsHolder) (c : ReflowProcessController) :
    c.advanceSysTick.ovenOver h = (c.ovenOver h).pass := by
  cases hrun : c.isReflowRunning with
  | false =>
    have hnone : (c.ovenOver h).run = none := run?_of_idle hrun
    rw [Oven.pass, hnone]
    simp [advanceSysTick, hrun]
  | true =>
    have hsome : (c.ovenOver h).run = some ⟨c.reflowProcessData.activeStageIndex, c.phase⟩ :=
      run?_of_running hrun
    have helapsed : (c.sysTickTime + 1000) / 1000 = c.sysTickTime / 1000 + 1 := by omega
    have hleft : (c.reflowProcessData.stageCompletionTimepoint - (c.sysTickTime + 1000)) / 1000 =
        (c.reflowProcessData.stageCompletionTimepoint - c.sysTickTime) / 1000 - 1 := by omega
    rw [Oven.pass, hsome]
    cases hstep : c.reflowProcessData.reflowStep <;>
      simp [advanceSysTick, hrun, ovenOver, run?, phase, hstep, Oven.Run.pass, kSystickResolution,
        helapsed, hleft]

end

/-! ## A tick -/

namespace Server

variable {tc : Toolchain} {s s' : Server}

/-- What is left of the process behind an operation: nothing after an exception. -/
def attempt (tc : Toolchain) (s : Server) : Operation → Option Server
  | .tick input => (s.runnable tc input).done?.map fun c => { s with reflowController := c }
  | op => some (s.apply tc op)

/-- No stage of the run's preset has moved while one of them was being preheated. -/
def KeepsStages (s s' : Server) : Prop :=
  s.reflowController.isReflowRunning = true →
    s.reflowController.reflowProcessData.reflowStep = .kPreheat →
    ∀ ptr, s.reflowController.activePreset = some ptr →
      (s'.presetsHolder.objects ptr).presetItems.buffer =
        (s.presetsHolder.objects ptr).presetItems.buffer

instance (s s' : Server) : Decidable (s.KeepsStages s') :=
  inferInstanceAs (Decidable (_ → _ → ∀ ptr ∈ s.reflowController.activePreset, _))

abbrev Steady (tc : Toolchain) (s : Server) (op : Operation) : Prop := s.KeepsStages (s.apply tc op)

/-- What a tick that returns has done. -/
theorem runnable_done {input : TickInput} {c : ReflowProcessController}
    (hdone : s.runnable tc input = .done c) :
    ∃ c₁ c₂, s.reflowController.dispatchCommandsQueue tc s.presetsHolder = .done c₁ ∧
      (c₁.requestModbusData input.reading).processReflowStep s.presetsHolder input.freed =
        .done c₂ ∧ c = c₂.advanceSysTick := by
  unfold runnable ReflowProcessController.runnable at hdone
  cases hdispatch : s.reflowController.dispatchCommandsQueue tc s.presetsHolder with
  | raised e c₁ =>
    rw [hdispatch] at hdone
    cases hdone
  | done c₁ =>
    rw [hdispatch, Outcome.bind_done] at hdone
    cases hprocess : (c₁.requestModbusData input.reading).processReflowStep s.presetsHolder
      input.freed with
    | raised e c₂ =>
      rw [hprocess] at hdone
      cases hdone
    | done c₂ =>
      rw [hprocess, Outcome.bind_done, Outcome.done.injEq] at hdone
      exact ⟨c₁, c₂, rfl, hprocess, hdone.symm⟩

/-- Nothing is posted during a tick. -/
theorem requestsQueue_runnable {input : TickInput} {c : ReflowProcessController}
    (hdone : s.runnable tc input = .done c) : c.requestsQueue = [] := by
  obtain ⟨c₁, c₂, hdispatch, hprocess, rfl⟩ := runnable_done hdone
  have hread : (c₁.requestModbusData input.reading).requestsQueue = [] := by
    rw [← requestsQueue_dispatchCommandsQueue hdispatch]
    cases input.reading <;> rfl
  have hkeeps := (process_follows s.presetsHolder input.freed).keeps
    (I := fun c => c.requestsQueue = [])
    (fun _ _ hstep hqueue => hstep.requestsQueue_eq.trans hqueue) _ hread
  dsimp only at hkeeps
  rwa [hprocess] at hkeeps

theorem tracks_runnable (hs : Tracks s.presetsHolder s.reflowController) {input : TickInput}
    {c : ReflowProcessController} (hdone : s.runnable tc input = .done c) :
    Tracks s.presetsHolder c := by
  obtain ⟨c₁, c₂, hdispatch, hprocess, rfl⟩ := runnable_done hdone
  have hread := (hs.of_dispatchCommandsQueue hdispatch).requestModbusData input.reading
  have hkeeps := (process_follows s.presetsHolder input.freed).keeps
    (fun _ _ hstep hc => Tracks.process hstep hc) _ hread
  dsimp only at hkeeps
  rwa [hprocess] at hkeeps

/-- **A tick of the program is a tick of the oven.** -/
theorem runnable_oven (hs : Tracks s.presetsHolder s.reflowController) (input : TickInput) :
    (s.runnable tc input).done?.map (ovenOver s.presetsHolder) =
      s.oven.tick tc input.reading := by
  have hdispatch_oven := dispatchCommandsQueue_oven tc hs
  have hqueue : s.oven.dispatch tc = s.reflowController.requestsQueue.foldlM (Oven.handle tc)
      (s.reflowController.ovenOver s.presetsHolder) := rfl
  rw [Oven.tick, hqueue, ← hdispatch_oven, runnable, ReflowProcessController.runnable]
  cases hdispatch : s.reflowController.dispatchCommandsQueue tc s.presetsHolder with
  | raised e c₁ => rfl
  | done c₁ =>
    have hread := (hs.of_dispatchCommandsQueue hdispatch).requestModbusData input.reading
    have hprocess_oven := processReflowStep_oven input.freed hread
    rw [Outcome.bind_done, Outcome.done?_done, Option.map_some, Option.bind_some,
      ← requestModbusData_oven, ← hprocess_oven]
    cases (c₁.requestModbusData input.reading).processReflowStep s.presetsHolder input.freed with
    | raised e c₂ => rfl
    | done c₂ =>
      rw [Outcome.bind_done, Outcome.done?_done, Outcome.done?_done, Option.map_some,
        Option.map_some, Option.map_some, advanceSysTick_oven]

/-! ## Edits -/

/-- Changing the object under an id changes the recipe under it, and no other. -/
theorem oven_onPreset {f : Preset → Preset} {g : Recipe → Recipe}
    (hf : ∀ p : Preset, (f p).recipe = g p.recipe) (id : UInt64) (s : Server) :
    (s.onPreset id f).oven = s.oven.edit id g := by
  have hrecipes : (s.onPreset id f).presetsHolder.recipes =
      Function.update s.presetsHolder.recipes id ((s.presetsHolder.recipes id).map g) := by
    cases hl : s.presetsHolder.presetsStorage.lookup id with
    | none =>
      have hnone : s.presetsHolder.recipes id = none := by simp [PresetsHolder.recipes, hl]
      rw [onPreset_of_none f hl, hnone, Option.map_none, ← hnone, Function.update_eq_self]
    | some ptr =>
      rw [onPreset_of_lookup f hl]
      funext other
      by_cases hother : other = id
      · subst hother
        rw [Function.update_self]
        simp [PresetsHolder.recipes, hl, hf]
      · rw [Function.update_of_ne hother]
        simp only [PresetsHolder.recipes, PresetsHolder.presetsStorage_modify]
        cases hl' : s.presetsHolder.presetsStorage.lookup other with
        | none => rfl
        | some ptr' =>
          have hne : ptr' ≠ ptr := by
            rintro rfl
            exact hother (s.presetsHolder.unique hl' hl)
          rw [Option.map_some, Option.map_some, PresetsHolder.objects_modify_of_ne _ _ hne]
  have hcontroller := reflowController_onPreset (s := s) id f
  simp only [oven, ovenOver, Oven.edit, hcontroller, hrecipes]

variable (tc) in
theorem oven_addNewPreset (name : String) (s : Server) :
    (s.addNewPreset tc name).oven = s.oven.add (tc.hash name) ⟨name, []⟩ := by
  have hrecipes : (s.addNewPreset tc name).presetsHolder.recipes =
      Function.update s.presetsHolder.recipes (tc.hash name)
        (some ((s.presetsHolder.recipes (tc.hash name)).getD ⟨name, []⟩)) := by
    unfold addNewPreset
    cases hl : s.presetsHolder.presetsStorage.lookup (tc.hash name) with
    | none =>
      rw [PresetsHolder.addNewPreset_of_free hl]
      funext other
      by_cases hother : other = tc.hash name
      · subst hother
        simp [PresetsHolder.recipes, hl, PresetsHolder.insertNew, Preset.recipe, Preset.make]
      · rw [Function.update_of_ne hother]
        have hlookup : (s.presetsHolder.insertNew (tc.hash name) (.make name)
            hl).presetsStorage.lookup other = s.presetsHolder.presetsStorage.lookup other :=
          AList.lookup_insert_ne hother
        simp only [PresetsHolder.recipes, hlookup]
        cases hl' : s.presetsHolder.presetsStorage.lookup other with
        | none => rfl
        | some ptr' =>
          rw [Option.map_some, Option.map_some,
            PresetsHolder.objects_insertNew_of_lt (s.presetsHolder.live hl')]
    | some ptr =>
      rw [PresetsHolder.addNewPreset_of_taken (by simp [hl])]
      have hsome : s.presetsHolder.recipes (tc.hash name) =
          some (s.presetsHolder.objects ptr).recipe := by simp [PresetsHolder.recipes, hl]
      rw [hsome, Option.getD_some, ← hsome, Function.update_eq_self]
  have hcontroller : (s.addNewPreset tc name).reflowController = s.reflowController :=
    reflowController_addNewPreset name
  simp only [oven, ovenOver, Oven.add, hcontroller, hrecipes]

theorem recipe_replaceStageItem (idx : ℕ) (item : StageItem) (p : Preset) :
    (p.replaceStageItem tc idx item).recipe =
      { p.recipe with
        stages :=
          if p.recipe.stages.length ≤ idx then p.recipe.stages ++ [item]
          else p.recipe.stages.set idx item } := by
  rw [Preset.recipe, Preset.presetName_replaceStageItem, Preset.presetItems_replaceStageItem,
    Preset.numStages_eq, Preset.recipe]
  split_ifs <;> simp

/-! ## Every run -/

variable (tc) in
/-- **Step lemma.** -/
theorem attempt_oven (hs : Tracks s.presetsHolder s.reflowController) (op : Operation) :
    (s.attempt tc op).map oven = s.oven.apply tc op := by
  cases op with
  | addNewPreset name => exact congrArg some (oven_addNewPreset tc name s)
  | setName id name => exact congrArg some (oven_onPreset (fun _ => rfl) id s)
  | addStageItem id item =>
    refine congrArg some (oven_onPreset (fun p => ?_) id s)
    simp [Preset.recipe, Preset.addStageItem]
  | replaceStageItem id idx item =>
    exact congrArg some (oven_onPreset (recipe_replaceStageItem idx item) id s)
  | postCommand command => rfl
  | tick input =>
    show ((s.runnable tc input).done?.map fun c => { s with reflowController := c }).map oven = _
    rw [Oven.apply, ← runnable_oven hs input]
    cases hdone : s.runnable tc input with
    | raised e c => rfl
    | done c =>
      have hempty := requestsQueue_runnable hdone
      simp only [Outcome.done?_done, Option.map_some, oven, hempty]
      rfl

theorem tracks_attempt (hs : Tracks s.presetsHolder s.reflowController) {op : Operation}
    (hsteady : s.Steady tc op) (hattempt : s.attempt tc op = some s') :
    Tracks s'.presetsHolder s'.reflowController := by
  by_cases htick : ∃ input, op = .tick input
  · obtain ⟨input, rfl⟩ := htick
    obtain ⟨c, hdone, rfl⟩ := Option.map_eq_some_iff.mp hattempt
    exact tracks_runnable hs (Outcome.done?_eq_some_iff.mp hdone)
  · have hs' : s' = s.apply tc op := by
      cases op with
      | tick input => exact absurd ⟨input, rfl⟩ htick
      | _ => exact (Option.some.inj hattempt).symm
    subst hs'
    rcases apply_cases tc s op with ⟨hgrows, hcontroller⟩ | ⟨command, -, heq⟩ | ⟨input, hop, -⟩
    · rw [hcontroller]
      exact hs.grow hgrows hsteady
    · rw [heq]
      exact hs.congr rfl rfl rfl rfl rfl rfl
    · exact absurd ⟨input, hop⟩ htick

/-- **The server is an oven.** Over every run of edits, posted commands and ticks, with any
register answers: the server the program comes to, seen as an oven, is what the oven comes to, and
the program ends in an exception exactly when the oven ends. All that is asked is that no edit
moves the stages of the run's preset while one of them is being preheated. -/
theorem oven_refines (tc : Toolchain) (t : ℤ) (ops : List Operation)
    (hsteady : PartialRun.Meets (attempt tc) (Steady tc) ⟨.make, .make t⟩ ops) :
    (ops.foldlM (attempt tc) ⟨.make, .make t⟩).map oven = ops.foldlM (Oven.apply tc) .new := by
  have hnew : oven ⟨.make, .make t⟩ = .new := rfl
  rw [← hnew]
  exact PartialRun.map_foldlM (I := fun s => Tracks s.presetsHolder s.reflowController)
    (fun _ op hs _ => attempt_oven tc hs op)
    (fun _ _ _ hs hsteady hattempt => tracks_attempt hs hsteady hattempt) (Tracks.make t) hsteady

/-- A preset is heated, and its stage corrected and renamed while it preheats. -/
def correctedStage : List Operation :=
  [.addNewPreset "lead", .addStageItem 4 ⟨183, 30⟩, .postCommand (.selectPreset 4),
    .postCommand .startReflow, silentTick, .replaceStageItem 4 0 ⟨190, 45⟩,
    .setName 4 "leaded", silentTick, .postCommand .stopReflow, silentTick]

theorem oven_refines_correctedStage :
    ((correctedStage.foldlM (attempt .sample) ⟨.make, .make 0⟩).map oven).map Oven.writes =
      some [⟨kTargetTemperatureAddr, [183]⟩, ⟨kTargetTemperatureAddr, [0]⟩] := by
  rw [oven_refines .sample 0 correctedStage (by decide)]
  decide

end Server

end ReflowTable

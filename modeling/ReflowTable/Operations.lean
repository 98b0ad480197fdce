import ReflowTable.Draining
import ReflowTable.Lib.Runs

/-!
# The controller among its presets

The system the controller's guarantees are about: one holder, one controller over it, and
everything that may happen to the two between ticks. Presets are added, renamed and edited
through the holder, commands are posted, and ticks run with any register answer. The HTTP
requests of `ReflowTable.Handlers` are sequences of these operations.
-/

namespace ReflowTable

/-- The objects `ReflowControllerImpl` owns. -/
structure Server where
  presetsHolder : PresetsHolder
  reflowController : ReflowProcessController

/-- What can happen to them. -/
inductive Operation
  | addNewPreset (presetName : String)
  | setName (presetId : UInt64) (presetName : String)
  | addStageItem (presetId : UInt64) (stageItem : StageItem)
  | replaceStageItem (presetId : UInt64) (stageItemIdx : ℕ) (stageItem : StageItem)
  | postCommand (command : CommandVariant)
  | tick (input : TickInput)

namespace Server

/-- A member function called on the preset found under an id; an unknown id throws before
anything is touched. -/
def onPreset (presetId : UInt64) (f : Preset → Preset) (s : Server) : Server :=
  match s.presetsHolder.getPresetById presetId with
  | .ok ptr => { s with presetsHolder := s.presetsHolder.modify ptr f }
  | .error _ => s

def addNewPreset (tc : Toolchain) (presetName : String) (s : Server) : Server :=
  match s.presetsHolder.addNewPreset tc presetName with
  | .ok (_, holder) => { s with presetsHolder := holder }
  | .error _ => s

def postCommand (command : CommandVariant) (s : Server) : Server :=
  { s with reflowController := s.reflowController.postCommand command }

/-- The selection the queued commands will leave, `none` if one of them throws. -/
def drained (s : Server) : Option Selection :=
  s.reflowController.selection.drain s.presetsHolder s.reflowController.requestsQueue

/-- The outcome of the next tick. -/
def runnable (tc : Toolchain) (input : TickInput) (s : Server) :
    Outcome Fault ReflowProcessController :=
  s.reflowController.runnable tc s.presetsHolder input

/-- A tick; one that ends in an exception leaves the controller as the exception left it. -/
def tick (tc : Toolchain) (input : TickInput) (s : Server) : Server :=
  { s with reflowController := (s.runnable tc input).state }

def apply (tc : Toolchain) (s : Server) : Operation → Server
  | .addNewPreset presetName => s.addNewPreset tc presetName
  | .setName presetId presetName => s.onPreset presetId (·.setName presetName)
  | .addStageItem presetId stageItem => s.onPreset presetId (·.addStageItem tc stageItem)
  | .replaceStageItem presetId stageItemIdx stageItem =>
    s.onPreset presetId (·.replaceStageItem tc stageItemIdx stageItem)
  | .postCommand command => s.postCommand command
  | .tick input => s.tick tc input

/-- After construction: no presets, an idle controller. -/
def Constructed (s : Server) : Prop :=
  s.presetsHolder = .make ∧ ∃ t, s.reflowController = .make t

/-- The system of operations. -/
def operations (tc : Toolchain) : System Server Operation := ⟨Constructed, apply tc⟩

/-- A tick whose register read fails. -/
def silentTick : Operation := .tick ⟨none, ⟨0, 0⟩⟩

/-- A concrete server after construction. -/
def make : Server := ⟨.make, .make 0⟩

theorem constructed_make : Constructed make := ⟨rfl, 0, rfl⟩

/-- Every input sequence leads to a reachable state. -/
theorem reachable_run (tc : Toolchain) (ops : List Operation) :
    (operations tc).Reachable ((operations tc).run make ops) :=
  System.Reachable.run (.start constructed_make) ops

variable {tc : Toolchain} {s : Server}

theorem onPreset_of_lookup {id : UInt64} {ptr : PresetPtr} (f : Preset → Preset)
    (hl : s.presetsHolder.presetsStorage.lookup id = some ptr) :
    s.onPreset id f = { s with presetsHolder := s.presetsHolder.modify ptr f } := by
  simp [onPreset, PresetsHolder.getPresetById_eq_ok.mpr hl]

theorem onPreset_of_none {id : UInt64} (f : Preset → Preset)
    (hl : s.presetsHolder.presetsStorage.lookup id = none) : s.onPreset id f = s := by
  simp [onPreset, PresetsHolder.getPresetById_of_lookup_none hl]

@[simp] theorem reflowController_onPreset (id : UInt64) (f : Preset → Preset) :
    (s.onPreset id f).reflowController = s.reflowController := by
  unfold onPreset
  split <;> rfl

@[simp] theorem reflowController_addNewPreset (name : String) :
    (s.addNewPreset tc name).reflowController = s.reflowController := by
  unfold addNewPreset
  split <;> rfl

theorem growsTo_onPreset {id : UInt64} {f : Preset → Preset}
    (hf : ∀ p : Preset, p.numStages ≤ (f p).numStages) :
    s.presetsHolder.GrowsTo (s.onPreset id f).presetsHolder := by
  cases hl : s.presetsHolder.presetsStorage.lookup id with
  | none =>
    rw [onPreset_of_none f hl]
    exact .refl _
  | some ptr =>
    rw [onPreset_of_lookup f hl]
    exact PresetsHolder.growsTo_modify (hf _)

theorem growsTo_addNewPreset (name : String) :
    s.presetsHolder.GrowsTo (s.addNewPreset tc name).presetsHolder := by
  unfold addNewPreset
  by_cases hfree : s.presetsHolder.presetsStorage.lookup (tc.hash name) = none
  · rw [PresetsHolder.addNewPreset_of_free hfree]
    exact PresetsHolder.growsTo_insertNew _ hfree
  · rw [PresetsHolder.addNewPreset_of_taken hfree]
    exact .refl _

variable (tc s) in
/-- **Step lemma.** An operation lets the holder grow, or posts a command, or is a tick;
whatever it is, it leaves the other half of the server alone. -/
theorem apply_cases (op : Operation) :
    (s.presetsHolder.GrowsTo (s.apply tc op).presetsHolder ∧
        (s.apply tc op).reflowController = s.reflowController) ∨
      (∃ command, op = .postCommand command ∧ s.apply tc op = s.postCommand command) ∨
      (∃ input, op = .tick input ∧ s.apply tc op = s.tick tc input) := by
  cases op with
  | addNewPreset name =>
    exact .inl ⟨growsTo_addNewPreset name, reflowController_addNewPreset name⟩
  | setName id name =>
    exact .inl ⟨growsTo_onPreset fun _ => Nat.le_refl _, reflowController_onPreset id _⟩
  | addStageItem id item =>
    exact .inl ⟨growsTo_onPreset (Preset.numStages_le_addStageItem tc item),
      reflowController_onPreset id _⟩
  | replaceStageItem id idx item =>
    exact .inl ⟨growsTo_onPreset (Preset.numStages_le_replaceStageItem tc idx item),
      reflowController_onPreset id _⟩
  | postCommand command => exact .inr (.inl ⟨command, rfl, rfl⟩)
  | tick input => exact .inr (.inr ⟨input, rfl, rfl⟩)

/-- **Invariant rule for the operations.** It is enough that the property survives growth of
the holder, a change of the queue, and the elementary changes of the controller. -/
theorem reachable_invariant {I : PresetsHolder → ReflowProcessController → Prop}
    (hinit : ∀ t, I .make (.make t))
    (hgrow : ∀ h h' c, h.GrowsTo h' → I h c → I h' c)
    (hqueue : ∀ h c q, I h c → I h { c with requestsQueue := q })
    (hstep : ∀ h freed c c', ReflowProcessController.Transition tc h freed c c' → I h c → I h c')
    {s : Server} (hs : (operations tc).Reachable s) :
    I s.presetsHolder s.reflowController := by
  refine System.Reachable.invariant
    (I := fun s => I s.presetsHolder s.reflowController) ?_ ?_ hs
  · rintro s ⟨hholder, t, hcontroller⟩
    rw [hholder, hcontroller]
    exact hinit t
  · intro s op hI
    rcases apply_cases tc s op with ⟨hgrows, hc⟩ | ⟨command, -, heq⟩ |
      ⟨input, -, heq⟩
    · show I (s.apply tc op).presetsHolder (s.apply tc op).reflowController
      rw [hc]
      exact hgrow _ _ _ hgrows hI
    · show I (s.apply tc op).presetsHolder (s.apply tc op).reflowController
      rw [heq]
      exact hqueue _ _ _ hI
    · show I (s.apply tc op).presetsHolder (s.apply tc op).reflowController
      rw [heq]
      exact ReflowProcessController.runnable_keeps tc s.presetsHolder input
        (fun c c' h => hstep _ _ c c' h) _ hI

end Server

end ReflowTable

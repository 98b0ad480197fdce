import Mathlib.Data.List.AList
import Mathlib.Logic.Function.Basic
import ReflowTable.Lib.Vec
import ReflowTable.Types

/-!
# Presets and their holder

`presets_holder.cpp`. A `Preset` is a heap object that the holder, the controller and the
HTTP handlers share through reference-counted pointers; the holder never gives one up, so
objects live for good and a pointer is a number in allocation order. The stage list is a
`Vec`, because the controller keeps a raw pointer into it.
-/

namespace ReflowTable

/-! ## `Preset` -/

structure Preset where
  presetName : String
  presetItems : Vec StageItem

namespace Preset

/-- The constructor. -/
def make (presetName : String) : Preset := ⟨presetName, .empty⟩

def setName (presetName : String) (p : Preset) : Preset := { p with presetName }

def addStageItem (tc : Toolchain) (stageItem : StageItem) (p : Preset) : Preset :=
  { p with presetItems := p.presetItems.pushBack tc.grow stageItem }

/-- Assigns to the element at `stageItemIdx` if there is one, and appends otherwise,
wherever `stageItemIdx` points. -/
def replaceStageItem (tc : Toolchain) (stageItemIdx : ℕ) (stageItem : StageItem) (p : Preset) :
    Preset :=
  let hasToPush :=
    if p.presetItems.items.isEmpty then true else decide (stageItemIdx > p.presetItems.size - 1)
  if hasToPush then
    { p with presetItems := p.presetItems.pushBack tc.grow stageItem }
  else
    { p with presetItems := p.presetItems.set stageItemIdx stageItem }

/-- Hands every stage in order to `traverser`, which acts on a state of its own. -/
def forEachStage {σ : Type} (traverser : StageItem → σ → σ) (p : Preset) (s : σ) : σ :=
  p.presetItems.items.foldl (fun s stageItem => traverser stageItem s) s

def numStages (p : Preset) : ℕ := p.presetItems.size

/-- The reference `getStageItem` returns, as an address; `at` throws beyond the end. -/
def getStageItem (stageItemIdx : ℕ) (p : Preset) : Except Fault Vec.Ptr :=
  if stageItemIdx < p.presetItems.size then .ok (p.presetItems.ptrTo stageItemIdx)
  else .error .outOfRange

@[simp] theorem presetItems_make (name : String) : (make name).presetItems = .empty := rfl

@[simp] theorem presetItems_setName (name : String) (p : Preset) :
    (p.setName name).presetItems = p.presetItems := rfl

@[simp] theorem presetItems_addStageItem (tc : Toolchain) (item : StageItem) (p : Preset) :
    (p.addStageItem tc item).presetItems = p.presetItems.pushBack tc.grow item := rfl

/-- `replaceStageItem` appends exactly when the index is past the last element. -/
theorem presetItems_replaceStageItem (tc : Toolchain) (idx : ℕ) (item : StageItem)
    (p : Preset) :
    (p.replaceStageItem tc idx item).presetItems =
      if p.numStages ≤ idx then p.presetItems.pushBack tc.grow item
      else p.presetItems.set idx item := by
  have hpush : (if p.presetItems.items.isEmpty then true
      else decide (idx > p.presetItems.size - 1)) = decide (p.numStages ≤ idx) := by
    unfold numStages Vec.size
    cases p.presetItems.items with
    | nil => simp
    | cons item items =>
      rw [List.isEmpty_cons, if_neg Bool.false_ne_true, decide_eq_decide, List.length_cons]
      omega
  simp only [replaceStageItem, hpush, decide_eq_true_eq]
  split <;> rfl

@[simp] theorem presetName_replaceStageItem (tc : Toolchain) (idx : ℕ) (item : StageItem)
    (p : Preset) : (p.replaceStageItem tc idx item).presetName = p.presetName := by
  unfold replaceStageItem
  dsimp only
  split_ifs <;> rfl

/-- A traverser that collects something of every stage. -/
theorem forEachStage_append {α : Type} (f : StageItem → α) (p : Preset) (collected : List α) :
    p.forEachStage (fun stageItem collected => collected ++ [f stageItem]) collected =
      collected ++ p.presetItems.items.map f := by
  unfold forEachStage
  induction p.presetItems.items generalizing collected with
  | nil => simp
  | cons item items ih =>
    rw [List.foldl_cons, ih, List.map_cons, List.append_assoc]
    rfl

theorem numStages_eq (p : Preset) : p.numStages = p.presetItems.items.length := rfl

/-- An update never takes a stage away. -/
theorem numStages_le_replaceStageItem (tc : Toolchain) (idx : ℕ) (item : StageItem)
    (p : Preset) : p.numStages ≤ (p.replaceStageItem tc idx item).numStages := by
  unfold numStages
  rw [presetItems_replaceStageItem]
  split
  · rw [Vec.size_pushBack]
    omega
  · rw [Vec.size_set]

/-- The loop of `UpdatePreset` over the indexed stages, here from any index on. -/
def replaceStagesFrom (tc : Toolchain) (stagesContainer : List StageItem) (stageItemIdx : ℕ)
    (p : Preset) : Preset :=
  (stagesContainer.zipIdx stageItemIdx).foldl
    (fun p stageItem => p.replaceStageItem tc stageItem.2 stageItem.1) p

def replaceStages (tc : Toolchain) (stagesContainer : List StageItem) (p : Preset) : Preset :=
  p.replaceStagesFrom tc stagesContainer 0

theorem replaceStagesFrom_cons (tc : Toolchain) (item : StageItem) (items : List StageItem)
    (idx : ℕ) (p : Preset) :
    p.replaceStagesFrom tc (item :: items) idx =
      (p.replaceStageItem tc idx item).replaceStagesFrom tc items (idx + 1) := rfl

theorem presetName_replaceStagesFrom (tc : Toolchain) (stages : List StageItem) (idx : ℕ)
    (p : Preset) : (p.replaceStagesFrom tc stages idx).presetName = p.presetName := by
  induction stages generalizing idx p with
  | nil => rfl
  | cons item stages ih =>
    rw [replaceStagesFrom_cons, ih, presetName_replaceStageItem]

@[simp] theorem presetName_replaceStages (tc : Toolchain) (stages : List StageItem) (p : Preset) :
    (p.replaceStages tc stages).presetName = p.presetName :=
  presetName_replaceStagesFrom tc stages 0 p

theorem items_replaceStagesFrom (tc : Toolchain) (stages : List StageItem) {idx : ℕ} {p : Preset}
    {pre rest : List StageItem} (hitems : p.presetItems.items = pre ++ rest)
    (hidx : pre.length = idx) :
    (p.replaceStagesFrom tc stages idx).presetItems.items =
      pre ++ stages ++ rest.drop stages.length := by
  induction stages generalizing idx p pre rest with
  | nil => simpa [replaceStagesFrom] using hitems
  | cons item stages ih =>
    have hstep : (p.replaceStageItem tc idx item).presetItems.items =
        (pre ++ [item]) ++ rest.drop 1 := by
      rw [presetItems_replaceStageItem, numStages_eq, hitems]
      cases rest with
      | nil => simp [hitems, hidx]
      | cons old rest =>
        rw [if_neg (by simp; omega), Vec.items_set, hitems, ← hidx]
        simp
    rw [replaceStagesFrom_cons, ih hstep (by simp [hidx])]
    simp

/-- **The items after an update**: the new ones, then the old ones behind them. -/
theorem items_replaceStages (tc : Toolchain) (stages : List StageItem) (p : Preset) :
    (p.replaceStages tc stages).presetItems.items =
      stages ++ p.presetItems.items.drop stages.length :=
  items_replaceStagesFrom tc stages (List.nil_append _).symm rfl

theorem buffer_le_replaceStageItem (tc : Toolchain) (idx : ℕ) (item : StageItem) (p : Preset) :
    p.presetItems.buffer ≤ (p.replaceStageItem tc idx item).presetItems.buffer := by
  rw [presetItems_replaceStageItem]
  split
  · exact Vec.buffer_le_buffer_pushBack _ _ _
  · rw [Vec.buffer_set]

theorem buffer_le_replaceStagesFrom (tc : Toolchain) (stages : List StageItem) (idx : ℕ)
    (p : Preset) :
    p.presetItems.buffer ≤ (p.replaceStagesFrom tc stages idx).presetItems.buffer := by
  induction stages generalizing idx p with
  | nil => exact Nat.le_refl _
  | cons item stages ih =>
    exact (buffer_le_replaceStageItem tc idx item p).trans (ih (idx + 1) _)

/-- **Step lemma.** One replacement leaves the stages where they are as long as its index is within
the capacity; behind it the vector is full, and moves. -/
theorem buffer_replaceStageItem_cases (tc : Toolchain) (item : StageItem) {idx : ℕ} {p : Preset}
    (hidx : idx ≤ p.numStages) :
    idx + 1 ≤ (p.replaceStageItem tc idx item).numStages ∧
      ((idx < p.presetItems.capacity ∧
          (p.replaceStageItem tc idx item).presetItems.buffer = p.presetItems.buffer ∧
          (p.replaceStageItem tc idx item).presetItems.capacity = p.presetItems.capacity) ∨
        (p.presetItems.capacity ≤ idx ∧
          p.presetItems.buffer < (p.replaceStageItem tc idx item).presetItems.buffer)) := by
  have hfits : p.presetItems.size ≤ p.presetItems.capacity := p.presetItems.fits
  have hitems := presetItems_replaceStageItem tc idx item p
  unfold numStages at hidx ⊢
  by_cases hlt : idx < p.presetItems.size
  · -- an assignment in place
    rw [if_neg (show ¬ p.numStages ≤ idx from Nat.not_le.mpr hlt)] at hitems
    rw [hitems, Vec.size_set, Vec.buffer_set, Vec.capacity_set]
    exact ⟨hlt, .inl ⟨hlt.trans_le hfits, rfl, rfl⟩⟩
  · rw [if_pos (show p.numStages ≤ idx from Nat.not_lt.mp hlt)] at hitems
    rw [hitems, Vec.size_pushBack]
    refine ⟨Nat.succ_le_succ hidx, ?_⟩
    by_cases hroom : p.presetItems.size < p.presetItems.capacity
    · -- a `push_back` with room
      rw [Vec.buffer_pushBack_of_lt _ _ hroom, Vec.capacity_pushBack_of_lt _ _ hroom]
      exact .inl ⟨hidx.trans_lt hroom, rfl, rfl⟩
    · -- a `push_back` that moves the vector: it never comes back
      have hfull : p.presetItems.size = p.presetItems.capacity :=
        Nat.le_antisymm hfits (Nat.not_lt.mp hroom)
      rw [Vec.buffer_pushBack_of_full _ _ hfull]
      exact .inr ⟨hfull ▸ Nat.not_lt.mp hlt, Nat.lt_succ_self _⟩

theorem buffer_replaceStagesFrom_iff (tc : Toolchain) (stages : List StageItem) {idx : ℕ}
    {p : Preset} (hidx : idx ≤ p.numStages) :
    (p.replaceStagesFrom tc stages idx).presetItems.buffer = p.presetItems.buffer ↔
      idx + stages.length ≤ p.presetItems.capacity := by
  induction stages generalizing idx p with
  | nil => exact iff_of_true rfl (hidx.trans p.presetItems.fits)
  | cons item stages ih =>
    rw [replaceStagesFrom_cons, List.length_cons]
    obtain ⟨hnext, ⟨-, hbuffer, hcapacity⟩ | ⟨hfull, hmoved⟩⟩ :=
      buffer_replaceStageItem_cases tc item hidx
    · have hrec := ih hnext
      rw [hbuffer, hcapacity] at hrec
      refine hrec.trans ?_
      omega
    · have hle := buffer_le_replaceStagesFrom tc stages (idx + 1) (p.replaceStageItem tc idx item)
      refine iff_of_false (fun heq => ?_) ?_
      · omega
      · omega

/-- **An update moves the stages exactly when they do not fit.** -/
theorem buffer_replaceStages_iff (tc : Toolchain) (stages : List StageItem) (p : Preset) :
    (p.replaceStages tc stages).presetItems.buffer = p.presetItems.buffer ↔
      stages.length ≤ p.presetItems.capacity := by
  rw [replaceStages, buffer_replaceStagesFrom_iff tc stages (Nat.zero_le _), Nat.zero_add]

theorem numStages_le_addStageItem (tc : Toolchain) (item : StageItem) (p : Preset) :
    p.numStages ≤ (p.addStageItem tc item).numStages := by
  simp [numStages]

end Preset

/-! ## `PresetsHolder` -/

/-- `Preset::Ptr`, as the number of the object it points to. -/
abbrev PresetPtr := ℕ

/-- The holder: `std::map` from ids to pointers, and the objects behind the pointers. -/
structure PresetsHolder where
  presetsStorage : AList fun _ : UInt64 => PresetPtr
  objects : PresetPtr → Preset
  /-- the number of objects made so far -/
  allocated : ℕ
  /-- only pointers to existing objects are stored -/
  live : ∀ {id ptr}, presetsStorage.lookup id = some ptr → ptr < allocated
  /-- every object is stored under one id -/
  unique : ∀ {id id' ptr}, presetsStorage.lookup id = some ptr →
    presetsStorage.lookup id' = some ptr → id = id'

/-- `StageItem*`, a raw pointer to a stage of a preset. -/
structure StagePtr where
  preset : PresetPtr
  element : Vec.Ptr
deriving DecidableEq

namespace PresetsHolder

/-- A new holder. -/
def make : PresetsHolder where
  presetsStorage := ∅
  objects _ := Preset.make ""
  allocated := 0
  live h := by simp at h
  unique h := by simp at h

def getPresetById (presetId : UInt64) (h : PresetsHolder) : Except Fault PresetPtr :=
  match h.presetsStorage.lookup presetId with
  | some ptr => .ok ptr
  | none => .error (.runtimeError s!"Attempt to take unexisting preset by id:{presetId}")

/-- `insert` of a new object under an id that is not taken. -/
def insertNew (presetHash : UInt64) (preset : Preset) (h : PresetsHolder)
    (hfree : h.presetsStorage.lookup presetHash = none) : PresetsHolder where
  presetsStorage := h.presetsStorage.insert presetHash h.allocated
  objects := Function.update h.objects h.allocated preset
  allocated := h.allocated + 1
  live := by
    intro id ptr hl
    by_cases hid : id = presetHash
    · subst hid
      rw [AList.lookup_insert, Option.some.injEq] at hl
      exact hl ▸ Nat.lt_succ_self _
    · rw [AList.lookup_insert_ne hid] at hl
      exact Nat.lt_succ_of_lt (h.live hl)
  unique := by
    intro id id' ptr hl hl'
    by_cases hid : id = presetHash <;> by_cases hid' : id' = presetHash
    · rw [hid, hid']
    · subst hid
      rw [AList.lookup_insert, Option.some.injEq] at hl
      rw [AList.lookup_insert_ne hid'] at hl'
      exact absurd (h.live hl') (hl ▸ Nat.lt_irrefl _)
    · subst hid'
      rw [AList.lookup_insert, Option.some.injEq] at hl'
      rw [AList.lookup_insert_ne hid] at hl
      exact absurd (h.live hl) (hl' ▸ Nat.lt_irrefl _)
    · rw [AList.lookup_insert_ne hid] at hl
      rw [AList.lookup_insert_ne hid'] at hl'
      exact h.unique hl hl'

/-- Stores a new preset under the hash of its name. -/
def addNewPreset (tc : Toolchain) (presetName : String) (h : PresetsHolder) :
    Except Fault (UInt64 × PresetsHolder) :=
  let presetHash := tc.hash presetName
  if hfree : h.presetsStorage.lookup presetHash = none then
    .ok (presetHash, h.insertNew presetHash (.make presetName) hfree)
  else .error (.runtimeError s!"Attempt to add an existing preset with the name:{presetName}")

/-- A member function called on the object behind `ptr`. -/
def modify (ptr : PresetPtr) (f : Preset → Preset) (h : PresetsHolder) : PresetsHolder :=
  { h with objects := Function.update h.objects ptr (f (h.objects ptr)) }

/-- What a raw stage pointer reads, `none` when the stage has moved away. -/
def readStage (sp : StagePtr) (h : PresetsHolder) : Option StageItem :=
  (h.objects sp.preset).presetItems.read sp.element

theorem getPresetById_eq_ok {presetId : UInt64} {h : PresetsHolder} {ptr : PresetPtr} :
    h.getPresetById presetId = .ok ptr ↔ h.presetsStorage.lookup presetId = some ptr := by
  unfold getPresetById
  cases h.presetsStorage.lookup presetId <;> simp

theorem getPresetById_of_lookup_none {presetId : UInt64} {h : PresetsHolder}
    (hnone : h.presetsStorage.lookup presetId = none) :
    h.getPresetById presetId =
      .error (.runtimeError s!"Attempt to take unexisting preset by id:{presetId}") := by
  simp only [getPresetById, hnone]

@[simp] theorem presetsStorage_modify (ptr : PresetPtr) (f : Preset → Preset)
    (h : PresetsHolder) : (h.modify ptr f).presetsStorage = h.presetsStorage := rfl

@[simp] theorem objects_modify_self (ptr : PresetPtr) (f : Preset → Preset)
    (h : PresetsHolder) : (h.modify ptr f).objects ptr = f (h.objects ptr) := by
  simp [modify]

theorem objects_modify_of_ne {ptr other : PresetPtr} (f : Preset → Preset)
    (h : PresetsHolder) (hne : other ≠ ptr) : (h.modify ptr f).objects other = h.objects other := by
  simp [modify, hne]

theorem objects_insertNew_of_lt {id : UInt64} {preset : Preset} {h : PresetsHolder}
    {hfree : h.presetsStorage.lookup id = none} {ptr : PresetPtr} (hlt : ptr < h.allocated) :
    (h.insertNew id preset hfree).objects ptr = h.objects ptr :=
  Function.update_of_ne hlt.ne _ _

theorem modify_modify (ptr : PresetPtr) (f g : Preset → Preset) (h : PresetsHolder) :
    (h.modify ptr f).modify ptr g = h.modify ptr fun p => g (f p) := by
  simp [modify]

theorem modify_id (ptr : PresetPtr) (h : PresetsHolder) : h.modify ptr (fun p => p) = h := by
  simp [modify]

theorem addNewPreset_of_free {tc : Toolchain} {name : String} {h : PresetsHolder}
    (hfree : h.presetsStorage.lookup (tc.hash name) = none) :
    h.addNewPreset tc name = .ok (tc.hash name, h.insertNew (tc.hash name) (.make name) hfree) := by
  simp [addNewPreset, hfree]

theorem addNewPreset_of_taken {tc : Toolchain} {name : String} {h : PresetsHolder}
    (htaken : h.presetsStorage.lookup (tc.hash name) ≠ none) :
    h.addNewPreset tc name =
      .error (.runtimeError s!"Attempt to add an existing preset with the name:{name}") := by
  simp [addNewPreset, htaken]

/-! ## Growth

The holder only ever grows: ids keep their preset, and presets keep their stages. -/

/-- `h'` is `h` after some additions and updates. -/
structure GrowsTo (h h' : PresetsHolder) : Prop where
  lookup : ∀ {id ptr}, h.presetsStorage.lookup id = some ptr →
    h'.presetsStorage.lookup id = some ptr
  allocated : h.allocated ≤ h'.allocated
  numStages : ∀ {ptr}, ptr < h.allocated →
    (h.objects ptr).numStages ≤ (h'.objects ptr).numStages

theorem GrowsTo.refl (h : PresetsHolder) : h.GrowsTo h :=
  ⟨fun hl => hl, Nat.le_refl _, fun _ => Nat.le_refl _⟩

theorem growsTo_insertNew {h : PresetsHolder} {id : UInt64} (preset : Preset)
    (hfree : h.presetsStorage.lookup id = none) : h.GrowsTo (h.insertNew id preset hfree) where
  lookup {id' ptr} hl := by
    have hne : id' ≠ id := by
      rintro rfl
      simp [hfree] at hl
    simpa [insertNew, AList.lookup_insert_ne hne] using hl
  allocated := Nat.le_succ _
  numStages {ptr} hlt := by rw [objects_insertNew_of_lt hlt]

theorem growsTo_modify {h : PresetsHolder} {ptr : PresetPtr} {f : Preset → Preset}
    (hf : (h.objects ptr).numStages ≤ (f (h.objects ptr)).numStages) :
    h.GrowsTo (h.modify ptr f) where
  lookup hl := hl
  allocated := Nat.le_refl _
  numStages {other} _ := by
    by_cases hne : other = ptr
    · subst hne
      rwa [objects_modify_self]
    · rw [objects_modify_of_ne f h hne]

end PresetsHolder

end ReflowTable

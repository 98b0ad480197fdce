import Mathlib.Data.Set.Function
import ReflowTable.Operations

/-!
# Names and presets

`addNewPreset` stores a preset under the hash of its name, and asks the hash whether a name is
taken. `setName` changes the name and leaves the preset where it is. As long as no rename gives
a preset another name, a preset is always found under the hash of the name it has; after the
first one that does, it is not.
-/

namespace ReflowTable

namespace PresetsHolder

/-- A stored preset has this name now. -/
def HasName (name : String) (h : PresetsHolder) : Prop :=
  ∃ id ptr, h.presetsStorage.lookup id = some ptr ∧ (h.objects ptr).presetName = name

/-- `h'` is `h` with one preset more: a new one of this name, under an id that was free. -/
structure AddsOne (name : String) (id : UInt64) (h h' : PresetsHolder) : Prop where
  free : h.presetsStorage.lookup id = none
  added : ∃ ptr, h'.presetsStorage.lookup id = some ptr ∧ h'.objects ptr = .make name
  others : ∀ id', id' ≠ id → h'.presetsStorage.lookup id' = h.presetsStorage.lookup id'
  kept : ∀ id' ptr, h.presetsStorage.lookup id' = some ptr → h'.objects ptr = h.objects ptr

/-- Every preset is stored under the hash of its name. -/
def Keyed (tc : Toolchain) (names : Set String) (h : PresetsHolder) : Prop :=
  ∀ id ptr, h.presetsStorage.lookup id = some ptr →
    (h.objects ptr).presetName ∈ names ∧ tc.hash (h.objects ptr).presetName = id

variable {tc : Toolchain} {names : Set String} {h : PresetsHolder}

theorem addsOne_insertNew {name : String} {id : UInt64}
    (hfree : h.presetsStorage.lookup id = none) :
    AddsOne name id h (h.insertNew id (.make name) hfree) where
  free := hfree
  added := by
    refine ⟨h.allocated, ?_, ?_⟩
    · show (h.presetsStorage.insert id h.allocated).lookup id = some h.allocated
      exact AList.lookup_insert _
    · show Function.update h.objects h.allocated (Preset.make name) h.allocated = .make name
      exact Function.update_self ..
  others := by
    intro id' hne
    exact AList.lookup_insert_ne hne
  kept := by
    intro id' ptr hl
    exact objects_insertNew_of_lt (h.live hl)

/-- `addNewPreset` throws exactly when the hash of the name is taken. -/
theorem addNewPreset_throws_iff (name : String) :
    (∃ e, h.addNewPreset tc name = .error e) ↔
      h.presetsStorage.lookup (tc.hash name) ≠ none := by
  by_cases hfree : h.presetsStorage.lookup (tc.hash name) = none
  · rw [addNewPreset_of_free hfree]
    simp [hfree]
  · rw [addNewPreset_of_taken hfree]
    simp [hfree]

theorem addNewPreset_eq_ok {name : String} {id : UInt64} {h' : PresetsHolder}
    (hadd : h.addNewPreset tc name = .ok (id, h')) : id = tc.hash name ∧ AddsOne name id h h' := by
  by_cases hfree : h.presetsStorage.lookup (tc.hash name) = none
  · rw [addNewPreset_of_free hfree, Except.ok.injEq, Prod.mk.injEq] at hadd
    obtain ⟨rfl, rfl⟩ := hadd
    exact ⟨rfl, addsOne_insertNew hfree⟩
  · rw [addNewPreset_of_taken hfree] at hadd
    cases hadd

namespace Keyed

theorem make (tc : Toolchain) (names : Set String) : Keyed tc names .make := by
  intro id ptr hl
  simp [PresetsHolder.make] at hl

theorem addsOne {h' : PresetsHolder} {name : String} (hk : Keyed tc names h)
    (hname : name ∈ names) (hadds : AddsOne name (tc.hash name) h h') : Keyed tc names h' := by
  intro id ptr hl
  by_cases hid : id = tc.hash name
  · obtain ⟨ptr', hl', hnew⟩ := hadds.added
    have heq : ptr = ptr' := by
      rw [hid, hl'] at hl
      exact (Option.some.inj hl).symm
    rw [heq, hnew]
    exact ⟨hname, hid.symm⟩
  · rw [hadds.others id hid] at hl
    rw [hadds.kept id ptr hl]
    exact hk id ptr hl

/-- A change that leaves the name alone. -/
theorem modify {ptr : PresetPtr} {f : Preset → Preset} (hk : Keyed tc names h)
    (hf : (f (h.objects ptr)).presetName = (h.objects ptr).presetName) :
    Keyed tc names (h.modify ptr f) := by
  intro id other hl
  have hold := hk id other hl
  by_cases hne : other = ptr
  · rw [hne] at hold ⊢
    rw [objects_modify_self, hf]
    exact hold
  · rw [objects_modify_of_ne f h hne]
    exact hold

/-- Presets with one name are one preset. -/
theorem distinct (hk : Keyed tc names h) {id id' : UInt64} {ptr ptr' : PresetPtr}
    (hl : h.presetsStorage.lookup id = some ptr) (hl' : h.presetsStorage.lookup id' = some ptr')
    (hname : (h.objects ptr).presetName = (h.objects ptr').presetName) : id = id' := by
  have hid := (hk id ptr hl).2
  have hid' := (hk id' ptr' hl').2
  rw [← hid, ← hid', hname]

/-- The hash of a name is taken by the preset of that name. -/
theorem hasName_iff (hinj : Set.InjOn tc.hash names) (hk : Keyed tc names h) {name : String}
    (hname : name ∈ names) :
    h.HasName name ↔ h.presetsStorage.lookup (tc.hash name) ≠ none := by
  constructor
  · rintro ⟨id, ptr, hl, hptr⟩
    have hid := (hk id ptr hl).2
    rw [hptr] at hid
    rw [hid, hl]
    exact Option.some_ne_none ptr
  · intro htaken
    obtain ⟨ptr, hl⟩ := Option.ne_none_iff_exists'.mp htaken
    obtain ⟨hmem, hhash⟩ := hk _ ptr hl
    exact ⟨_, ptr, hl, hinj hmem hname hhash⟩

/-- A preset that is given another name is still found under the old one, which no preset has
any more. -/
theorem not_hasName_setName (hk : Keyed tc names h) {id : UInt64} {ptr : PresetPtr}
    {name : String} (hl : h.presetsStorage.lookup id = some ptr)
    (hne : (h.objects ptr).presetName ≠ name) :
    ¬ (h.modify ptr (·.setName name)).HasName (h.objects ptr).presetName := by
  rintro ⟨id', ptr', hl', hname⟩
  by_cases hother : ptr' = ptr
  · rw [hother, objects_modify_self] at hname
    exact hne hname.symm
  · rw [objects_modify_of_ne _ h hother] at hname
    have hid : id' = id := hk.distinct hl' hl hname
    rw [hid, presetsStorage_modify, hl] at hl'
    exact hother (Option.some.inj hl').symm

end Keyed

end PresetsHolder

/-- The names an operation brings in. -/
def Operation.UsesNames (names : Set String) : Operation → Prop
  | .addNewPreset presetName => presetName ∈ names
  | .setName _ presetName => presetName ∈ names
  | _ => True

namespace Server

open PresetsHolder

variable {tc : Toolchain} {names : Set String} {s : Server}

/-- Names identify presets, and `addNewPreset` keeps it so. -/
structure NamesIdentify (tc : Toolchain) (names : Set String) (s : Server) : Prop where
  distinct : ∀ {id id' ptr ptr'}, s.presetsHolder.presetsStorage.lookup id = some ptr →
    s.presetsHolder.presetsStorage.lookup id' = some ptr' →
    (s.presetsHolder.objects ptr).presetName = (s.presetsHolder.objects ptr').presetName → id = id'
  throws : ∀ name ∈ names, (∃ e, s.presetsHolder.addNewPreset tc name = .error e) ↔
    s.presetsHolder.HasName name
  unchanged : ∀ name e, s.presetsHolder.addNewPreset tc name = .error e →
    s.addNewPreset tc name = s
  adds : ∀ name id holder, s.presetsHolder.addNewPreset tc name = .ok (id, holder) →
    (s.addNewPreset tc name).presetsHolder = holder ∧ AddsOne name id s.presetsHolder holder

/-- A rename gives a preset the name it has. -/
def KeepsName (s : Server) (op : Operation) : Prop :=
  ∀ id name ptr, op = .setName id name → s.presetsHolder.presetsStorage.lookup id = some ptr →
    (s.presetsHolder.objects ptr).presetName = name

theorem namesIdentify_of_keyed (hinj : Set.InjOn tc.hash names)
    (hk : Keyed tc names s.presetsHolder) : NamesIdentify tc names s where
  distinct := hk.distinct
  throws name hname := by rw [addNewPreset_throws_iff, hk.hasName_iff hinj hname]
  unchanged name e hthrows := by simp only [addNewPreset, hthrows]
  adds name id holder hadd := by
    refine ⟨?_, (addNewPreset_eq_ok hadd).2⟩
    simp only [addNewPreset, hadd]

/-- A change of a stored preset that leaves its name alone. -/
theorem keyed_onPreset {id : UInt64} {f : Preset → Preset} (hk : Keyed tc names s.presetsHolder)
    (hf : ∀ ptr, s.presetsHolder.presetsStorage.lookup id = some ptr →
      (f (s.presetsHolder.objects ptr)).presetName = (s.presetsHolder.objects ptr).presetName) :
    Keyed tc names (s.onPreset id f).presetsHolder := by
  cases hl : s.presetsHolder.presetsStorage.lookup id with
  | none =>
    rw [onPreset_of_none f hl]
    exact hk
  | some ptr =>
    rw [onPreset_of_lookup f hl]
    exact hk.modify (hf ptr hl)

/-- **Step lemma.** -/
theorem keyed_apply (hk : Keyed tc names s.presetsHolder) {op : Operation}
    (huses : op.UsesNames names) (hkeeps : KeepsName s op) :
    Keyed tc names (s.apply tc op).presetsHolder := by
  cases op with
  | addNewPreset name =>
    show Keyed tc names (s.addNewPreset tc name).presetsHolder
    cases hadd : s.presetsHolder.addNewPreset tc name with
    | error e =>
      simp only [addNewPreset, hadd]
      exact hk
    | ok added =>
      obtain ⟨id, holder⟩ := added
      simp only [addNewPreset, hadd]
      obtain ⟨rfl, hadds⟩ := addNewPreset_eq_ok hadd
      exact hk.addsOne huses hadds
  | setName id name =>
    apply keyed_onPreset hk
    intro ptr hl
    exact (hkeeps id name ptr rfl hl).symm
  | addStageItem id item => exact keyed_onPreset hk fun _ _ => rfl
  | replaceStageItem id idx item =>
    apply keyed_onPreset hk
    intro ptr _
    exact Preset.presetName_replaceStageItem tc idx item _
  | postCommand command => exact hk
  | tick input => exact hk

/-- **Run lemma.** -/
theorem keyed_of_reachableVia
    (hs : (operations tc).ReachableVia
      (fun s op => op.UsesNames names ∧ KeepsName s op) s) : Keyed tc names s.presetsHolder := by
  refine System.ReachableVia.invariant (I := fun s => Keyed tc names s.presetsHolder) ?_ ?_ hs
  · rintro s ⟨hholder, -⟩
    rw [hholder]
    exact Keyed.make tc names
  · intro s op _ hk hok
    exact keyed_apply hk hok.1 hok.2

/-- The first rename to another name breaks the correspondence. -/
theorem keepsName_of_namesIdentify (hk : Keyed tc names s.presetsHolder) {op : Operation}
    (hnames : NamesIdentify tc names (s.apply tc op)) : KeepsName s op := by
  rintro id name ptr rfl hl
  by_contra hne
  have hstep : (s.apply tc (.setName id name)).presetsHolder =
      s.presetsHolder.modify ptr (·.setName name) := by
    show (s.onPreset id (·.setName name)).presetsHolder = _
    rw [onPreset_of_lookup _ hl]
  obtain ⟨hmem, hhash⟩ := hk id ptr hl
  have hthrows := hnames.throws _ hmem
  rw [hstep, addNewPreset_throws_iff, presetsStorage_modify, hhash, hl] at hthrows
  exact hk.not_hasName_setName hl hne (hthrows.mp (Option.some_ne_none ptr))

/-- **Names identify presets** in every state reached while renames leave the names as they
are, and the first rename that does not ends that. -/
theorem names_identify_iff (hinj : Set.InjOn tc.hash names)
    (hs : (operations tc).ReachableVia
      (fun s op => op.UsesNames names ∧ KeepsName s op) s) :
    NamesIdentify tc names s ∧
      ∀ op, op.UsesNames names → (NamesIdentify tc names (s.apply tc op) ↔ KeepsName s op) := by
  have hk := keyed_of_reachableVia hs
  refine ⟨namesIdentify_of_keyed hinj hk, fun op huses => ⟨keepsName_of_namesIdentify hk, ?_⟩⟩
  intro hkeeps
  exact namesIdentify_of_keyed hinj (keyed_apply hk huses hkeeps)

/-- The names of two solder pastes. -/
def pasteNames : Set String := {"lead", "silver"}

theorem injOn_pasteNames : Set.InjOn Toolchain.sample.hash pasteNames := by
  intro a ha b hb hab
  rcases ha with rfl | rfl <;> rcases hb with rfl | rfl
  · rfl
  · exact absurd hab (by decide)
  · exact absurd hab (by decide)
  · rfl

/-- Two presets have been created, and the first renamed to what it is called. -/
def keptRun : List Operation :=
  [.addNewPreset "lead", .addNewPreset "silver", .setName 4 "lead"]

theorem names_identify_iff_keptRun :
    let s := (operations .sample).run make keptRun
    (s.presetsHolder.objects 0).presetName = "lead" ∧ NamesIdentify .sample pasteNames s ∧
      ∀ op, op.UsesNames pasteNames →
        (NamesIdentify .sample pasteNames (s.apply .sample op) ↔ KeepsName s op) := by
  have hnew : ∀ (s : Server) (name : String), KeepsName s (.addNewPreset name) := by
    rintro s name id name' ptr ⟨⟩
  let s₂ := (operations .sample).run make [.addNewPreset "lead", .addNewPreset "silver"]
  have hs₂ : (operations .sample).ReachableVia
      (fun s op => op.UsesNames pasteNames ∧ KeepsName s op) s₂ :=
    .step (.step (.start constructed_make) ⟨.inl rfl, hnew _ _⟩) ⟨.inr rfl, hnew _ _⟩
  have hkeeps : KeepsName s₂ (.setName 4 "lead") := by
    rintro id name ptr ⟨⟩ hl
    have hlead : s₂.presetsHolder.presetsStorage.lookup 4 = some 0 := by decide
    obtain rfl : 0 = ptr := Option.some.inj (hlead.symm.trans hl)
    decide
  have hs : (operations .sample).ReachableVia
      (fun s op => op.UsesNames pasteNames ∧ KeepsName s op)
      ((operations .sample).run make keptRun) := .step hs₂ ⟨.inl rfl, hkeeps⟩
  exact ⟨by decide, names_identify_iff injOn_pasteNames hs⟩

/-- The first preset has been given the name of the second. -/
def renamedRun : List Operation :=
  [.addNewPreset "lead", .addNewPreset "silver", .setName 4 "silver"]

/-- Two presets have one name, and the name that none has is refused. -/
theorem not_namesIdentify_renamedRun :
    let s := (operations .sample).run make renamedRun
    (operations .sample).Reachable s ∧ Set.InjOn Toolchain.sample.hash pasteNames ∧
      (s.presetsHolder.objects 0).presetName = "silver" ∧
      (s.presetsHolder.objects 1).presetName = "silver" ∧
      (∃ e, s.presetsHolder.addNewPreset .sample "lead" = .error e) ∧
      ¬ NamesIdentify .sample pasteNames s := by
  refine ⟨reachable_run _ _, injOn_pasteNames, by decide, by decide, ⟨_, rfl⟩, fun hnames => ?_⟩
  have hlead : ((operations .sample).run make renamedRun).presetsHolder.presetsStorage.lookup 4 =
      some 0 := by decide
  have hsilver : ((operations .sample).run make renamedRun).presetsHolder.presetsStorage.lookup 6 =
      some 1 := by decide
  have hid : (4 : UInt64) = 6 := hnames.distinct hlead hsilver (by decide)
  exact absurd hid (by decide)

end Server

end ReflowTable

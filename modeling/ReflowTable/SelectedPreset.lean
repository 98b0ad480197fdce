import ReflowTable.Operations

/-!
# The selected id and the selected preset

`handlePresetSelection` stores the id before it looks the preset up. An id the holder does not
know makes the lookup throw with the new id next to the old preset. As long as no queued
selection names such an id, the two fields agree.
-/

namespace ReflowTable

open ReflowProcessController

/-- The two fields agree, and a run has a preset. -/
inductive Coherent (h : PresetsHolder) (c : ReflowProcessController) : Prop
  | unselected : c.activePresetId = none → c.activePreset = none → c.isReflowRunning = false →
      Coherent h c
  | selected {id : UInt64} {ptr : PresetPtr} : c.activePresetId = some id →
      c.activePreset = some ptr → h.presetsStorage.lookup id = some ptr → Coherent h c

namespace Coherent

variable {tc : Toolchain} {h h' : PresetsHolder} {freed : StageItem}
  {c c' : ReflowProcessController}

theorem congr (hc : Coherent h c) (hid : c'.activePresetId = c.activePresetId)
    (hactive : c'.activePreset = c.activePreset) (hrun : c'.isReflowRunning = c.isReflowRunning) :
    Coherent h c' := by
  cases hc with
  | unselected hnone hnull hidle =>
    exact .unselected (hid.trans hnone) (hactive.trans hnull) (hrun.trans hidle)
  | selected hsome hptr hl => exact .selected (hid.trans hsome) (hactive.trans hptr) hl

theorem grow (hgrow : h.GrowsTo h') (hc : Coherent h c) : Coherent h' c := by
  cases hc with
  | unselected hnone hnull hidle => exact .unselected hnone hnull hidle
  | selected hsome hptr hl => exact .selected hsome hptr (hgrow.lookup hl)

/-- A run is on a preset that is stored. -/
theorem selected_of_active (hc : Coherent h c) {ptr : PresetPtr}
    (hactive : c.activePreset = some ptr) :
    ∃ id, c.activePresetId = some id ∧ h.presetsStorage.lookup id = some ptr := by
  cases hc with
  | unselected _ hnull => simp [hactive] at hnull
  | selected hsome hptr hl =>
    obtain rfl := Option.some.inj (hactive.symm.trans hptr)
    exact ⟨_, hsome, hl⟩

theorem ended : Coherent h c.ended := .unselected rfl rfl rfl

/-- A handler that returns keeps the fields together. -/
theorem of_visitCommand {command : CommandVariant}
    (hdone : visitCommand tc h command c = .done c') (hc : Coherent h c) : Coherent h c' := by
  have heffect := visitCommand_effect tc h command c
  rw [hdone] at heffect
  cases heffect with
  | startUnselected => exact hc
  | start hactive =>
    obtain ⟨id, hsome, hl⟩ := hc.selected_of_active hactive
    exact .selected hsome hactive hl
  | stopIdle => exact hc
  | stop => exact ended
  | selectRunning => exact hc
  | select _ hl => exact .selected rfl rfl hl
  | setParams => exact hc.congr rfl rfl rfl

/-- The process step keeps them together. -/
theorem process (hstep : ProcessChange h freed c c') (hc : Coherent h c) : Coherent h c' := by
  cases hstep with
  | finish => exact ended
  | _ => exact hc.congr rfl rfl rfl

/-- A tick whose commands all return keeps the fields together; a tick with a command that
throws drives them apart. -/
theorem runnable_iff (input : TickInput) (hc : Coherent h c) :
    Coherent h (c.runnable tc h input).state ↔ c.selection.drain h c.requestsQueue ≠ none := by
  have hdrain := dispatchCommandsQueue_drain tc h c
  unfold runnable
  cases hdispatch : c.dispatchCommandsQueue tc h with
  | done c₁ =>
    -- every handler has returned, and the rest of the tick does not select
    rw [hdispatch] at hdrain
    have hc₁ : Coherent h c₁ := by
      refine Outcome.sweep_done (I := Coherent h) (f := handleOperation tc h) ?_ hdispatch hc
      intro command s s' hdone hs
      exact of_visitCommand (c := { s with requestsQueue := s.requestsQueue.tail }) hdone
        (hs.congr rfl rfl rfl)
    have hread : Coherent h (c₁.requestModbusData input.reading) := by
      cases input.reading <;> exact hc₁.congr rfl rfl rfl
    refine iff_of_true ?_ (by simp [← hdrain])
    exact (process_follows h input.freed).keeps (fun _ _ hstep hs => process hstep hs) _ hread
  | raised e c₁ =>
    -- the id left behind is unknown, so no preset of the holder goes with it
    rw [hdispatch] at hdrain
    refine iff_of_false (fun hc₁ => ?_) (by simp [← hdrain])
    obtain ⟨-, -, id, hnone, hid⟩ := dispatchCommandsQueue_raised hdispatch
    cases hc₁ with
    | unselected hno => simp [hid] at hno
    | selected hsome _ hl =>
      obtain rfl := Option.some.inj (hid.symm.trans hsome)
      simp [hnone] at hl

end Coherent

/-- A selection of an unknown id changes neither field only during a run, when it is ignored,
or when the id was the active one already. -/
theorem handlePresetSelection_unknown_iff {h : PresetsHolder} (c : ReflowProcessController)
    {id : UInt64} (hnone : h.presetsStorage.lookup id = none) :
    ((c.handlePresetSelection h id).state.activePresetId = c.activePresetId ∧
        (c.handlePresetSelection h id).state.activePreset = c.activePreset) ↔
      c.isReflowRunning = true ∨ c.activePresetId = some id := by
  cases hrun : c.isReflowRunning with
  | true => simp [handlePresetSelection_of_running id hrun]
  | false =>
    rw [handlePresetSelection_of_none hrun hnone]
    simp [eq_comm]

namespace Server

variable {tc : Toolchain}

/-- A tick handles no selection of an unknown id. -/
def SelectsKnown (s : Server) (op : Operation) : Prop :=
  ∀ input, op = .tick input → s.drained ≠ none

/-- **Run lemma.** While only known ids are selected the fields agree. -/
theorem coherent_of_reachableVia {s : Server} (hs : (operations tc).ReachableVia SelectsKnown s) :
    Coherent s.presetsHolder s.reflowController := by
  refine System.ReachableVia.invariant
    (I := fun s => Coherent s.presetsHolder s.reflowController) ?_ ?_ hs
  · rintro s ⟨-, t, hcontroller⟩
    rw [hcontroller]
    exact .unselected rfl rfl rfl
  · intro s op _ hc hok
    show Coherent (s.apply tc op).presetsHolder (s.apply tc op).reflowController
    rcases apply_cases tc s op with ⟨hgrows, heq⟩ | ⟨command, -, heq⟩ |
      ⟨input, hop, heq⟩
    · rw [heq]
      exact hc.grow hgrows
    · rw [heq]
      exact hc.congr rfl rfl rfl
    · rw [heq]
      exact (Coherent.runnable_iff input hc).mpr (hok input hop)

/-- **The selected id and the selected preset agree** in every state reached while only known
ids are selected, and the first tick that selects an unknown one ends that. A single selection
of an unknown id leaves the fields alone under the stated condition only. -/
theorem selection_coherent_iff (tc : Toolchain) :
    (∀ s, (operations tc).ReachableVia SelectsKnown s →
      Coherent s.presetsHolder s.reflowController ∧
        ∀ input, Coherent (s.tick tc input).presetsHolder (s.tick tc input).reflowController ↔
          SelectsKnown s (.tick input)) ∧
    (∀ (h : PresetsHolder) (c : ReflowProcessController) (id : UInt64),
      h.presetsStorage.lookup id = none →
        (((c.handlePresetSelection h id).state.activePresetId = c.activePresetId ∧
            (c.handlePresetSelection h id).state.activePreset = c.activePreset) ↔
          c.isReflowRunning = true ∨ c.activePresetId = some id)) := by
  refine ⟨fun s hs => ?_, fun h c id hnone => handlePresetSelection_unknown_iff c hnone⟩
  have hc := coherent_of_reachableVia hs
  refine ⟨hc, fun input => (Coherent.runnable_iff input hc).trans ?_⟩
  exact ⟨fun hdrained _ _ => hdrained, fun hok => hok input rfl⟩

/-- A stored preset has been selected. -/
theorem selection_coherent_iff_selected :
    let s := (operations .sample).run make
      [.addNewPreset "lead", .postCommand (.selectPreset 4), silentTick]
    Coherent s.presetsHolder s.reflowController ∧ s.reflowController.activePreset = some 0 ∧
      ((((ReflowProcessController.make 0).handlePresetSelection .make 9).state.activePresetId =
            none ∧
          ((ReflowProcessController.make 0).handlePresetSelection .make 9).state.activePreset =
            none) ↔ false = true ∨ (none : Option UInt64) = some 9) := by
  have hreach : (operations .sample).ReachableVia SelectsKnown ((operations .sample).run make
      [.addNewPreset "lead", .postCommand (.selectPreset 4), silentTick]) :=
    .step (.step (.step (.start constructed_make) (fun _ hop => by cases hop))
      (fun _ hop => by cases hop)) (fun _ _ => by decide)
  exact ⟨((selection_coherent_iff .sample).1 _ hreach).1, by decide,
    (selection_coherent_iff .sample).2 .make (.make 0) 9 rfl⟩

/-- Selecting an id that was never stored leaves it active without a preset. -/
theorem not_coherent_unknownId :
    let s := (operations .sample).run make [.postCommand (.selectPreset 9), silentTick]
    (operations .sample).Reachable s ∧ s.reflowController.activePresetId = some 9 ∧
      s.reflowController.activePreset = none ∧
      ¬ Coherent s.presetsHolder s.reflowController := by
  have hnull : ((operations .sample).run make
      [.postCommand (.selectPreset 9), silentTick]).reflowController.activePreset = none := by
    decide
  refine ⟨reachable_run _ _, by decide, hnull, fun hc => ?_⟩
  cases hc with
  | unselected hnone => exact absurd hnone (by decide)
  | selected _ hptr =>
    rw [hnull] at hptr
    cases hptr

end Server

end ReflowTable

import Mathlib.Data.List.Induction
import ReflowTable.Transitions

/-!
# What the queue decides

Which commands of the queue take effect depends on two fields of the controller only: is a run
on, and which preset is active. `Selection` keeps these two, and `Selection.drain` runs the
queue over them. The dispatch loop refines it (`dispatchCommandsQueue_drain`), so a condition
on a tick can be put as one on the queue before it.
-/

namespace ReflowTable

/-- What the handlers look at. -/
structure Selection where
  running : Bool
  preset : Option PresetPtr
deriving DecidableEq

namespace Selection

/-- What a command makes of it, `none` when its handler throws. -/
def handle (holder : PresetsHolder) (sel : Selection) : CommandVariant → Option Selection
  | .startReflow => some { sel with running := sel.running || sel.preset.isSome }
  | .stopReflow => some (if sel.running then ⟨false, none⟩ else sel)
  | .selectPreset presetId =>
    if sel.running then some sel
    else (holder.presetsStorage.lookup presetId).map fun ptr => ⟨false, some ptr⟩
  | .setRegulatorParams _ => some sel

/-- What a whole queue makes of it. -/
def drain (holder : PresetsHolder) (sel : Selection) (queue : List CommandVariant) :
    Option Selection :=
  queue.foldlM (handle holder) sel

@[simp] theorem drain_nil (holder : PresetsHolder) (sel : Selection) :
    sel.drain holder [] = some sel := rfl

theorem drain_append (holder : PresetsHolder) (sel : Selection) (pre post : List CommandVariant) :
    sel.drain holder (pre ++ post) = (sel.drain holder pre).bind (drain holder · post) :=
  List.foldlM_append

/-- Without a `StopReflow` a run goes on, and nothing can throw. -/
theorem drain_of_running {holder : PresetsHolder} {sel : Selection} (hrun : sel.running = true)
    {queue : List CommandVariant} (hstop : .stopReflow ∉ queue) :
    sel.drain holder queue = some sel := by
  induction queue with
  | nil => rfl
  | cons command queue ih =>
    have hhandle : handle holder sel command = some sel := by
      cases command with
      | startReflow => rw [handle, hrun, Bool.true_or, ← hrun]
      | stopReflow => simp at hstop
      | selectPreset id => simp [handle, hrun]
      | setRegulatorParams params => rfl
    rw [drain, List.foldlM_cons, hhandle]
    exact ih fun hmem => hstop (List.mem_cons_of_mem _ hmem)

/-- Starting a selected preset. -/
theorem drain_startReflow {holder : PresetsHolder} {sel sel' : Selection}
    {pre post : List CommandVariant} (hpre : sel.drain holder pre = some sel')
    (hpreset : sel'.preset ≠ none) (hstop : .stopReflow ∉ post) :
    sel.drain holder (pre ++ .startReflow :: post) = some ⟨true, sel'.preset⟩ := by
  have hhandle : handle holder sel' .startReflow = some ⟨true, sel'.preset⟩ := by
    simp [handle, Option.isSome_iff_ne_none.mpr hpreset]
  rw [drain_append, hpre, Option.bind_some, drain, List.foldlM_cons, hhandle]
  exact drain_of_running rfl hstop

/-- Only `StartReflow` begins a run, and only with a preset selected. -/
theorem startReflow_of_handle {holder : PresetsHolder} {sel sel' : Selection}
    {command : CommandVariant} (hhandle : handle holder sel command = some sel')
    (hidle : sel.running = false) (hrun : sel'.running = true) :
    command = .startReflow ∧ sel.preset ≠ none := by
  cases command with
  | startReflow =>
    refine ⟨rfl, fun hnone => ?_⟩
    simp only [handle, hidle, hnone, Option.some.injEq] at hhandle
    rw [← hhandle] at hrun
    cases hrun
  | stopReflow =>
    simp only [handle, hidle, Option.some.injEq] at hhandle
    rw [← hhandle] at hrun
    simp [hidle] at hrun
  | selectPreset id =>
    simp only [handle, hidle, Bool.false_eq_true, if_false, Option.map_eq_some_iff] at hhandle
    obtain ⟨ptr, -, rfl⟩ := hhandle
    cases hrun
  | setRegulatorParams params =>
    simp only [handle, Option.some.injEq] at hhandle
    rw [← hhandle, hidle] at hrun
    cases hrun

/-- `StopReflow` ends it. -/
theorem stopReflow_of_handle {holder : PresetsHolder} {sel sel' : Selection}
    (hhandle : handle holder sel .stopReflow = some sel') : sel'.running = false := by
  rw [handle, Option.some.injEq] at hhandle
  rw [← hhandle]
  split_ifs with hrun
  · rfl
  · exact Bool.eq_false_iff.mpr hrun

/-- A queue leaves a run on exactly when it starts one on a selected preset and does not stop
it again. -/
theorem drain_running_iff {holder : PresetsHolder} {sel : Selection} (hidle : sel.running = false)
    (queue : List CommandVariant) :
    (∃ sel', sel.drain holder queue = some sel' ∧ sel'.running = true) ↔
      ∃ pre post, queue = pre ++ .startReflow :: post ∧ .stopReflow ∉ post ∧
        ∃ sel', sel.drain holder pre = some sel' ∧ sel'.preset ≠ none := by
  constructor
  · induction queue using List.reverseRecOn with
    | nil =>
      rintro ⟨sel', hdrain, hrun⟩
      rw [drain_nil, Option.some.injEq] at hdrain
      rw [← hdrain, hidle] at hrun
      cases hrun
    | append_singleton queue command ih =>
      rintro ⟨sel', hdrain, hrun⟩
      rw [drain_append] at hdrain
      obtain ⟨sel₁, hdrain₁, hlast⟩ := Option.bind_eq_some_iff.mp hdrain
      have hhandle : handle holder sel₁ command = some sel' := by
        simpa [drain] using hlast
      cases hrun₁ : sel₁.running with
      | true =>
        -- the run was on before the last command, which is no stop
        obtain ⟨pre, post, rfl, hstop, hpre⟩ := ih ⟨sel₁, hdrain₁, hrun₁⟩
        refine ⟨pre, post ++ [command], by simp, fun hmem => ?_, hpre⟩
        rcases List.mem_append.mp hmem with hmem | hmem
        · exact hstop hmem
        · obtain rfl := List.mem_singleton.mp hmem
          rw [stopReflow_of_handle hhandle] at hrun
          cases hrun
      | false =>
        -- the last command began it
        obtain ⟨rfl, hpreset⟩ := startReflow_of_handle hhandle hrun₁ hrun
        exact ⟨queue, [], rfl, List.not_mem_nil, sel₁, hdrain₁, hpreset⟩
  · rintro ⟨pre, post, rfl, hstop, sel', hdrain, hpreset⟩
    exact ⟨_, drain_startReflow hdrain hpreset hstop, rfl⟩

end Selection

namespace ReflowProcessController

variable {tc : Toolchain} {holder : PresetsHolder} {s : ReflowProcessController}

def selection (s : ReflowProcessController) : Selection := ⟨s.isReflowRunning, s.activePreset⟩

/-- A handler acts on the selection as `Selection.handle` says. -/
theorem visitCommand_handle (command : CommandVariant) (s : ReflowProcessController) :
    (visitCommand tc holder command s).done?.map selection =
      s.selection.handle holder command := by
  have heffect := visitCommand_effect tc holder command s
  generalize visitCommand tc holder command s = o at heffect ⊢
  cases heffect with
  | startUnselected hnone => simp [Selection.handle, selection, hnone]
  | start hptr => simp [Selection.handle, selection, started, hptr]
  | stopIdle hidle => simp [Selection.handle, selection, hidle]
  | stop hrun => simp [Selection.handle, selection, ended, hrun]
  | selectRunning hrun => simp [Selection.handle, selection, hrun]
  | select hidle hl => simp [Selection.handle, selection, hidle, hl]
  | selectUnknown hidle hl => simp [Selection.handle, selection, hidle, hl]
  | setParams => rfl

variable (tc holder) in
/-- **The dispatch loop refines the drained queue.** -/
theorem sweep_drain (queue : List CommandVariant) (s : ReflowProcessController) :
    (Outcome.sweep (handleOperation tc holder) queue s).done?.map selection =
      s.selection.drain holder queue :=
  Outcome.map_done?_sweep
    (fun command s => visitCommand_handle command { s with requestsQueue := _ }) queue s

variable (tc holder) in
theorem dispatchCommandsQueue_drain (s : ReflowProcessController) :
    (s.dispatchCommandsQueue tc holder).done?.map selection =
      s.selection.drain holder s.requestsQueue :=
  sweep_drain tc holder s.requestsQueue s

/-- The only exception of a handler is that of an unknown id selected while idle, and it leaves
the id behind as the active one. -/
theorem handleOperation_raised {command : CommandVariant} {e : Fault} {s' : ReflowProcessController}
    (h : handleOperation tc holder command s = .raised e s') :
    s.isReflowRunning = false ∧ (∃ what, e = .runtimeError what) ∧
      s'.isReflowRunning = false ∧
      ∃ id, holder.presetsStorage.lookup id = none ∧ s'.activePresetId = some id := by
  have heffect := visitCommand_effect tc holder command
    { s with requestsQueue := s.requestsQueue.tail }
  rw [handleOperation] at h
  rw [h] at heffect
  cases heffect with
  | selectUnknown hidle hl => exact ⟨hidle, ⟨_, rfl⟩, hidle, _, hl, rfl⟩

/-- It is the only exception of the dispatch loop. -/
theorem dispatchCommandsQueue_raised {e : Fault} {s' : ReflowProcessController}
    (h : s.dispatchCommandsQueue tc holder = .raised e s') :
    (∃ what, e = .runtimeError what) ∧
      s'.isReflowRunning = false ∧
      ∃ id, holder.presetsStorage.lookup id = none ∧ s'.activePresetId = some id :=
  Outcome.sweep_raised (P := fun e s' => (∃ what, e = .runtimeError what) ∧
    s'.isReflowRunning = false ∧
    ∃ id, holder.presetsStorage.lookup id = none ∧ s'.activePresetId = some id)
    (fun _ _ _ _ hraised => (handleOperation_raised hraised).2) h

end ReflowProcessController

end ReflowTable

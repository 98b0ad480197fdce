import ReflowTable.HeaterOff
import ReflowTable.Interleavings
import ReflowTable.RunInvariant

/-!
# Inside a tick

What the HTTP threads may find while the worker is in the middle of a tick, with its commands half
handled, or with the process step done and the clock not yet advanced. An invariant that every
elementary change keeps holds there as well (`serving_invariant`).
-/

namespace ReflowTable

open ReflowProcessController
open Relation (ReflTransGen)

namespace Threads

variable {tc : Toolchain} {s : Threads}

/-- What a step does to what the threads share. -/
inductive Shared (tc : Toolchain) (s s' : Threads) : Prop
  | grown : s.presetsHolder.GrowsTo s'.presetsHolder → s'.controller = s.controller →
      Shared tc s s'
  | queued (queue : List CommandVariant) : s'.presetsHolder = s.presetsHolder →
      s'.controller = s.controller.withQueue queue → Shared tc s s'
  | changed (freed : StageItem) : s'.presetsHolder = s.presetsHolder →
      ReflTransGen (Transition tc s.presetsHolder freed) s.controller s'.controller →
      Shared tc s s'

theorem Shared.act {deed : Deed} (freed : StageItem)
    (hdeed : ReflTransGen (Transition tc s.presetsHolder freed) s.controller
      (deed.run tc s.controller).state) (next : WorkerPlace) :
    Shared tc s (s.act tc deed next) := by
  obtain ⟨place, -, heq⟩ := act_eq tc deed next s
  rw [heq]
  exact .changed freed rfl hdeed

/-- **Step lemma for the worker.** -/
theorem shared_work (input : TickInput) : Shared tc s (s.work tc input) := by
  unfold work
  cases s.place with
  | sleeping => exact .grown (.refl _) rfl
  | dispatching =>
    dsimp only
    unfold getOperation
    cases s.controller.requestsQueue with
    | nil => exact .grown (.refl _) rfl
    | cons command rest => exact .queued rest rfl rfl
  | visiting command =>
    exact .act input.freed (ReflTransGen.mono (fun _ _ => .command) _ _
      (visitCommand_follows command s.controller)) _
  | reading => exact .act input.freed (requestModbusData_follows input.reading) _
  | processing =>
    exact .act input.freed (ReflTransGen.mono (fun _ _ => .process) _ _
      (processReflowStep_follows s.controller)) _
  | ticking =>
    exact .act input.freed (ReflTransGen.mono (fun _ _ => .process) _ _
      advanceSysTick_follows) _

variable (tc s) in
/-- **Step lemma**, whichever thread is next. -/
theorem shared_serve (i : ServerStep) : Shared tc s (s.serve tc i) := by
  cases i with
  | edit edit => exact .grown (edit.growsTo s.presetsHolder) rfl
  | post command => exact .queued _ rfl rfl
  | work input => exact shared_work input

/-- **Invariant rule for interleavings**: growth of the holder, changes of the queue and the
elementary changes of the controller are all that happens. -/
theorem serving_invariant {I : PresetsHolder → ReflowProcessController → Prop}
    (hinit : ∀ t, I .make (.make t))
    (hgrow : ∀ h h' c, h.GrowsTo h' → I h c → I h' c)
    (hqueue : ∀ h c q, I h c → I h (c.withQueue q))
    (hstep : ∀ h freed c c', Transition tc h freed c c' → I h c → I h c')
    (hs : (serving tc).Reachable s) : I s.presetsHolder s.controller := by
  refine System.Reachable.invariant (I := fun s => I s.presetsHolder s.controller) ?_ ?_ hs
  · rintro s ⟨t, rfl⟩
    exact hinit t
  · intro s i hI
    show I (s.serve tc i).presetsHolder (s.serve tc i).controller
    cases shared_serve tc s i with
    | grown hgrows hc =>
      rw [hc]
      exact hgrow _ _ _ hgrows hI
    | queued queue hholder hc =>
      rw [hholder, hc]
      exact hqueue _ _ queue hI
    | changed freed hholder hchanges =>
      rw [hholder]
      generalize (s.serve tc i).controller = c at hchanges
      induction hchanges with
      | refl => exact hI
      | tail _ hchange ih => exact hstep _ freed _ _ hchange ih

theorem heaterOff_of_serving (hs : (serving tc).Reachable s) : HeaterOff s.controller :=
  serving_invariant (I := fun _ c => HeaterOff c) HeaterOff.make (fun _ _ _ _ hoff => hoff)
    (fun _ _ _ hoff => hoff.congr rfl rfl) (fun _ _ _ _ hstep hoff => hoff.step hstep) hs

theorem runInvariant_of_serving (hs : (serving tc).Reachable s) :
    RunInvariant s.presetsHolder s.controller :=
  serving_invariant RunInvariant.make (fun _ _ _ hgrow hI => hI.grow hgrow)
    (fun _ _ _ hI => hI.congr rfl rfl rfl) (fun _ _ _ _ hstep hI => hI.step hstep) hs

/-- **Safe inside a tick as well.** Wherever the worker is interrupted, and however often: an idle
controller has switched the heater off, and a running one has a preset, on a stage that exists once
it has been entered. -/
theorem safe_within_tick (hs : (serving tc).Reachable s) :
    (s.controller.isReflowRunning = false →
      targetWords s.controller.trace = [] ∨ (targetWords s.controller.trace).getLast? = some 0) ∧
    (s.controller.isReflowRunning = true →
      ∃ ptr, s.controller.activePreset = some ptr ∧ ptr < s.presetsHolder.allocated ∧
        (s.controller.reflowProcessData.reflowStep ≠ .kInitStep →
          s.controller.reflowProcessData.activePresetState ≠ none ∧
            s.controller.reflowProcessData.activeStageIndex <
              (s.presetsHolder.objects ptr).numStages)) := by
  refine ⟨heaterOff_of_serving hs, fun hrun => ?_⟩
  have hI := runInvariant_of_serving hs
  obtain ⟨ptr, hptr⟩ := hI.selected hrun
  refine ⟨ptr, hptr, hI.live ptr hptr, fun hstep => ⟨?_, hI.entered_lt hrun hstep ptr hptr⟩⟩
  obtain ⟨sp, hsp⟩ := hI.entered hrun hstep
  rw [hsp]
  exact Option.some_ne_none sp

/-- A preset with a stage is selected and started, and the worker interrupted before it advances
the clock. -/
def enteredStage : List ServerStep :=
  [.edit (.addNewPreset "lead"), .edit (.addStageItem 4 ⟨183, 30⟩), .post (.selectPreset 4),
    .post .startReflow] ++ List.replicate 8 (.work ⟨none, ⟨0, 0⟩⟩)

theorem safe_within_tick_enteredStage :
    let s := (serving .sample).run (.start .make 0) enteredStage
    s.place = .ticking ∧ s.controller.isReflowRunning = true ∧
      ∃ ptr, s.controller.activePreset = some ptr ∧ ptr < s.presetsHolder.allocated ∧
        (s.controller.reflowProcessData.reflowStep ≠ .kInitStep →
          s.controller.reflowProcessData.activePresetState ≠ none ∧
            s.controller.reflowProcessData.activeStageIndex <
              (s.presetsHolder.objects ptr).numStages) := by
  intro s
  have hstart : (serving .sample).Reachable (start .make 0) := .start ⟨0, rfl⟩
  have hs : (serving .sample).Reachable s := hstart.run enteredStage
  have hrun : s.controller.isReflowRunning = true := by decide
  exact ⟨by decide, hrun, (safe_within_tick hs).2 hrun⟩

end Threads

end ReflowTable

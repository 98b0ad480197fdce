import Mathlib.Tactic.TypeStar

/-!
# Runs of a deterministic labelled system

A system is given by the states it may start in and by what each input does to a state. Its
runs are the finite input sequences; what holds of every reachable state is proved once per
step and lifted here.

`ReachableVia ok` restricts the runs to those in which every input meets `ok` at the state it
is applied to. This is the shape of a conditional safety statement: the condition is on the
state *before* a step and on the step's input, the conclusion is about every state reached.
-/

/-- A deterministic labelled system. -/
structure System (σ ι : Type*) where
  /-- the states a run may start in -/
  init : σ → Prop
  /-- what an input does to a state -/
  step : σ → ι → σ

namespace System

variable {σ ι τ κ : Type*} {M : System σ ι} {N : System τ κ}

/-- The states reached by inputs each of which meets `ok` where it is applied. -/
inductive ReachableVia (M : System σ ι) (ok : σ → ι → Prop) : σ → Prop
  | start {s : σ} : M.init s → ReachableVia M ok s
  | step {s : σ} {i : ι} : ReachableVia M ok s → ok s i → ReachableVia M ok (M.step s i)

/-- The states reached by any inputs. -/
abbrev Reachable (M : System σ ι) : σ → Prop := M.ReachableVia fun _ _ => True

/-- The state after a whole input sequence. -/
def run (M : System σ ι) (s : σ) (is : List ι) : σ := is.foldl M.step s

@[simp] theorem run_nil (s : σ) : M.run s [] = s := rfl

@[simp] theorem run_cons (s : σ) (i : ι) (is : List ι) :
    M.run s (i :: is) = M.run (M.step s i) is := rfl

theorem run_append (s : σ) (is js : List ι) :
    M.run s (is ++ js) = M.run (M.run s is) js := List.foldl_append

/-- Dropping the condition on the inputs only adds states. -/
theorem ReachableVia.reachable {ok : σ → ι → Prop} {s : σ} (h : M.ReachableVia ok s) :
    M.Reachable s := by
  induction h with
  | start h => exact .start h
  | step _ _ ih => exact .step ih trivial

/-- A further input sequence leads from reachable states to reachable states. -/
theorem Reachable.run {s : σ} (h : M.Reachable s) (is : List ι) : M.Reachable (M.run s is) := by
  induction is generalizing s with
  | nil => exact h
  | cons i is ih => exact ih (.step h trivial)

/-- **Invariant rule.** What holds initially and is kept by every admissible step holds of
every state reached. The step may use that its source state is itself reached. -/
theorem ReachableVia.invariant {ok : σ → ι → Prop} {I : σ → Prop}
    (hinit : ∀ s, M.init s → I s)
    (hstep : ∀ s i, M.ReachableVia ok s → I s → ok s i → I (M.step s i))
    {s : σ} (h : M.ReachableVia ok s) : I s := by
  induction h with
  | start h => exact hinit _ h
  | step hs hok ih => exact hstep _ _ hs ih hok

/-- An input sequence each of whose inputs meets `ok` where it is applied. -/
theorem ReachableVia.run {ok : σ → ι → Prop} {s : σ} (h : M.ReachableVia ok s) {is : List ι}
    (hok : ∀ pre i post, is = pre ++ i :: post → ok (M.run s pre) i) :
    M.ReachableVia ok (M.run s is) := by
  induction is generalizing s with
  | nil => exact h
  | cons i is ih =>
    refine ih (.step h (hok [] i is rfl)) fun pre j post heq => ?_
    exact hok (i :: pre) j post (by rw [heq]; rfl)

/-- The invariant rule over unrestricted runs. -/
theorem Reachable.invariant {I : σ → Prop} (hinit : ∀ s, M.init s → I s)
    (hstep : ∀ s i, I s → I (M.step s i)) {s : σ} (h : M.Reachable s) : I s :=
  ReachableVia.invariant hinit (fun s i _ hs _ => hstep s i hs) h

/-- **Simulation rule.** If every step of `M` is a run of `N` under the state map `f`, then
the image of a reachable state is reachable. -/
theorem Reachable.map (f : σ → τ) (hinit : ∀ s, M.init s → N.init (f s))
    (hstep : ∀ s i, ∃ ks, f (M.step s i) = N.run (f s) ks) {s : σ} (h : M.Reachable s) :
    N.Reachable (f s) := by
  induction h with
  | start h => exact .start (hinit _ h)
  | @step s i _ _ ih =>
    obtain ⟨ks, hks⟩ := hstep s i
    rw [hks]
    exact ih.run ks

end System

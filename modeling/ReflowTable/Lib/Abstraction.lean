import ReflowTable.Lib.Outcome

/-!
# Abstraction of partial programs

A partial program is a step `σ → ι → Option σ` over a list of inputs; `none` ends it for good. An
abstraction function carries the runs of one such program to those of another when it carries
every step, in the states and under the conditions in which steps are taken.
-/

namespace PartialRun

variable {σ τ ι : Type*} {f : σ → ι → Option σ} {g : τ → ι → Option τ} {abs : σ → τ}
  {I : σ → Prop} {ok : σ → ι → Prop}

/-- Every input of the run meets `ok` where it is taken. -/
def Meets (f : σ → ι → Option σ) (ok : σ → ι → Prop) (s : σ) (is : List ι) : Prop :=
  ∀ pre i post s', is = pre ++ i :: post → pre.foldlM f s = some s' → ok s' i

theorem meets_nil {s : σ} : Meets f ok s [] := by
  rintro pre i post s' heq
  exact absurd heq.symm (by simp)

theorem meets_cons {s : σ} {i : ι} {is : List ι} :
    Meets f ok s (i :: is) ↔ ok s i ∧ ∀ s', f s i = some s' → Meets f ok s' is := by
  constructor
  · refine fun h => ⟨h [] i is s rfl rfl, fun s' hstep pre j post t heq hrun => ?_⟩
    refine h (i :: pre) j post t (by rw [heq]; rfl) ?_
    rw [List.foldlM_cons, hstep]
    exact hrun
  · rintro ⟨hok, htail⟩ pre j post t heq hrun
    cases pre with
    | nil =>
      obtain ⟨rfl, rfl⟩ := List.cons.inj heq
      obtain rfl := Option.some.inj hrun
      exact hok
    | cons k pre =>
      obtain ⟨rfl, rfl⟩ := List.cons.inj heq
      rw [List.foldlM_cons] at hrun
      obtain ⟨s', hstep, hrest⟩ := Option.bind_eq_some_iff.mp hrun
      exact htail s' hstep pre j post t rfl hrest

instance decidableMeets [∀ s i, Decidable (ok s i)] :
    (s : σ) → (is : List ι) → Decidable (Meets f ok s is)
  | _, [] => .isTrue meets_nil
  | s, i :: is =>
    match hstep : f s i with
    | none => decidable_of_iff (ok s i) (by simp [meets_cons, hstep])
    | some s' =>
      have := decidableMeets s' is
      decidable_of_iff (ok s i ∧ Meets f ok s' is) (by simp [meets_cons, hstep])

/-- **Abstraction rule.** An abstraction that commutes with every step, in the states of an
invariant that the steps keep, commutes with the runs; the abstract program ends early exactly
when the other one does. -/
theorem map_foldlM (hstep : ∀ s i, I s → ok s i → (f s i).map abs = g (abs s) i)
    (hkeep : ∀ s i s', I s → ok s i → f s i = some s' → I s') {s : σ} (hs : I s) {is : List ι}
    (hok : Meets f ok s is) : (is.foldlM f s).map abs = is.foldlM g (abs s) := by
  induction is generalizing s with
  | nil => rfl
  | cons i is ih =>
    rw [List.foldlM_cons, List.foldlM_cons, ← hstep s i hs (meets_cons.mp hok).1]
    cases hi : f s i with
    | none => rfl
    | some s' => exact ih (hkeep s i s' hs (meets_cons.mp hok).1 hi) ((meets_cons.mp hok).2 s' hi)

end PartialRun

namespace Outcome

variable {ε σ τ α : Type*}

/-- The abstraction rule for the loop over a list, with an invariant that normal returns keep. -/
theorem map_done?_sweep_of {I : σ → Prop} {abs : σ → τ} {g : τ → α → Option τ}
    {f : α → σ → Outcome ε σ} (hstep : ∀ a s, I s → (f a s).done?.map abs = g (abs s) a)
    (hkeep : ∀ a s s', f a s = done s' → I s → I s') (as : List α) {s : σ} (hs : I s) :
    (sweep f as s).done?.map abs = as.foldlM g (abs s) := by
  induction as generalizing s with
  | nil => rfl
  | cons a as ih =>
    rw [sweep_cons, List.foldlM_cons, ← hstep a s hs]
    cases ha : f a s with
    | done s' => exact ih (hkeep a s s' ha hs)
    | raised e s' => rfl

theorem done?_eq_some_iff {o : Outcome ε σ} {s : σ} : o.done? = some s ↔ o = done s := by
  cases o <;> simp

end Outcome

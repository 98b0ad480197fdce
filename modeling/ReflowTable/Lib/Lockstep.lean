import ReflowTable.Lib.Outcome

/-!
# Two programs in lockstep

Two state steps are in lockstep under a relation of their states when both return or both throw
the same exception, and the relation holds of the states they leave. Sequences and loops of
steps that preserve the relation are in lockstep; this is how two runs of one program from
different states are compared.
-/

namespace Outcome

variable {ε σ τ α : Type*} {R S : σ → τ → Prop} {o : Outcome ε σ} {p : Outcome ε τ}

/-- Both steps end in the same way, in related states. -/
inductive Lockstep (R : σ → τ → Prop) : Outcome ε σ → Outcome ε τ → Prop
  | done {s : σ} {t : τ} : R s t → Lockstep R (.done s) (.done t)
  | raised {s : σ} {t : τ} (e : ε) : R s t → Lockstep R (.raised e s) (.raised e t)

namespace Lockstep

/-- The two ends there are. -/
theorem ends (h : Lockstep R o p) :
    (∃ s t, o = .done s ∧ p = .done t ∧ R s t) ∨
      ∃ e s t, o = .raised e s ∧ p = .raised e t ∧ R s t := by
  cases h with
  | done h => exact .inl ⟨_, _, rfl, rfl, h⟩
  | raised e h => exact .inr ⟨e, _, _, rfl, rfl, h⟩

theorem state (h : Lockstep R o p) : R o.state p.state := by
  cases h with
  | done h => exact h
  | raised _ h => exact h

theorem error?_eq (h : Lockstep R o p) : o.error? = p.error? := by
  cases h <;> rfl

theorem mono (hRS : ∀ s t, R s t → S s t) (h : Lockstep R o p) : Lockstep S o p := by
  cases h with
  | done h => exact .done (hRS _ _ h)
  | raised e h => exact .raised e (hRS _ _ h)

/-- **Composition rule.** The relation of the whole has to hold where the first step throws, and
the second step only has to be in lockstep behind a normal return of the first. -/
theorem bind {f : σ → Outcome ε σ} {g : τ → Outcome ε τ} (h : Lockstep R o p)
    (hraised : ∀ e s t, o = .raised e s → R s t → S s t)
    (hdone : ∀ s t, o = .done s → R s t → Lockstep S (f s) (g t)) :
    Lockstep S (o.bind f) (p.bind g) := by
  cases h with
  | done h => exact hdone _ _ rfl h
  | raised e h => exact .raised e (hraised _ _ _ rfl h)

end Lockstep

end Outcome

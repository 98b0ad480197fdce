import ReflowTable.Lib.Runs

/-!
# Histories

What a system does, occurrence by occurrence. A step of a `System` may be made of several
occurrences, each with the state before it and the state after it; `System.history` lists those
of a run. Between two of them the state may still change, but only as `between` allows.

`Path` says that a list of occurrences leads from one state to another. What is to hold of the
state *and of the occurrences so far* is proved for one occurrence and lifted by `Path.rule`.
`Since` is the past-time operator such properties are written with: something occurred, and
from then on only occurrences of a certain kind.
-/

/-! ## The history of a run -/

namespace System

variable {σ ι ω : Type*}

/-- The occurrences of a run, in order; `occurrences` gives those of one step. -/
def history (M : System σ ι) (occurrences : σ → ι → List ω) (s : σ) : List ι → List ω
  | [] => []
  | i :: is => occurrences s i ++ M.history occurrences (M.step s i) is

variable {M : System σ ι} {occurrences : σ → ι → List ω}

@[simp] theorem history_nil (s : σ) : M.history occurrences s [] = [] := rfl

@[simp] theorem history_cons (s : σ) (i : ι) (is : List ι) :
    M.history occurrences s (i :: is) =
      occurrences s i ++ M.history occurrences (M.step s i) is := rfl

theorem history_append (s : σ) (is js : List ι) :
    M.history occurrences s (is ++ js) =
      M.history occurrences s is ++ M.history occurrences (M.run s is) js := by
  induction is generalizing s with
  | nil => rfl
  | cons i is ih =>
    rw [List.cons_append, history_cons, history_cons, ih, run_cons, List.append_assoc]

/-- What holds of the occurrences of every step holds of those of a run. -/
theorem Reachable.forall_history {P : ω → Prop}
    (hP : ∀ s i, M.Reachable s → ∀ m ∈ occurrences s i, P m) {s : σ} (hs : M.Reachable s)
    (is : List ι) : ∀ m ∈ M.history occurrences s is, P m := by
  induction is generalizing s with
  | nil => simp
  | cons i is ih =>
    intro m hm
    rw [history_cons, List.mem_append] at hm
    rcases hm with hfirst | hrest
    · exact hP s i hs m hfirst
    · exact ih (.step hs trivial) m hrest

end System

/-! ## Paths -/

/-- Occurrences of type `ω` that act on states of type `σ`. -/
structure Occurrences (σ ω : Type*) where
  before : ω → σ
  after : ω → σ
  /-- what may happen to the state from one occurrence to the next -/
  between : σ → σ → Prop
  refl : ∀ s, between s s
  trans : ∀ {s t u}, between s t → between t u → between s u

namespace Occurrences

variable {σ ω : Type*} (O : Occurrences σ ω)

/-- These occurrences, in order, lead from the first state to the last. -/
inductive Path : σ → List ω → σ → Prop
  | nil {s s' : σ} : O.between s s' → Path s [] s'
  | cons {s s' : σ} {m : ω} {ms : List ω} :
      O.between s (O.before m) → Path (O.after m) ms s' → Path s (m :: ms) s'

variable {O}

namespace Path

theorem refl (s : σ) : O.Path s [] s := .nil (O.refl s)

theorem between_left {s s' t : σ} {ms : List ω} (hs : O.between s s') (h : O.Path s' ms t) :
    O.Path s ms t := by
  cases h with
  | nil ht => exact .nil (O.trans hs ht)
  | cons hm hrest => exact .cons (O.trans hs hm) hrest

theorem append {s t u : σ} {ms ns : List ω} (h : O.Path s ms t) (h' : O.Path t ns u) :
    O.Path s (ms ++ ns) u := by
  induction h with
  | nil ht => exact h'.between_left ht
  | cons hm _ ih => exact .cons hm (ih h')

theorem split {s u : σ} {ms ns : List ω} (h : O.Path s (ms ++ ns) u) :
    ∃ t, O.Path s ms t ∧ O.Path t ns u := by
  induction ms generalizing s with
  | nil => exact ⟨s, refl s, h⟩
  | cons m ms ih =>
    cases h with
    | cons hm hrest =>
      obtain ⟨t, hms, hns⟩ := ih hrest
      exact ⟨t, .cons hm hms, hns⟩

/-- The occurrence at the head of a path. -/
theorem cons_inv {s u : σ} {m : ω} {ms : List ω} (h : O.Path s (m :: ms) u) :
    O.between s (O.before m) ∧ O.Path (O.after m) ms u := by
  cases h with
  | cons hm hrest => exact ⟨hm, hrest⟩

/-- **Rule for properties of the past.** It is enough that the property survives what may happen
between two occurrences, and each occurrence of the path. -/
theorem rule_from {J : List ω → σ → Prop} {s s' : σ} {hist ms : List ω}
    (hbetween : ∀ hist t t', O.between t t' → J hist t → J hist t')
    (hnext : ∀ hist, ∀ m ∈ ms, J hist (O.before m) → J (hist ++ [m]) (O.after m))
    (h : O.Path s ms s') (hJ : J hist s) : J (hist ++ ms) s' := by
  induction h generalizing hist with
  | nil hs =>
    rw [List.append_nil]
    exact hbetween hist _ _ hs hJ
  | @cons s s' m ms hm _ ih =>
    have hafter := hnext hist m List.mem_cons_self (hbetween hist _ _ hm hJ)
    have hrest := ih (fun hist n hn => hnext hist n (List.mem_cons_of_mem m hn)) hafter
    rwa [List.append_assoc] at hrest

/-- The rule from a state without a past. -/
theorem rule {J : List ω → σ → Prop} {s s' : σ} {ms : List ω}
    (hbetween : ∀ hist t t', O.between t t' → J hist t → J hist t')
    (hnext : ∀ hist, ∀ m ∈ ms, J hist (O.before m) → J (hist ++ [m]) (O.after m))
    (h : O.Path s ms s') (hJ : J [] s) : J ms s' :=
  h.rule_from hbetween hnext hJ

/-- The rule, at the state in which an occurrence of the path finds things. -/
theorem rule_before {J : List ω → σ → Prop} {s s' : σ} {ms a b : List ω} {m : ω}
    (hbetween : ∀ hist t t', O.between t t' → J hist t → J hist t')
    (hnext : ∀ hist, ∀ n ∈ ms, J hist (O.before n) → J (hist ++ [n]) (O.after n))
    (h : O.Path s ms s') (hms : ms = a ++ m :: b) (hJ : J [] s) : J a (O.before m) := by
  subst hms
  obtain ⟨t, ha, hb⟩ := h.split
  have hmem : ∀ n ∈ a, n ∈ a ++ m :: b := fun n hn => List.mem_append_left _ hn
  have hat := ha.rule hbetween (fun hist n hn => hnext hist n (hmem n hn)) hJ
  exact hbetween _ _ _ hb.cons_inv.1 hat

end Path

end Occurrences

/-! ## Since -/

section Since

variable {ω : Type*} {φ : ω → Prop} {ψ : List ω → ω → Prop} {hist : List ω} {m : ω}

/-- At some point `ψ` held of an occurrence and its past, and from then on `φ` of every
occurrence. -/
def Since (φ : ω → Prop) (ψ : List ω → ω → Prop) (hist : List ω) : Prop :=
  ∃ past m later, hist = past ++ m :: later ∧ ψ past m ∧ ∀ n ∈ later, φ n

theorem Since.now (h : ψ hist m) : Since φ ψ (hist ++ [m]) :=
  ⟨hist, m, [], rfl, h, by simp⟩

theorem Since.keep (h : Since φ ψ hist) (hm : φ m) : Since φ ψ (hist ++ [m]) := by
  obtain ⟨past, n, later, rfl, hn, hlater⟩ := h
  refine ⟨past, n, later ++ [m], by rw [List.append_assoc, List.cons_append], hn, fun k hk => ?_⟩
  rcases List.mem_append.mp hk with hold | hnew
  · exact hlater k hold
  · rw [List.mem_singleton.mp hnew]
    exact hm

end Since

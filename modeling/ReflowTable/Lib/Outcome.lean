import Mathlib.Logic.Relation

/-!
# State steps that an exception may leave

`Outcome ε σ` is what a C++ member function does to its object: it either returns, or throws
and leaves the object as it was when the exception was thrown. Unlike `Except ε σ` the state
survives the throw, so that what holds of an object *after an exception* can be stated.

`sweep f as` is the loop that hands the items of `as` to `f` one by one and is left by the
first exception.

A step *follows* a relation `R` when the state it leaves is reached by `R`-steps. A program
whose every function follows one relation of elementary changes has its invariants proved on
these changes alone (`Follows.keeps`).
-/

/-- The end of a state step: a normal return or a throw, each with the state left behind. -/
inductive Outcome (ε σ : Type*)
  | done (s : σ)
  | raised (e : ε) (s : σ)

namespace Outcome

variable {ε σ α : Type*}

/-- The state left behind, however the step ended. -/
def state : Outcome ε σ → σ
  | done s => s
  | raised _ s => s

/-- The exception that left the step, if one did. -/
def error? : Outcome ε σ → Option ε
  | done _ => none
  | raised e _ => some e

/-- The state after a normal return. -/
def done? : Outcome ε σ → Option σ
  | done s => some s
  | raised _ _ => none

@[simp] theorem state_done (s : σ) : (done s : Outcome ε σ).state = s := rfl

@[simp] theorem state_raised (e : ε) (s : σ) : (raised e s).state = s := rfl

@[simp] theorem error?_done (s : σ) : (done s : Outcome ε σ).error? = none := rfl

@[simp] theorem error?_raised (e : ε) (s : σ) : (raised e s).error? = some e := rfl

@[simp] theorem done?_done (s : σ) : (done s : Outcome ε σ).done? = some s := rfl

@[simp] theorem done?_raised (e : ε) (s : σ) : (raised e s).done? = none := rfl

/-- Sequential composition: the second step runs only after a normal return. -/
def bind (o : Outcome ε σ) (f : σ → Outcome ε σ) : Outcome ε σ :=
  match o with
  | done s => f s
  | raised e s => raised e s

@[simp] theorem bind_done (s : σ) (f : σ → Outcome ε σ) : (done s).bind f = f s := rfl

@[simp] theorem bind_raised (e : ε) (s : σ) (f : σ → Outcome ε σ) :
    (raised e s).bind f = raised e s := rfl

theorem bind_assoc (o : Outcome ε σ) (f g : σ → Outcome ε σ) :
    (o.bind f).bind g = o.bind fun s => (f s).bind g := by
  cases o <;> rfl

/-- What the step leaves, seen through `g`. -/
def map (g : σ → σ) : Outcome ε σ → Outcome ε σ
  | done s => done (g s)
  | raised e s => raised e (g s)

@[simp] theorem map_done (g : σ → σ) (s : σ) : (done s : Outcome ε σ).map g = done (g s) := rfl

@[simp] theorem map_raised (g : σ → σ) (e : ε) (s : σ) :
    (raised e s).map g = raised e (g s) := rfl

/-! ## Keeping a predicate -/

/-- A predicate of states that a step keeps, whether it returns or throws. -/
def Keeps (I : σ → Prop) (f : σ → Outcome ε σ) : Prop := ∀ s, I s → I (f s).state

theorem state_bind_of {I : σ → Prop} {o : Outcome ε σ} {f : σ → Outcome ε σ}
    (ho : I o.state) (hf : Keeps I f) : I (o.bind f).state := by
  cases o with
  | done s => exact hf s ho
  | raised e s => exact ho

/-- **Composition rule.** -/
theorem Keeps.bind {I : σ → Prop} {f g : σ → Outcome ε σ} (hf : Keeps I f) (hg : Keeps I g) :
    Keeps I fun s => (f s).bind g :=
  fun s hs => state_bind_of (hf s hs) hg

/-! ## Following a relation -/

/-- The state left behind is reached by `R`-steps. -/
def Follows (R : σ → σ → Prop) (f : σ → Outcome ε σ) : Prop :=
  ∀ s, Relation.ReflTransGen R s (f s).state

theorem reach_bind_of {R : σ → σ → Prop} {s : σ} {o : Outcome ε σ} {f : σ → Outcome ε σ}
    (ho : Relation.ReflTransGen R s o.state) (hf : Follows R f) :
    Relation.ReflTransGen R s (o.bind f).state := by
  cases o with
  | done s' => exact ho.trans (hf s')
  | raised e s' => exact ho

/-- **Composition rule.** -/
theorem Follows.bind {R : σ → σ → Prop} {f g : σ → Outcome ε σ} (hf : Follows R f)
    (hg : Follows R g) : Follows R fun s => (f s).bind g :=
  fun s => reach_bind_of (hf s) hg

/-- What every elementary change keeps, the step keeps. -/
theorem Follows.keeps {R : σ → σ → Prop} {I : σ → Prop} {f : σ → Outcome ε σ}
    (hf : Follows R f) (hI : ∀ s s', R s s' → I s → I s') : Keeps I f := by
  intro s hs
  have hreach := hf s
  generalize (f s).state = s' at hreach ⊢
  induction hreach with
  | refl => exact hs
  | tail _ hstep ih => exact hI _ _ hstep ih

/-! ## The loop over a list -/

/-- Hand the items of a list to `f` in order, until the first exception. -/
def sweep (f : α → σ → Outcome ε σ) : List α → σ → Outcome ε σ
  | [], s => done s
  | a :: as, s => (f a s).bind (sweep f as)

@[simp] theorem sweep_nil (f : α → σ → Outcome ε σ) (s : σ) : sweep f [] s = done s := rfl

@[simp] theorem sweep_cons (f : α → σ → Outcome ε σ) (a : α) (as : List α) (s : σ) :
    sweep f (a :: as) s = (f a s).bind (sweep f as) := rfl

theorem sweep_append (f : α → σ → Outcome ε σ) (as bs : List α) (s : σ) :
    sweep f (as ++ bs) s = (sweep f as s).bind (sweep f bs) := by
  induction as generalizing s with
  | nil => rfl
  | cons a as ih =>
    rw [List.cons_append, sweep_cons, sweep_cons, bind_assoc]
    congr 1
    funext s'
    exact ih s'

/-- **Loop rule.** What every item's step keeps, the whole loop keeps. -/
theorem sweep_keeps {I : σ → Prop} {f : α → σ → Outcome ε σ} (as : List α)
    (hf : ∀ a ∈ as, Keeps I (f a)) : Keeps I (sweep f as) := by
  induction as with
  | nil => exact fun s hs => hs
  | cons a as ih =>
    have hrest := ih fun b hb => hf b (List.mem_cons_of_mem a hb)
    exact (hf a List.mem_cons_self).bind hrest

theorem sweep_follows {R : σ → σ → Prop} {f : α → σ → Outcome ε σ} (as : List α)
    (hf : ∀ a ∈ as, Follows R (f a)) : Follows R (sweep f as) := by
  induction as with
  | nil => exact fun s => .refl
  | cons a as ih =>
    have hrest := ih fun b hb => hf b (List.mem_cons_of_mem a hb)
    exact (hf a List.mem_cons_self).bind hrest

/-- The loop rule with the item's position: the step for `a` may use that the items before
it have returned normally and which state they left. -/
theorem sweep_state_of {I : σ → Prop} {f : α → σ → Outcome ε σ} {as : List α} {s : σ}
    (hs : I s)
    (hf : ∀ pre a post s', as = pre ++ a :: post → sweep f pre s = done s' → I s' →
      I (f a s').state) :
    I (sweep f as s).state := by
  induction as generalizing s with
  | nil => exact hs
  | cons a as ih =>
    have ha : I (f a s).state := hf [] a as s rfl rfl hs
    rw [sweep_cons]
    cases hfa : f a s with
    | raised e s' => simpa [hfa] using ha
    | done s' =>
      rw [hfa] at ha
      -- what stands before an item of the tail stands behind `a` in the whole list
      refine ih ha fun pre b post s'' heq hpre hI => ?_
      exact hf (a :: pre) b post s'' (by rw [heq]; rfl) (by rw [sweep_cons, hfa]; exact hpre) hI

/-- What holds at an item's exception holds at the loop's. -/
theorem sweep_raised {P : ε → σ → Prop} {f : α → σ → Outcome ε σ}
    (hf : ∀ a s e s', f a s = raised e s' → P e s') {as : List α} {s s' : σ} {e : ε}
    (h : sweep f as s = raised e s') : P e s' := by
  induction as generalizing s with
  | nil => cases h
  | cons a as ih =>
    rw [sweep_cons] at h
    cases hfa : f a s with
    | done s'' =>
      rw [hfa] at h
      exact ih h
    | raised e' s'' =>
      rw [hfa, bind_raised] at h
      cases h
      exact hf a s _ _ hfa

/-- The loop rule for a loop that was not left early: only normal returns have to keep the
predicate. -/
theorem sweep_done {I : σ → Prop} {f : α → σ → Outcome ε σ}
    (hf : ∀ a s s', f a s = done s' → I s → I s') {as : List α} {s s' : σ}
    (h : sweep f as s = done s') (hs : I s) : I s' := by
  induction as generalizing s with
  | nil =>
    cases h
    exact hs
  | cons a as ih =>
    rw [sweep_cons] at h
    cases hfa : f a s with
    | done s'' =>
      rw [hfa] at h
      exact ih h (hf a s s'' hfa hs)
    | raised e s'' =>
      rw [hfa] at h
      cases h

/-- A loop whose every step commutes with `g` commutes with `g`. -/
theorem sweep_map {g : σ → σ} {f : α → σ → Outcome ε σ} (hf : ∀ a s, f a (g s) = (f a s).map g)
    (as : List α) (s : σ) : sweep f as (g s) = (sweep f as s).map g := by
  induction as generalizing s with
  | nil => rfl
  | cons a as ih =>
    rw [sweep_cons, sweep_cons, hf]
    cases f a s with
    | done s' => exact ih s'
    | raised e s' => rfl

/-- **Refinement rule for the loop.** If every item's step acts on `abs` as `g` does, then the
loop acts as the fold of `g`. -/
theorem map_done?_sweep {τ : Type*} {abs : σ → τ} {g : τ → α → Option τ}
    {f : α → σ → Outcome ε σ} (hf : ∀ a s, (f a s).done?.map abs = g (abs s) a)
    (as : List α) (s : σ) : (sweep f as s).done?.map abs = as.foldlM g (abs s) := by
  induction as generalizing s with
  | nil => rfl
  | cons a as ih =>
    rw [sweep_cons, List.foldlM_cons, ← hf a s]
    cases f a s with
    | done s' => exact ih s'
    | raised e s' => rfl

end Outcome

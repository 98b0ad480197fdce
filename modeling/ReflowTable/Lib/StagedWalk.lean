import Mathlib.Data.Nat.Notation
import Mathlib.Order.Nat

/-!
# Walks through a list of stages

A process goes through stages `0, 1, …, stages - 1` in discrete time. After a stage has begun
it is examined at every following tick until a verdict other than `wait` is reached. A skipped
stage gives way to the next one a tick later; a soaked one dwells first. The walk is over at
the tick at which stage number `stages` would begin.

The walk is given by its begin times (`BeginsAt`); `event` is what is to be seen at a tick.
-/

/-- What an examination says about a stage. -/
inductive Verdict
  | skip
  | soak
  | wait
deriving DecidableEq

/-- A list of stages, the verdict on each at each tick, and the ticks it dwells when soaked. -/
structure StagedWalk where
  stages : ℕ
  verdict : ℕ → ℕ → Verdict
  dwell : ℕ → ℕ

namespace StagedWalk

/-- The examinations of stage `i` strictly between the ticks `b` and `t` said `wait`. -/
def Waits (W : StagedWalk) (i b t : ℕ) : Prop := b < t ∧ ∀ q, b < q → q < t → W.verdict i q = .wait

/-- Stage `i` begins at this tick. -/
inductive BeginsAt (W : StagedWalk) : ℕ → ℕ → Prop
  | first : BeginsAt W 0 0
  | skip {i b t : ℕ} : BeginsAt W i b → i < W.stages → W.Waits i b t → W.verdict i t = .skip →
      BeginsAt W (i + 1) (t + 1)
  | soak {i b t : ℕ} : BeginsAt W i b → i < W.stages → W.Waits i b t → W.verdict i t = .soak →
      BeginsAt W (i + 1) (t + W.dwell i + 2)

/-- What is to be seen at a tick. -/
inductive Event
  | begin (i : ℕ)
  | finish
deriving DecidableEq

open Classical in
/-- Stage `i` begins at this tick, or the last one is left at it. -/
noncomputable def event (W : StagedWalk) (t : ℕ) : Option Event :=
  if h : ∃ i < W.stages, W.BeginsAt i t then some (.begin h.choose)
  else if W.BeginsAt W.stages (t + 1) then some .finish
  else none

/-- The walk is not over after tick `t`. -/
def RunningAfter (W : StagedWalk) (t : ℕ) : Prop := ∀ e, W.BeginsAt W.stages e → t + 1 < e

/-- A stage was found to be soaked at tick `p`, and tick `t` is `p` or one of the ticks it
dwells but the last. -/
def SoakingAfter (W : StagedWalk) (t : ℕ) : Prop :=
  ∃ i b p, i < W.stages ∧ W.BeginsAt i b ∧ W.Waits i b p ∧ W.verdict i p = .soak ∧
    p ≤ t ∧ t < p + W.dwell i

variable {W : StagedWalk} {i j b b' t t' : ℕ}

theorem Waits.succ (h : W.Waits i b t) (hwait : W.verdict i t = .wait) : W.Waits i b (t + 1) := by
  refine ⟨Nat.lt_succ_of_lt h.1, fun q hbq hqt => ?_⟩
  rcases Nat.lt_succ_iff_lt_or_eq.mp hqt with hlt | rfl
  · exact h.2 q hbq hlt
  · exact hwait

theorem waits_succ (i b : ℕ) : W.Waits i b (b + 1) :=
  ⟨Nat.lt_succ_self b, fun _ hbq hqb => absurd hqb (Nat.not_lt.mpr hbq)⟩

/-- A verdict is reached once. -/
theorem Waits.unique (h : W.Waits i b t) (h' : W.Waits i b t') (hne : W.verdict i t ≠ .wait)
    (hne' : W.verdict i t' ≠ .wait) : t = t' := by
  rcases Nat.lt_trichotomy t t' with hlt | heq | hgt
  · exact absurd (h'.2 t h.1 hlt) hne
  · exact heq
  · exact absurd (h.2 t' h'.1 hgt) hne'

/-- How a stage that is not the first came to begin. -/
theorem BeginsAt.cases_succ (h : W.BeginsAt (i + 1) b') :
    ∃ b t, W.BeginsAt i b ∧ i < W.stages ∧ W.Waits i b t ∧
      ((W.verdict i t = .skip ∧ b' = t + 1) ∨
        (W.verdict i t = .soak ∧ b' = t + W.dwell i + 2)) := by
  cases h with
  | skip hb hi hw hv => exact ⟨_, _, hb, hi, hw, .inl ⟨hv, rfl⟩⟩
  | soak hb hi hw hv => exact ⟨_, _, hb, hi, hw, .inr ⟨hv, rfl⟩⟩

/-- **Begin times are determined.** -/
theorem BeginsAt.unique (h : W.BeginsAt i b) (h' : W.BeginsAt i b') : b = b' := by
  induction i generalizing b b' with
  | zero =>
    cases h
    cases h'
    rfl
  | succ i ih =>
    obtain ⟨c, t, hc, -, hw, hv⟩ := h.cases_succ
    obtain ⟨c', t', hc', -, hw', hv'⟩ := h'.cases_succ
    obtain rfl := ih hc hc'
    -- the earlier stage began once, so its verdict fell once
    have ht : t = t' := by
      refine hw.unique hw' ?_ ?_
      · rcases hv with ⟨hv, -⟩ | ⟨hv, -⟩ <;> simp [hv]
      · rcases hv' with ⟨hv', -⟩ | ⟨hv', -⟩ <;> simp [hv']
    subst ht
    rcases hv with ⟨hv, rfl⟩ | ⟨hv, rfl⟩ <;> rcases hv' with ⟨hv', rfl⟩ | ⟨hv', rfl⟩ <;>
      simp_all

/-- Every stage before a begun one has begun, and no later. -/
theorem BeginsAt.exists_of_le (h : W.BeginsAt j b') (hij : i ≤ j) :
    ∃ b, W.BeginsAt i b ∧ b ≤ b' := by
  induction j generalizing b' with
  | zero => exact ⟨b', Nat.le_zero.mp hij ▸ h, Nat.le_refl _⟩
  | succ j ih =>
    rcases Nat.le_succ_iff.mp hij with hle | rfl
    · obtain ⟨c, t, hc, -, hw, hv⟩ := h.cases_succ
      obtain ⟨b, hb, hle⟩ := ih hc hle
      refine ⟨b, hb, ?_⟩
      have := hw.1
      rcases hv with ⟨-, rfl⟩ | ⟨-, rfl⟩ <;> omega
    · exact ⟨b', h, Nat.le_refl _⟩

/-- A stage begins only after the earlier stage has waited. -/
theorem BeginsAt.lt_of_waits (h : W.BeginsAt i b) (hw : W.Waits i b t) (h' : W.BeginsAt j b')
    (hij : i < j) : t < b' := by
  obtain ⟨c, hc, hle⟩ := h'.exists_of_le hij
  obtain ⟨b₀, t₀, hb₀, -, hw₀, hv⟩ := hc.cases_succ
  obtain rfl := h.unique hb₀
  have hne : W.verdict i t₀ ≠ .wait := by rcases hv with ⟨hv, -⟩ | ⟨hv, -⟩ <;> simp [hv]
  -- the verdict fell after the ticks that waited
  have hle₀ : t ≤ t₀ := by
    by_contra hlt
    exact hne (hw.2 t₀ hw₀.1 (Nat.not_le.mp hlt))
  rcases hv with ⟨-, rfl⟩ | ⟨-, rfl⟩ <;> omega

/-- Later stages begin later. -/
theorem BeginsAt.lt_of_lt (h : W.BeginsAt i b) (h' : W.BeginsAt j b') (hij : i < j) : b < b' :=
  Nat.lt_of_succ_lt (h.lt_of_waits (waits_succ i b) h' hij)

theorem BeginsAt.le_of_le (h : W.BeginsAt i b) (h' : W.BeginsAt j b') (hij : i ≤ j) : b ≤ b' := by
  rcases Nat.lt_or_eq_of_le hij with hlt | rfl
  · exact (h.lt_of_lt h' hlt).le
  · exact (h.unique h').le

/-- One stage begins at a tick at most. -/
theorem BeginsAt.index_unique (h : W.BeginsAt i t) (h' : W.BeginsAt j t) : i = j := by
  rcases Nat.lt_trichotomy i j with hlt | heq | hgt
  · exact absurd (h.lt_of_lt h' hlt) (Nat.lt_irrefl _)
  · exact heq
  · exact absurd (h'.lt_of_lt h hgt) (Nat.lt_irrefl _)

/-! ## Events -/

/-- At the begin of a stage. -/
theorem event_of_begins (h : W.BeginsAt i t) (hi : i < W.stages) : W.event t = some (.begin i) := by
  have hex : ∃ i < W.stages, W.BeginsAt i t := ⟨i, hi, h⟩
  rw [event, dif_pos hex, hex.choose_spec.2.index_unique h]

/-- No stage begins at a tick between the begins of two consecutive stages. -/
private theorem not_begins_between (h : W.BeginsAt i b) (hbt : b < t)
    (hnext : ∀ b', W.BeginsAt (i + 1) b' → t < b') : ¬ ∃ j < W.stages, W.BeginsAt j t := by
  rintro ⟨j, -, hj⟩
  rcases Nat.lt_or_ge i j with hlt | hge
  · obtain ⟨c, hc, hle⟩ := hj.exists_of_le hlt
    exact absurd (hnext c hc) (Nat.not_lt.mpr hle)
  · exact absurd (hj.le_of_le h hge) (Nat.not_le.mpr hbt)

/-- Between the begins of two stages, and not just before the second. -/
theorem event_of_between (h : W.BeginsAt i b) (hbt : b < t)
    (hi : i < W.stages) (hnext : ∀ b', W.BeginsAt (i + 1) b' → t + 1 < b') :
    W.event t = none := by
  have hnot := not_begins_between h hbt fun b' hb' => Nat.lt_of_succ_lt (hnext b' hb')
  rw [event, dif_neg hnot, if_neg]
  intro hlast
  obtain ⟨c, hc, hle⟩ := hlast.exists_of_le (Nat.succ_le_of_lt hi)
  exact absurd (hnext c hc) (Nat.not_lt.mpr hle)

/-- Just before the begin of a stage. -/
theorem event_of_next (h : W.BeginsAt i b) (hbt : b < t) (hnext : W.BeginsAt (i + 1) (t + 1)) :
    W.event t = if i + 1 = W.stages then some .finish else none := by
  have hnot := not_begins_between h hbt fun b' hb' => (hb'.unique hnext).ge
  rw [event, dif_neg hnot]
  by_cases heq : i + 1 = W.stages
  · rw [if_pos (heq ▸ hnext), if_pos heq]
  · rw [if_neg fun hlast => heq (hnext.index_unique hlast), if_neg heq]

/-- When the walk is over. -/
theorem event_of_over {e : ℕ} (h : W.BeginsAt W.stages e) (het : e ≤ t) : W.event t = none := by
  have hnot : ¬ ∃ j < W.stages, W.BeginsAt j t := by
    rintro ⟨j, hj, hb⟩
    exact absurd (hb.lt_of_lt h hj) (Nat.not_lt.mpr het)
  rw [event, dif_neg hnot, if_neg]
  intro hlast
  have heq : e = t + 1 := h.unique hlast
  omega

/-! ## The flag -/

/-- A stage that has not given way keeps the walk running. -/
theorem runningAfter_of_next (hi : i < W.stages)
    (hnext : ∀ b', W.BeginsAt (i + 1) b' → t + 1 < b') : W.RunningAfter t := by
  intro e he
  obtain ⟨c, hc, hle⟩ := he.exists_of_le (Nat.succ_le_of_lt hi)
  exact (hnext c hc).trans_le hle

theorem not_runningAfter_of_over {e : ℕ} (h : W.BeginsAt W.stages e) (het : e ≤ t + 1) :
    ¬ W.RunningAfter t :=
  fun hrun => absurd (hrun e h) (Nat.not_lt.mpr het)

/-! ## Soaking -/

/-- A soaking stage began before, and the next one is more than two ticks away. -/
private theorem SoakingAfter.exists_next (h : W.SoakingAfter t) :
    ∃ i b e, i < W.stages ∧ W.BeginsAt i b ∧ b < t ∧ W.BeginsAt (i + 1) e ∧ t + 2 < e := by
  obtain ⟨i, b, p, hi, hb, hw, hsoak, hpt, htp⟩ := h
  exact ⟨i, b, _, hi, hb, hw.1.trans_le hpt, .soak hb hi hw hsoak, by omega⟩

/-- Not around the begin of any stage. -/
theorem not_soakingAfter_of_begins (h : W.BeginsAt j b) (htb : t < b) (hbt : b ≤ t + 2) :
    ¬ W.SoakingAfter t := by
  intro hsoak
  obtain ⟨i, b', e, -, hb', hlt, he, hte⟩ := hsoak.exists_next
  rcases Nat.lt_or_ge i j with hij | hji
  · have := he.le_of_le h hij
    omega
  · have := h.le_of_le hb' hji
    omega

/-- Not while a stage waits. -/
theorem not_soakingAfter_of_waits (h : W.BeginsAt i b) (hw : W.Waits i b (t + 1)) :
    ¬ W.SoakingAfter t := by
  rintro ⟨j, b', p, hj, hb', hw', hsoak, hpt, htp⟩
  have hnext : W.BeginsAt (j + 1) (p + W.dwell j + 2) := .soak hb' hj hw' hsoak
  rcases Nat.lt_trichotomy i j with hlt | rfl | hgt
  · have := h.lt_of_waits hw hb' hlt
    have := hw'.1
    omega
  · obtain rfl := h.unique hb'
    have hwait := hw.2 p hw'.1 (Nat.lt_succ_of_le hpt)
    rw [hsoak] at hwait
    cases hwait
  · have := hnext.le_of_le h hgt
    have := hw.1
    omega

/-- Not when the walk is over. -/
theorem not_soakingAfter_of_over {e : ℕ} (h : W.BeginsAt W.stages e) (het : e ≤ t + 1) :
    ¬ W.SoakingAfter t := by
  intro hsoak
  obtain ⟨i, -, e', hi, -, -, he', hte'⟩ := hsoak.exists_next
  have := he'.le_of_le h hi
  omega

end StagedWalk

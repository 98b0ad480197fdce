import Mathlib.Algebra.BigOperators.Intervals
import Mathlib.Algebra.Order.BigOperators.Group.Finset
import ReflowTable.Lib.StagedWalk

/-!
# How long a walk takes

What is to be seen of a walk are the begins of its stages, in their order, and the end behind the
last of them (`StagedWalk.events_of_next`, `StagedWalk.events_of_over`). A walk is over some time
if and only if no stage waits for good (`StagedWalk.over_iff`); how long it takes is bounded by the
patience each stage has to be met with (`StagedWalk.over_within`).
-/

namespace StagedWalk

variable {W : StagedWalk} {i j b b' t : ℕ}

/-! ## What is to be seen -/

/-- From the begin of a stage to the next, nothing but the begin is to be seen. -/
theorem events_of_between (hb : W.BeginsAt i b) (hi : i < W.stages) (hbt : b ≤ t)
    (hnext : ∀ b', W.BeginsAt (i + 1) b' → t + 1 < b') :
    (List.range (t + 1)).filterMap W.event =
      (List.range b).filterMap W.event ++ [.begin i] := by
  induction t, hbt using Nat.le_induction with
  | base =>
    rw [List.range_succ, List.filterMap_append, List.filterMap_cons, event_of_begins hb hi]
    rfl
  | succ t hbt ih =>
    have hnone := event_of_between hb (Nat.lt_succ_of_le hbt) hi hnext
    rw [List.range_succ, List.filterMap_append, List.filterMap_cons, hnone, List.filterMap_nil,
      List.append_nil]
    exact ih fun b' hb' => Nat.lt_of_succ_lt (hnext b' hb')

/-- Up to the begin of the next stage, or to the end. -/
theorem events_of_next (hb : W.BeginsAt i b) (hb' : W.BeginsAt (i + 1) b') :
    (List.range b').filterMap W.event = (List.range b).filterMap W.event ++
      .begin i :: if i + 1 = W.stages then [.finish] else [] := by
  obtain ⟨c, q, hc, hi, hwaits, hv⟩ := hb'.cases_succ
  obtain rfl := hb.unique hc
  have hbq := hwaits.1
  obtain ⟨t, rfl, hbt⟩ : ∃ t, b' = t + 2 ∧ b ≤ t := by
    rcases hv with ⟨-, rfl⟩ | ⟨-, rfl⟩
    · exact ⟨q - 1, by omega, by omega⟩
    · exact ⟨_, rfl, by omega⟩
  have hbetween := events_of_between hb hi hbt fun c hc => by
    have := hb'.unique hc
    omega
  rw [List.range_succ, List.filterMap_append, List.filterMap_cons, hbetween,
    event_of_next hb (Nat.lt_succ_of_le hbt) hb', List.append_assoc]
  split_ifs <;> rfl

/-- **Up to the begin of a stage**, the begins of the stages before it. -/
theorem events_of_begins (hb : W.BeginsAt i b) (hi : i < W.stages) :
    (List.range b).filterMap W.event = (List.range i).map .begin := by
  induction i generalizing b with
  | zero =>
    cases hb
    rfl
  | succ i ih =>
    obtain ⟨c, -, hc, hi', -, -⟩ := hb.cases_succ
    rw [events_of_next hc hb, ih hc hi', if_neg hi.ne, List.range_succ, List.map_append]
    rfl

/-- **When the walk is over**, the begins of all stages, and the end. -/
theorem events_of_over {e : ℕ} (hstages : 0 < W.stages) (he : W.BeginsAt W.stages e)
    (het : e ≤ t) :
    (List.range t).filterMap W.event = (List.range W.stages).map .begin ++ [.finish] := by
  induction t, het using Nat.le_induction with
  | base =>
    obtain ⟨i, hi⟩ := Nat.exists_eq_succ_of_ne_zero (Nat.pos_iff_ne_zero.mp hstages)
    have hlast : W.BeginsAt (i + 1) e := by rwa [hi] at he
    obtain ⟨c, -, hc, hi', -, -⟩ := hlast.cases_succ
    rw [events_of_next hc hlast, events_of_begins hc hi', if_pos hi.symm, hi, List.range_succ,
      List.map_append, List.append_assoc]
    rfl
  | succ t het ih =>
    rw [List.range_succ, List.filterMap_append, List.filterMap_cons, event_of_over he het,
      List.filterMap_nil, List.append_nil, ih]

/-! ## Walks that end -/

/-- A stage that reaches a verdict gives way. -/
theorem BeginsAt.exists_next (hb : W.BeginsAt i b) (hi : i < W.stages) (hbt : b < t)
    (hverdict : W.verdict i t ≠ .wait) :
    ∃ b', W.BeginsAt (i + 1) b' ∧ b' ≤ t + W.dwell i + 2 := by
  classical
  -- the first verdict counts
  have hex : ∃ q, b < q ∧ W.verdict i q ≠ .wait := ⟨t, hbt, hverdict⟩
  obtain ⟨hbq, hfirst⟩ := Nat.find_spec hex
  have hle : Nat.find hex ≤ t := Nat.find_min' hex ⟨hbt, hverdict⟩
  have hwaits : W.Waits i b (Nat.find hex) := by
    refine ⟨hbq, fun q hq hlt => ?_⟩
    by_contra hne
    exact Nat.find_min hex hlt ⟨hq, hne⟩
  cases hv : W.verdict i (Nat.find hex) with
  | wait => exact absurd hv hfirst
  | skip => exact ⟨_, .skip hb hi hwaits hv, by omega⟩
  | soak => exact ⟨_, .soak hb hi hwaits hv, by omega⟩

/-- **When a walk is over some time.** -/
theorem over_iff (W : StagedWalk) : (∃ e, W.BeginsAt W.stages e) ↔
    ∀ i < W.stages, ∀ b, W.BeginsAt i b → ∃ t, b < t ∧ W.verdict i t ≠ .wait := by
  constructor
  · rintro ⟨e, he⟩ i hi b hb
    -- the stage gave way, so there was a verdict
    obtain ⟨b', hb', -⟩ := he.exists_of_le (Nat.succ_le_of_lt hi)
    obtain ⟨c, t, hc, -, hwaits, hv⟩ := hb'.cases_succ
    obtain rfl := hb.unique hc
    refine ⟨t, hwaits.1, ?_⟩
    rcases hv with ⟨hv, -⟩ | ⟨hv, -⟩ <;> simp [hv]
  · intro hverdicts
    have hbegins : ∀ i ≤ W.stages, ∃ b, W.BeginsAt i b := by
      intro i
      induction i with
      | zero => exact fun _ => ⟨0, .first⟩
      | succ i ih =>
        intro hi
        obtain ⟨b, hb⟩ := ih (Nat.le_of_succ_le hi)
        obtain ⟨t, hbt, hne⟩ := hverdicts i hi b hb
        obtain ⟨b', hb', -⟩ := hb.exists_next hi hbt hne
        exact ⟨b', hb'⟩
    exact hbegins W.stages (Nat.le_refl _)

/-- **A bound.** Stage `i` reaches a verdict within `patience i` ticks, and dwells. -/
theorem over_within {patience : ℕ → ℕ}
    (hverdicts : ∀ i < W.stages, ∀ b, W.BeginsAt i b →
      ∃ t, b < t ∧ t ≤ b + patience i ∧ W.verdict i t ≠ .wait) :
    ∃ e, W.BeginsAt W.stages e ∧ e ≤ ∑ i ∈ Finset.range W.stages, (patience i + W.dwell i + 2) := by
  have hbegins : ∀ i ≤ W.stages, ∃ b, W.BeginsAt i b ∧
      b ≤ ∑ j ∈ Finset.range i, (patience j + W.dwell j + 2) := by
    intro i
    induction i with
    | zero => exact fun _ => ⟨0, .first, Nat.zero_le _⟩
    | succ i ih =>
      intro hi
      obtain ⟨b, hb, hsum⟩ := ih (Nat.le_of_succ_le hi)
      obtain ⟨t, hbt, hpatience, hne⟩ := hverdicts i hi b hb
      obtain ⟨b', hb', hle⟩ := hb.exists_next hi hbt hne
      refine ⟨b', hb', ?_⟩
      rw [Finset.sum_range_succ]
      omega
  exact hbegins W.stages (Nat.le_refl _)

/-! ## Walks that do not -/

section Waiting

variable (hb : W.BeginsAt i b) (hi : i < W.stages) (hwait : ∀ t, b < t → W.verdict i t = .wait)

include hb hwait

theorem not_begins_of_waits : ¬ W.BeginsAt (i + 1) b' := by
  intro hb'
  obtain ⟨c, t, hc, -, hwaits, hv⟩ := hb'.cases_succ
  obtain rfl := hb.unique hc
  have hverdict := hwait t hwaits.1
  rcases hv with ⟨hv, -⟩ | ⟨hv, -⟩ <;> simp [hv] at hverdict

include hi

theorem runningAfter_of_waits (t : ℕ) : W.RunningAfter t :=
  runningAfter_of_next hi fun _ hb' => absurd hb' (not_begins_of_waits hb hwait)

/-- The begin of the stage is the last thing to be seen. -/
theorem getLast?_events_of_waits (hbt : b ≤ t) :
    ((List.range (t + 1)).filterMap W.event).getLast? = some (.begin i) := by
  rw [events_of_between hb hi hbt fun _ hb' => absurd hb' (not_begins_of_waits hb hwait),
    List.getLast?_concat]

end Waiting

/-! ## Walks that are answered -/

/-- **A stage whose begin is answered.** Somebody sees the begin of the stage, and when it has been
the last thing to be seen for `patience` ticks, there was a verdict at one of the ticks behind
them. Then the stage has a verdict within its patience. -/
theorem exists_verdict_of_seen {patience : ℕ} (hb : W.BeginsAt i b) (hi : i < W.stages)
    (hanswer : (∀ d < patience, ((List.range (b + d + 1)).filterMap W.event).getLast? =
      some (.begin i)) → ∃ d < patience, W.verdict i (b + d + 1) ≠ .wait) :
    ∃ t, b < t ∧ t ≤ b + patience ∧ W.verdict i t ≠ .wait := by
  by_contra hnone
  have hwait : ∀ t, b < t → t ≤ b + patience → W.verdict i t = .wait := by
    intro t hbt htp
    by_contra hne
    exact hnone ⟨t, hbt, htp, hne⟩
  have hwaits : W.Waits i b (b + patience + 1) :=
    ⟨by omega, fun q hbq hq => hwait q hbq (Nat.le_of_lt_succ hq)⟩
  obtain ⟨d, hd, hne⟩ := hanswer fun d hd => by
    rw [events_of_between hb hi (Nat.le_add_right b d) fun b' hb' => ?_, List.getLast?_concat]
    have := hb.lt_of_waits hwaits hb' (Nat.lt_succ_self i)
    omega
  exact hne (hwait _ (by omega) (by omega))

end StagedWalk

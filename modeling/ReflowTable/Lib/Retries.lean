import Mathlib.Data.List.Basic
import Mathlib.Order.Basic

/-!
# Retrying

An operation that may fail is tried again while it fails, a bounded number of times. `results` is
the stream of what the tries yield, whoever makes them; `tries` are the ones made from one place
of the stream on. Every result but the last is a failure, and a sequence of failures alone uses
up all the tries.
-/

namespace Retries

variable {α : Type*} (failed : α → Bool) (results : ℕ → α)

/-- At most `count` tries from `start` on, each but the first after a failed one. -/
def tries (start : ℕ) : ℕ → List α
  | 0 => []
  | count + 1 =>
    results start :: if failed (results start) then tries (start + 1) count else []

variable {failed results}

theorem tries_of_failed {start : ℕ} (count : ℕ) (h : failed (results start) = true) :
    tries failed results start (count + 1) =
      results start :: tries failed results (start + 1) count := by
  rw [tries, if_pos h]

theorem tries_of_succeeded {start : ℕ} (count : ℕ) (h : failed (results start) = false) :
    tries failed results start (count + 1) = [results start] := by
  rw [tries, if_neg (by rw [h]; exact Bool.false_ne_true)]

theorem length_tries_le (start count : ℕ) :
    (tries failed results start count).length ≤ count := by
  induction count generalizing start with
  | zero => exact Nat.le_refl 0
  | succ count ih =>
    have hrest := ih (start + 1)
    cases hfirst : failed (results start) with
    | true =>
      rw [tries_of_failed count hfirst, List.length_cons]
      omega
    | false =>
      rw [tries_of_succeeded count hfirst, List.length_singleton]
      omega

/-- The tries take the results in the order of the stream. -/
theorem eq_of_getElem?_tries {start count i : ℕ} {result : α}
    (h : (tries failed results start count)[i]? = some result) : result = results (start + i) := by
  induction count generalizing start i with
  | zero => cases h
  | succ count ih =>
    cases i with
    | zero =>
      rw [tries, List.getElem?_cons_zero, Option.some.injEq] at h
      exact h.symm
    | succ i =>
      rw [tries, List.getElem?_cons_succ] at h
      split_ifs at h
      · have hrest := ih h
        rwa [show start + 1 + i = start + (i + 1) by omega] at hrest
      · cases h

/-- **A try that another one follows has failed.** -/
theorem failed_of_followed {start count : ℕ} {pre post : List α} {result : α}
    (h : tries failed results start count = pre ++ result :: post) (hpost : post ≠ []) :
    failed result = true := by
  induction count generalizing start pre with
  | zero =>
    have hlen := congrArg List.length h
    simp [tries] at hlen
  | succ count ih =>
    cases hfirst : failed (results start) with
    | true =>
      rw [tries_of_failed count hfirst] at h
      cases pre with
      | nil =>
        obtain ⟨rfl, -⟩ := List.cons.inj h
        exact hfirst
      | cons _ pre => exact ih (List.cons.inj h).2
    | false =>
      -- a success is the only try, so none follows it
      rw [tries_of_succeeded count hfirst] at h
      have hlen := congrArg List.length h
      have hpos := List.length_pos_iff.mpr hpost
      rw [List.length_singleton, List.length_append, List.length_cons] at hlen
      omega

/-- **Failures alone use up the tries.** -/
theorem length_tries_of_failed {start count : ℕ}
    (h : ∀ result ∈ tries failed results start count, failed result = true) :
    (tries failed results start count).length = count := by
  induction count generalizing start with
  | zero => rfl
  | succ count ih =>
    have hfirst : failed (results start) = true := h _ (by rw [tries]; exact List.mem_cons_self)
    rw [tries_of_failed count hfirst] at h ⊢
    rw [List.length_cons, ih fun result hmem => h result (List.mem_cons_of_mem _ hmem)]

end Retries

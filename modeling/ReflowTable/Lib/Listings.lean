import Mathlib.Data.List.AList
import Mathlib.Data.List.Sort

/-!
# Listings of finite maps

A *listing* of a partial function gives its keys in ascending order, each with its value. There is
at most one (`Lists.unique`), so a finite map is known by what it lists. `AList.ascending` is the
listing of an association list, the order in which a `std::map` is traversed.
-/

namespace Listings

variable {κ β γ : Type*} [LT κ] {l l' : List (κ × β)} {f : κ → Option β}

/-- The list goes through the map from the least key to the greatest. -/
structure Lists (l : List (κ × β)) (f : κ → Option β) : Prop where
  ascending : l.Pairwise fun a b => a.1 < b.1
  mem_iff : ∀ k v, (k, v) ∈ l ↔ f k = some v

open Classical in
/-- The listing of a map, if it is finite. -/
noncomputable def listing (f : κ → Option β) : List (κ × β) :=
  if h : ∃ l, Lists l f then h.choose else []

/-- A change of the values is seen in the listing. -/
theorem Lists.map (h : Lists l f) (g : β → γ) :
    Lists (l.map fun a => (a.1, g a.2)) fun k => (f k).map g where
  ascending := by
    rw [List.pairwise_map]
    exact h.ascending
  mem_iff k v := by
    simp only [List.mem_map, Prod.exists, Prod.mk.injEq, Option.map_eq_some_iff]
    constructor
    · rintro ⟨k', v', hmem, rfl, hv⟩
      exact ⟨v', (h.mem_iff k' v').mp hmem, hv⟩
    · rintro ⟨v', hf, hv⟩
      exact ⟨k, v', (h.mem_iff k v').mpr hf, rfl, hv⟩

variable [LE κ] [Std.IsLinearOrder κ] [Std.LawfulOrderLT κ]

theorem Lists.unique (h : Lists l f) (h' : Lists l' f) : l = l' := by
  have hirrefl : Std.Irrefl fun a b : κ × β => a.1 < b.1 := ⟨fun a => Std.lt_irrefl⟩
  have hantisymm : Std.Antisymm fun a b : κ × β => a.1 < b.1 :=
    ⟨fun a b hab hba => absurd hba (Std.not_lt.mpr (Std.le_of_lt hab))⟩
  refine h.ascending.eq_of_mem_iff h'.ascending fun a => ?_
  rw [h.mem_iff a.1 a.2, h'.mem_iff a.1 a.2]

theorem Lists.listing_eq (h : Lists l f) : listing f = l := by
  have hex : ∃ l, Lists l f := ⟨l, h⟩
  rw [listing, dif_pos hex]
  exact hex.choose_spec.unique h

end Listings

namespace AList

open Listings

variable {κ β : Type*} [LE κ] [DecidableLE κ]

/-- The entries, from the least key to the greatest. -/
def ascending (m : AList fun _ : κ => β) : List (κ × β) :=
  (m.entries.map fun entry => (entry.1, entry.2)).mergeSort fun a b => a.1 ≤ b.1

variable [LT κ] [Std.IsLinearOrder κ] [Std.LawfulOrderLT κ] [DecidableEq κ]

theorem lists_ascending (m : AList fun _ : κ => β) : Lists m.ascending m.lookup where
  ascending := by
    have hle : m.ascending.Pairwise fun a b => a.1 ≤ b.1 := by
      refine (List.pairwise_mergeSort (fun a b c hab hbc => ?_) (fun a b => ?_) _).imp
        of_decide_eq_true
      · exact decide_eq_true (Std.le_trans (of_decide_eq_true hab) (of_decide_eq_true hbc))
      · simpa using Std.le_total
    -- no key occurs twice
    have hne : m.ascending.Pairwise fun a b => a.1 ≠ b.1 := by
      have hentries : (m.entries.map fun entry => (entry.1, entry.2)).Pairwise
          fun a b => a.1 ≠ b.1 := by
        rw [List.pairwise_map]
        exact m.nodupKeys.pairwise_ne
      exact (List.mergeSort_perm _ _).pairwise_iff (fun h => h.symm) |>.mpr hentries
    exact (hle.and hne).imp fun h => Std.lt_of_le_of_ne h.1 h.2
  mem_iff k v := by
    have hmem : (k, v) ∈ m.ascending ↔ ⟨k, v⟩ ∈ m.entries := by
      rw [AList.ascending, List.mem_mergeSort]
      simp only [List.mem_map, Prod.mk.injEq]
      constructor
      · rintro ⟨entry, hentry, rfl, rfl⟩
        exact hentry
      · intro hentry
        exact ⟨_, hentry, rfl, rfl⟩
    rw [hmem, ← AList.mem_lookup_iff, Option.mem_def]

end AList

import Mathlib.Data.Nat.Notation
import Mathlib.Tactic.TypeStar

/-!
# Contiguous vectors and the pointers into them

A `std::vector` as the owner of a raw element pointer sees it. Besides its elements it has a
capacity and a *buffer*, which is the allocation the elements live in. A `push_back` that
fits leaves the buffer alone; one that exceeds the capacity moves the elements to a new
buffer, and every pointer into the old one is dangling from then on.

The capacity taken at a reallocation is the library's choice, so it is a parameter `grow` of
`pushBack`; whatever it answers, the new capacity has room for the elements.
-/

/-- A vector: its elements, its capacity, and which of its successive buffers it uses. -/
structure Vec (α : Type*) where
  items : List α
  capacity : ℕ
  buffer : ℕ
  /-- the elements fit into the buffer -/
  fits : items.length ≤ capacity

namespace Vec

variable {α : Type*}

/-- A pointer to an element: the buffer it points into and the offset there. -/
structure Ptr where
  buffer : ℕ
  index : ℕ
deriving DecidableEq

/-- The vector a default constructor makes. -/
def empty : Vec α := ⟨[], 0, 0, Nat.le_refl 0⟩

/-- The number of elements. -/
def size (v : Vec α) : ℕ := v.items.length

/-- The address of element `i`. -/
def ptrTo (v : Vec α) (i : ℕ) : Ptr := ⟨v.buffer, i⟩

/-- What a pointer reads: `none` when its buffer has been given up. -/
def read (v : Vec α) (p : Ptr) : Option α :=
  if p.buffer = v.buffer then v.items[p.index]? else none

/-- In-place assignment to element `i`. -/
def set (v : Vec α) (i : ℕ) (a : α) : Vec α :=
  { v with items := v.items.set i a, fits := by simpa using v.fits }

/-- `push_back`, with `grow n` the capacity asked for when a full vector of `n` elements
moves. -/
def pushBack (grow : ℕ → ℕ) (v : Vec α) (a : α) : Vec α :=
  if h : v.size < v.capacity then
    { v with items := v.items ++ [a], fits := by rw [List.length_append]; exact h }
  else
    -- the elements move
    { items := v.items ++ [a]
      capacity := max (v.size + 1) (grow v.size)
      buffer := v.buffer + 1
      fits := by rw [List.length_append]; exact Nat.le_max_left _ _ }

/-! ## Elements -/

@[simp] theorem items_empty : (empty : Vec α).items = [] := rfl

@[simp] theorem items_set (v : Vec α) (i : ℕ) (a : α) : (v.set i a).items = v.items.set i a := rfl

@[simp] theorem items_pushBack (grow : ℕ → ℕ) (v : Vec α) (a : α) :
    (v.pushBack grow a).items = v.items ++ [a] := by
  unfold pushBack
  split <;> rfl

@[simp] theorem size_set (v : Vec α) (i : ℕ) (a : α) : (v.set i a).size = v.size := by
  simp [size]

@[simp] theorem size_pushBack (grow : ℕ → ℕ) (v : Vec α) (a : α) :
    (v.pushBack grow a).size = v.size + 1 := by
  simp [size]

/-! ## Buffers and pointers -/

@[simp] theorem buffer_set (v : Vec α) (i : ℕ) (a : α) : (v.set i a).buffer = v.buffer := rfl

@[simp] theorem capacity_set (v : Vec α) (i : ℕ) (a : α) :
    (v.set i a).capacity = v.capacity := rfl

theorem buffer_pushBack_of_lt (grow : ℕ → ℕ) {v : Vec α} (a : α) (h : v.size < v.capacity) :
    (v.pushBack grow a).buffer = v.buffer := by
  simp [pushBack, h]

theorem capacity_pushBack_of_lt (grow : ℕ → ℕ) {v : Vec α} (a : α) (h : v.size < v.capacity) :
    (v.pushBack grow a).capacity = v.capacity := by
  simp [pushBack, h]

/-- A full vector moves. -/
theorem buffer_pushBack_of_full (grow : ℕ → ℕ) {v : Vec α} (a : α) (h : v.size = v.capacity) :
    (v.pushBack grow a).buffer = v.buffer + 1 := by
  simp [pushBack, h]

/-- Buffers are never taken up again. -/
theorem buffer_le_buffer_pushBack (grow : ℕ → ℕ) (v : Vec α) (a : α) :
    v.buffer ≤ (v.pushBack grow a).buffer := by
  unfold pushBack
  split
  · exact Nat.le_refl _
  · exact Nat.le_succ _

@[simp] theorem read_ptrTo (v : Vec α) (i : ℕ) : v.read (v.ptrTo i) = v.items[i]? := by
  simp [read, ptrTo]

/-- A pointer into another buffer reads nothing of the vector. -/
theorem read_of_buffer_ne {v : Vec α} {p : Ptr} (h : p.buffer ≠ v.buffer) : v.read p = none := by
  simp [read, h]

end Vec

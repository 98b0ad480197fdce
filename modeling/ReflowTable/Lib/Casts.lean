import Mathlib.Data.Rat.Floor
import Mathlib.Tactic.Positivity

/-!
# C++ conversions of numbers to unsigned words

`static_cast` to an unsigned type of `w` bits. From an integer it is reduction mod `2 ^ w`.
From a floating-point value it drops the fraction, and is undefined when what remains does
not fit; `undef` stands for whatever the platform then yields. Floating-point values are
exact rationals here.

The results say when such a conversion keeps its argument: exactly when the argument is an
integer of the word's range. `atoll` reads a number from text.
-/

namespace Casts

/-- Integer to `w`-bit unsigned. -/
def ofInt (w : ℕ) (n : ℤ) : ℕ := (n % (2 ^ w : ℕ)).toNat

/-- Floating point to `w`-bit unsigned. Above `-1` dropping the fraction is `⌊q⌋₊`, which is
`0` for a negative argument. -/
def ofRat (undef : ℕ → ℚ → ℕ) (w : ℕ) (q : ℚ) : ℕ :=
  if -1 < q ∧ q < (2 ^ w : ℕ) then ⌊q⌋₊ else undef w q % 2 ^ w

/-- A number that a `w`-bit unsigned word holds exactly. -/
def Fits (w : ℕ) (q : ℚ) : Prop := ∃ n : ℕ, n < 2 ^ w ∧ q = n

variable {w : ℕ}

theorem ofInt_lt (w : ℕ) (n : ℤ) : ofInt w n < 2 ^ w := by
  have hpos : (0 : ℤ) < (2 ^ w : ℕ) := by positivity
  have h1 := Int.emod_nonneg n hpos.ne'
  have h2 := Int.emod_lt_of_pos n hpos
  unfold ofInt
  omega

theorem ofRat_lt (undef : ℕ → ℚ → ℕ) (w : ℕ) (q : ℚ) : ofRat undef w q < 2 ^ w := by
  unfold ofRat
  split
  · next h => exact (Nat.floor_lt' (by positivity)).mpr h.2
  · exact Nat.mod_lt _ (by positivity)

theorem ofInt_natCast {n : ℕ} (h : n < 2 ^ w) : ofInt w n = n := by
  unfold ofInt
  rw [← Int.natCast_mod, Int.toNat_natCast, Nat.mod_eq_of_lt h]

theorem ofRat_natCast (undef : ℕ → ℚ → ℕ) {n : ℕ} (h : n < 2 ^ w) :
    ofRat undef w n = n := by
  have hlo : (-1 : ℚ) < n := lt_of_lt_of_le (by norm_num) n.cast_nonneg
  have hhi : (n : ℚ) < (2 ^ w : ℕ) := by exact_mod_cast h
  rw [ofRat, if_pos ⟨hlo, hhi⟩, Nat.floor_natCast]

/-- A converted integer is the argument exactly when the word holds the argument. -/
theorem ofInt_eq_iff (n : ℤ) : ((ofInt w n : ℕ) : ℚ) = n ↔ Fits w n := by
  constructor
  · intro h
    exact ⟨ofInt w n, ofInt_lt w n, h.symm⟩
  · rintro ⟨m, hm, hnm⟩
    have : n = m := by exact_mod_cast hnm
    rw [this, ofInt_natCast hm, Int.cast_natCast]

/-- A converted floating-point value is the argument exactly when the word holds it. -/
theorem ofRat_eq_iff (undef : ℕ → ℚ → ℕ) (q : ℚ) :
    ((ofRat undef w q : ℕ) : ℚ) = q ↔ Fits w q := by
  constructor
  · intro h
    exact ⟨ofRat undef w q, ofRat_lt undef w q, h.symm⟩
  · rintro ⟨m, hm, rfl⟩
    rw [ofRat_natCast undef hm]

/-- What fits a word fits a wider one. -/
theorem Fits.mono {w' : ℕ} {q : ℚ} (hw : w ≤ w') (h : Fits w q) : Fits w' q := by
  obtain ⟨n, hn, rfl⟩ := h
  exact ⟨n, hn.trans_le (Nat.pow_le_pow_right (by norm_num) hw), rfl⟩

/-! ## Numbers in text -/

/-- `std::isspace` in the C locale. -/
def isSpace (ch : Char) : Bool := ch = ' ' || (9 ≤ ch.toNat && ch.toNat ≤ 13)

/-- The value of the leading decimal digits. -/
def digitsValue (text : List Char) : ℕ :=
  (text.takeWhile Char.isDigit).foldl (fun n ch => 10 * n + (ch.toNat - 48)) 0

/-- `std::atoll` with a 64-bit `long long`: blanks, a sign, digits, and the nearest value
where the number is out of range. -/
def atoll (text : List Char) : ℤ :=
  match text.dropWhile isSpace with
  | '-' :: digits => max (-2 ^ 63) (-digitsValue digits)
  | '+' :: digits => min (2 ^ 63 - 1) (digitsValue digits)
  | digits => min (2 ^ 63 - 1) (digitsValue digits)

end Casts

import Mathlib.Data.List.Basic
import ReflowTable.Lib.Casts

/-!
# Decimal numerals and the C++ functions that read them

`from_chars` and `stoull` next to `atoll` of `ReflowTable.Lib.Casts`, and what the three make
of a number written in decimal: with any zeros in front, and up to the first character that is
no digit.
-/

namespace Numerals

open Casts (digitsValue isSpace atoll)

/-- `std::errc`, as far as the conversions report it. -/
inductive Errc
  | invalidArgument
  | resultOutOfRange
deriving DecidableEq

/-- `std::from_chars` to a `w`-bit unsigned: the leading digits, without blanks or a sign. -/
def fromChars (w : ℕ) (text : List Char) : Except Errc ℕ :=
  if (text.takeWhile Char.isDigit).isEmpty then .error .invalidArgument
  else if digitsValue text < 2 ^ w then .ok (digitsValue text)
  else .error .resultOutOfRange

/-- `std::stoull` with a 64-bit `unsigned long long`: blanks, a sign, digits. A negative number
is taken mod `2 ^ 64`. -/
def stoull (text : List Char) : Except Errc ℕ :=
  match text.dropWhile isSpace with
  | '-' :: digits => (fromChars 64 digits).map fun n => (2 ^ 64 - n) % 2 ^ 64
  | '+' :: digits => fromChars 64 digits
  | digits => fromChars 64 digits

/-- A number in decimal, behind some zeros. -/
def decimal (zeros n : ℕ) : List Char := List.replicate zeros '0' ++ Nat.toDigits 10 n

variable {w zeros n : ℕ} {rest : List Char}

theorem isDigit_of_mem_decimal {ch : Char} (h : ch ∈ decimal zeros n) : ch.isDigit = true := by
  rcases List.mem_append.mp h with hzero | hdigit
  · rw [List.eq_of_mem_replicate hzero]
    rfl
  · exact Nat.isDigit_of_mem_toDigits (by omega) (by omega) hdigit

variable (zeros n) in
theorem decimal_ne_nil : decimal zeros n ≠ [] := by
  simp [decimal, Nat.toDigits_ne_nil]

/-- A delimiter is no part of a numeral. -/
theorem not_mem_decimal {ch : Char} (h : ch.isDigit = false) : ch ∉ decimal zeros n :=
  fun hmem => by simp [isDigit_of_mem_decimal hmem] at h

/-- The digits of a numeral end at the first character that is none. -/
theorem takeWhile_decimal (hrest : ∀ ch ∈ rest.head?, Char.isDigit ch = false) :
    (decimal zeros n ++ rest).takeWhile Char.isDigit = decimal zeros n := by
  rw [List.takeWhile_append_of_pos fun ch hch => isDigit_of_mem_decimal hch]
  cases rest with
  | nil => simp
  | cons ch rest => simp [hrest ch rfl]

variable (zeros n) in
/-- Zeros in front do not change the value. -/
theorem digitsValue_decimal (hrest : ∀ ch ∈ rest.head?, Char.isDigit ch = false) :
    digitsValue (decimal zeros n ++ rest) = n := by
  have hvalue : digitsValue (decimal zeros n ++ rest) =
      Nat.ofDigitChars 10 (decimal zeros n) 0 := by
    rw [digitsValue, takeWhile_decimal hrest, Nat.ofDigitChars_eq_foldl]
    rfl
  rw [hvalue, decimal, Nat.ofDigitChars_append, Nat.ofDigitChars_replicate_zero, Nat.mul_zero,
    Nat.ofDigitChars_ten_toDigits]

/-- **`from_chars` reads a numeral that the word holds.** -/
theorem fromChars_decimal (hn : n < 2 ^ w) (hrest : ∀ ch ∈ rest.head?, Char.isDigit ch = false) :
    fromChars w (decimal zeros n ++ rest) = .ok n := by
  have hdigits : ((decimal zeros n ++ rest).takeWhile Char.isDigit).isEmpty = false := by
    rw [takeWhile_decimal hrest]
    simp [decimal_ne_nil]
  rw [fromChars, hdigits, digitsValue_decimal zeros n hrest, if_neg Bool.false_ne_true, if_pos hn]

theorem fromChars_decimal_end (hn : n < 2 ^ w) (zeros : ℕ) :
    fromChars w (decimal zeros n) = .ok n := by
  have hread : fromChars w (decimal zeros n ++ []) = .ok n := fromChars_decimal hn (by simp)
  rwa [List.append_nil] at hread

/-- The last digit of a numeral. -/
theorem decimal_eq_concat (zeros n : ℕ) :
    ∃ front, decimal zeros n = front ++ [Nat.digitChar (n % 10)] := by
  by_cases hlt : n < 10
  · refine ⟨List.replicate zeros '0', ?_⟩
    rw [decimal, Nat.toDigits_of_lt_base hlt, Nat.mod_eq_of_lt hlt]
  · refine ⟨List.replicate zeros '0' ++ Nat.toDigits 10 (n / 10), ?_⟩
    rw [decimal, Nat.toDigits_of_base_le (by omega) (Nat.not_lt.mp hlt), List.append_assoc]

/-! ## Signs -/

/-- A numeral starts with a digit, so it has neither blanks nor a sign in front. -/
theorem exists_decimal_eq_cons (zeros n : ℕ) :
    ∃ ch digits, decimal zeros n = ch :: digits ∧ ch.isDigit = true := by
  obtain ⟨ch, digits, heq⟩ := List.exists_cons_of_ne_nil (decimal_ne_nil zeros n)
  exact ⟨ch, digits, heq, isDigit_of_mem_decimal (heq ▸ List.mem_cons_self)⟩

theorem not_isSpace_of_isDigit {ch : Char} (h : ch.isDigit = true) : isSpace ch = false := by
  obtain ⟨hlow, -⟩ := Char.isDigit_iff_toNat.mp h
  have hne : ch ≠ ' ' := by
    rintro rfl
    exact absurd h (by decide)
  simp only [isSpace, hne, decide_false, Bool.false_or, Bool.and_eq_false_iff,
    decide_eq_false_iff_not]
  right
  have hzero : '0'.toNat = 48 := rfl
  omega

/-- What a sign-aware reader looks at first. -/
theorem dropWhile_isSpace_decimal (zeros n : ℕ) :
    (decimal zeros n).dropWhile isSpace = decimal zeros n := by
  obtain ⟨ch, digits, heq, hdigit⟩ := exists_decimal_eq_cons zeros n
  rw [heq, List.dropWhile_cons_of_neg]
  simp [not_isSpace_of_isDigit hdigit]

/-- **`stoull` reads every 64-bit number.** -/
theorem stoull_decimal (hn : n < 2 ^ 64) : stoull (decimal zeros n) = .ok n := by
  unfold stoull
  rw [dropWhile_isSpace_decimal]
  split
  · next digits heq => exact absurd (heq ▸ List.mem_cons_self) (not_mem_decimal (by decide))
  · next digits heq => exact absurd (heq ▸ List.mem_cons_self) (not_mem_decimal (by decide))
  · exact fromChars_decimal_end hn zeros

/-- **`atoll` stops at the largest `long long`.** -/
theorem atoll_decimal (zeros n : ℕ) : atoll (decimal zeros n) = min (2 ^ 63 - 1) (n : ℤ) := by
  have hread : digitsValue (decimal zeros n ++ []) = n := digitsValue_decimal zeros n (by simp)
  rw [List.append_nil] at hread
  unfold atoll
  rw [dropWhile_isSpace_decimal]
  split
  · next digits heq => exact absurd (heq ▸ List.mem_cons_self) (not_mem_decimal (by decide))
  · next digits heq => exact absurd (heq ▸ List.mem_cons_self) (not_mem_decimal (by decide))
  · rw [hread]

end Numerals

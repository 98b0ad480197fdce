import Mathlib.Data.List.Induction
import Mathlib.Data.List.TakeWhile
import ReflowTable.Lib.Numerals

/-!
# Signed numerals and buffers with something behind them

`from_chars` to a signed word, and what it makes of a numeral that was read into a buffer. Whatever
stands behind a character that is no digit is not looked at (`Numerals.fromCharsInt_append`); what
stands behind a bare numeral is read as a part of it (`Numerals.fromCharsInt_bare_ne`).
-/

namespace Numerals

open Casts (digitsValue)

/-- Behind a minus sign. -/
def magnitude : List Char → List Char
  | '-' :: digits => digits
  | text => text

def negative (text : List Char) : Bool := text.head? == some '-'

/-- The number with this magnitude. -/
def signed (text : List Char) (n : ℕ) : ℤ := if negative text then -n else n

/-- The values of a `w`-bit signed word. -/
def InWord (w : ℕ) (n : ℤ) : Prop := -2 ^ (w - 1) ≤ n ∧ n < 2 ^ (w - 1)

instance (w : ℕ) (n : ℤ) : Decidable (InWord w n) := inferInstanceAs (Decidable (_ ∧ _))

/-- `std::from_chars` to a `w`-bit signed: a minus sign, if there is one, and the leading digits. -/
def fromCharsInt (w : ℕ) (text : List Char) : Except Errc ℤ :=
  if ((magnitude text).takeWhile Char.isDigit).isEmpty then .error .invalidArgument
  else if InWord w (signed text (digitsValue (magnitude text))) then
    .ok (signed text (digitsValue (magnitude text)))
  else .error .resultOutOfRange

/-- An integer in decimal. -/
def numeral (n : ℤ) : List Char := if n < 0 then '-' :: decimal 0 n.natAbs else decimal 0 n.natAbs

/-- Nothing but digits, behind a minus sign perhaps. -/
def Bare (text : List Char) : Prop := ∀ ch ∈ magnitude text, ch.isDigit = true

instance (text : List Char) : Decidable (Bare text) := inferInstanceAs (Decidable (∀ ch ∈ _, _))

variable {w : ℕ} {text rest : List Char}

/-! ## Reading a numeral -/

theorem magnitude_of_ne (h : text.head? ≠ some '-') : magnitude text = text := by
  cases text with
  | nil => rfl
  | cons ch digits =>
    unfold magnitude
    split
    · simp_all
    · rfl

theorem length_magnitude_le (text : List Char) : (magnitude text).length ≤ text.length := by
  unfold magnitude
  split
  · exact Nat.le_succ _
  · exact Nat.le_refl _

theorem head?_decimal_ne (n : ℕ) (rest : List Char) :
    (decimal 0 n ++ rest).head? ≠ some '-' := by
  obtain ⟨ch, digits, heq, hdigit⟩ := exists_decimal_eq_cons 0 n
  rw [heq]
  intro hminus
  obtain rfl := Option.some.inj hminus
  exact absurd hdigit (by decide)

/-- The parts of a numeral, whatever stands behind it. -/
theorem parts_numeral (n : ℤ) (rest : List Char) :
    magnitude (numeral n ++ rest) = decimal 0 n.natAbs ++ rest ∧
      signed (numeral n ++ rest) n.natAbs = n := by
  unfold numeral
  split_ifs with hneg
  · refine ⟨rfl, ?_⟩
    show (-(n.natAbs : ℤ)) = n
    omega
  · have hhead := head?_decimal_ne n.natAbs rest
    refine ⟨magnitude_of_ne hhead, ?_⟩
    have hnot : negative (decimal 0 n.natAbs ++ rest) = false := by simpa [negative] using hhead
    rw [signed, hnot, if_neg Bool.false_ne_true]
    omega

/-- **`from_chars` reads a numeral that the word holds**, up to the first character that is no
digit. -/
theorem fromCharsInt_numeral {n : ℤ} (hn : InWord w n)
    (hrest : ∀ ch ∈ rest.head?, Char.isDigit ch = false) :
    fromCharsInt w (numeral n ++ rest) = .ok n := by
  obtain ⟨hmagnitude, hsigned⟩ := parts_numeral n rest
  have hdigits : ((decimal 0 n.natAbs ++ rest).takeWhile Char.isDigit).isEmpty = false := by
    rw [takeWhile_decimal hrest]
    simp [decimal_ne_nil]
  rw [fromCharsInt, hmagnitude, hdigits, digitsValue_decimal 0 n.natAbs hrest, hsigned,
    if_neg Bool.false_ne_true, if_pos hn]

/-- What is read is a value of the word. -/
theorem inWord_of_fromCharsInt {n : ℤ} (h : fromCharsInt w text = .ok n) : InWord w n := by
  unfold fromCharsInt at h
  split_ifs at h with _ hword
  cases h
  exact hword

/-! ## What stands behind -/

theorem takeWhile_append_of_not_digit {digits : List Char}
    (h : ∃ ch ∈ digits, Char.isDigit ch = false) (rest : List Char) :
    (digits ++ rest).takeWhile Char.isDigit = digits.takeWhile Char.isDigit := by
  induction digits with
  | nil => simp at h
  | cons ch digits ih =>
    cases hdigit : ch.isDigit with
    | false => simp [hdigit]
    | true =>
      have htail : ∃ ch ∈ digits, Char.isDigit ch = false := by simpa [hdigit] using h
      simp [hdigit, ih htail]

theorem magnitude_append {rest : List Char} (h : text ≠ [] ∨ rest.head? ≠ some '-') :
    magnitude (text ++ rest) = magnitude text ++ rest := by
  cases text with
  | nil => exact magnitude_of_ne (h.resolve_left (by simp))
  | cons ch digits =>
    by_cases hminus : ch = '-'
    · rw [hminus]
      rfl
    · have hhead : (ch :: digits).head? ≠ some '-' := by simpa using hminus
      rw [magnitude_of_ne hhead]
      exact magnitude_of_ne hhead

theorem negative_append {rest : List Char} (h : text ≠ [] ∨ rest.head? ≠ some '-') :
    negative (text ++ rest) = negative text := by
  cases text with
  | nil => simpa [negative] using h.resolve_left (by simp)
  | cons ch digits => rfl

/-- **Behind a character that is no digit** nothing is looked at. -/
theorem fromCharsInt_append (h : ¬ Bare text) (rest : List Char) :
    fromCharsInt w (text ++ rest) = fromCharsInt w text := by
  have hne : text ≠ [] := by
    rintro rfl
    exact h (by simp [Bare, magnitude])
  have hnot : ∃ ch ∈ magnitude text, Char.isDigit ch = false := by simpa [Bare] using h
  have htake := takeWhile_append_of_not_digit hnot rest
  have hvalue : digitsValue (magnitude text ++ rest) = digitsValue (magnitude text) := by
    rw [digitsValue, digitsValue, htake]
  rw [fromCharsInt, fromCharsInt, magnitude_append (.inl hne), htake, hvalue, signed,
    negative_append (.inl hne), ← signed]

/-! ### Bare numerals -/

theorem digitsValue_concat {digits : List Char} (h : ∀ ch ∈ digits, Char.isDigit ch = true)
    {ch : Char} (hch : ch.isDigit = true) :
    digitsValue (digits ++ [ch]) = 10 * digitsValue digits + (ch.toNat - 48) := by
  have hall : ∀ ch' ∈ digits ++ [ch], Char.isDigit ch' = true := by
    intro ch' hmem
    rcases List.mem_append.mp hmem with hmem | hmem
    · exact h ch' hmem
    · rw [List.mem_singleton.mp hmem]
      exact hch
  rw [digitsValue, digitsValue, List.takeWhile_eq_self_iff.mpr hall,
    List.takeWhile_eq_self_iff.mpr h, List.foldl_append, List.foldl_cons, List.foldl_nil]

theorem digitsValue_lt {digits : List Char} (h : ∀ ch ∈ digits, Char.isDigit ch = true) :
    digitsValue digits < 10 ^ digits.length := by
  induction digits using List.reverseRecOn with
  | nil => decide
  | append_singleton digits ch ih =>
    have hch : ch.isDigit = true := h ch (by simp)
    have hinit : ∀ ch ∈ digits, Char.isDigit ch = true := fun ch' hmem => h ch' (by simp [hmem])
    obtain ⟨hlow, hhigh⟩ := Char.isDigit_iff_toNat.mp hch
    have hnine : '9'.toNat = 57 := rfl
    have hlt := ih hinit
    rw [digitsValue_concat hinit hch, List.length_append, List.length_singleton, Nat.pow_succ]
    omega

/-- A bare numeral short enough for the word. -/
theorem fromCharsInt_bare (h : Bare text) (hw : 10 ^ (magnitude text).length ≤ 2 ^ (w - 1)) :
    fromCharsInt w text = if (magnitude text).isEmpty then .error .invalidArgument
      else .ok (signed text (digitsValue (magnitude text))) := by
  have hlt := (digitsValue_lt h).trans_le hw
  have hword : InWord w (signed text (digitsValue (magnitude text))) := by
    have hcast : (digitsValue (magnitude text) : ℤ) < 2 ^ (w - 1) := by exact_mod_cast hlt
    rw [InWord, signed]
    split_ifs <;> omega
  rw [fromCharsInt, List.takeWhile_eq_self_iff.mpr h, if_pos hword]

/-- **What stands behind a bare numeral counts**: a further digit makes another number of it. -/
theorem fromCharsInt_bare_ne (h : Bare text)
    (hw : 10 ^ ((magnitude text).length + 1) ≤ 2 ^ (w - 1)) :
    fromCharsInt w (text ++ ['5']) ≠ fromCharsInt w text := by
  have hmagnitude : magnitude (text ++ ['5']) = magnitude text ++ ['5'] :=
    magnitude_append (.inr (by decide))
  have hbare : Bare (text ++ ['5']) := by
    intro ch hmem
    rw [hmagnitude] at hmem
    rcases List.mem_append.mp hmem with hmem | hmem
    · exact h ch hmem
    · rw [List.mem_singleton.mp hmem]
      rfl
  have hlonger : 10 ^ (magnitude (text ++ ['5'])).length ≤ 2 ^ (w - 1) := by
    rwa [hmagnitude, List.length_append, List.length_singleton]
  have hshorter : 10 ^ (magnitude text).length ≤ 2 ^ (w - 1) :=
    (Nat.pow_le_pow_right (by decide) (Nat.le_succ _)).trans hw
  have hvalue : digitsValue (magnitude text ++ ['5']) = 10 * digitsValue (magnitude text) + 5 :=
    digitsValue_concat h (by decide)
  have hnonempty : (magnitude text ++ ['5']).isEmpty = false := by simp
  rw [fromCharsInt_bare hbare hlonger, fromCharsInt_bare h hshorter, hmagnitude, hnonempty, hvalue,
    if_neg Bool.false_ne_true, signed, negative_append (.inr (by decide)), signed]
  split_ifs
  · simp
  · simp
    omega
  · simp
  · simp
    omega

end Numerals

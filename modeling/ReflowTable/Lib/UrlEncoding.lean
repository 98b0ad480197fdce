import Mathlib.Data.List.Basic

/-!
# URL decoding

The decoding of form data: a plus is a space, a percent sign with two hexadecimal digits behind
it is the byte they spell, and everything else is itself, also a percent sign without digits.

A text of characters has an escape exactly when its bytes have one, as long as the encoding spells
letters of either kind as themselves (`Alphabet.hasEscape_flatMap`).
-/

namespace UrlEncoding

/-! ## Escapes -/

/-- The letters of an alphabet that make escapes. -/
structure Alphabet (α : Type*) where
  percent : α → Bool
  hexDigit : α → Bool

namespace Alphabet

variable {α β : Type*} (A : Alphabet α) (B : Alphabet β)

/-- Two digits come next. -/
def startsDigits : List α → Bool
  | hi :: lo :: _ => A.hexDigit hi && A.hexDigit lo
  | _ => false

/-- A percent sign has two digits behind it. -/
def hasEscape : List α → Bool
  | [] => false
  | a :: l => A.percent a && A.startsDigits l || hasEscape l

/-- A letter that neither begins nor continues an escape. -/
def Inert (a : α) : Prop := A.percent a = false ∧ A.hexDigit a = false

/-- A letter is spelt by one of its own kind, or, an inert one, by several that make no escape. -/
inductive Spells (a : α) : List β → Prop
  | same {b : β} (percent : B.percent b = A.percent a) (hexDigit : B.hexDigit b = A.hexDigit a) :
      Spells a [b]
  | inert {b : β} {rest : List β} (letter : A.Inert a) (head : B.Inert b)
      (tail : ∀ x ∈ rest, B.percent x = false) : Spells a (b :: rest)

variable {A B}

theorem hasEscape_append_of_forall {p : List α} (hp : ∀ a ∈ p, A.percent a = false) (l : List α) :
    A.hasEscape (p ++ l) = A.hasEscape l := by
  induction p with
  | nil => rfl
  | cons a p ih =>
    have ha : A.percent a = false := hp a List.mem_cons_self
    rw [List.cons_append, hasEscape, ha, Bool.false_and, Bool.false_or]
    exact ih fun x hx => hp x (List.mem_cons_of_mem a hx)

theorem startsDigits_cons_of_not {a : α} (ha : A.hexDigit a = false) (l : List α) :
    A.startsDigits (a :: l) = false := by
  cases l with
  | nil => rfl
  | cons lo l => rw [startsDigits, ha, Bool.false_and]

theorem startsDigits_append_cons (l : List α) {b : α} (hb : A.hexDigit b = false) (q : List α) :
    A.startsDigits (l ++ b :: q) = A.startsDigits l := by
  cases l with
  | nil => cases q <;> simp [startsDigits, hb]
  | cons hi l =>
    cases l with
    | nil => simp [startsDigits, hb]
    | cons lo l => rfl

/-- An escape does not reach beyond a letter that is no digit. -/
theorem hasEscape_append_cons (l : List α) {b : α} (hb : A.hexDigit b = false) (q : List α) :
    A.hasEscape (l ++ b :: q) = (A.hasEscape l || A.hasEscape (b :: q)) := by
  induction l with
  | nil => rfl
  | cons a l ih =>
    rw [List.cons_append, hasEscape, ih, startsDigits_append_cons l hb, ← Bool.or_assoc]
    rfl

/-! ### Spelling -/

variable {f : α → List β}

theorem startsDigits_flatMap (hf : ∀ a, Spells A B a (f a)) (l : List α) :
    B.startsDigits (l.flatMap f) = A.startsDigits l := by
  cases l with
  | nil => rfl
  | cons hi l =>
    rw [List.flatMap_cons]
    have hspelt := hf hi
    generalize f hi = spelt at hspelt ⊢
    cases hspelt with
    | inert letter head tail =>
      rw [List.cons_append, startsDigits_cons_of_not head.2, startsDigits_cons_of_not letter.2]
    | same _ hhi =>
      cases l with
      | nil => rfl
      | cons lo l =>
        rw [List.flatMap_cons, startsDigits]
        have hspelt := hf lo
        generalize f lo = spelt at hspelt ⊢
        cases hspelt with
        | inert letter head tail =>
          show (B.hexDigit _ && B.hexDigit _) = _
          rw [head.2, letter.2, Bool.and_false, Bool.and_false]
        | same _ hlo =>
          show (B.hexDigit _ && B.hexDigit _) = _
          rw [hhi, hlo]

/-- **Spelling makes no escape and undoes none.** -/
theorem hasEscape_flatMap (hf : ∀ a, Spells A B a (f a)) (l : List α) :
    B.hasEscape (l.flatMap f) = A.hasEscape l := by
  induction l with
  | nil => rfl
  | cons a l ih =>
    have hdigits := startsDigits_flatMap hf l
    rw [List.flatMap_cons, hasEscape]
    have hspelt := hf a
    generalize f a = spelt at hspelt ⊢
    cases hspelt with
    | same hpercent _ =>
      rw [List.singleton_append, hasEscape, hpercent, hdigits, ih]
    | inert letter head tail =>
      have hplain : ∀ x ∈ _ :: _, B.percent x = false := List.forall_mem_cons.mpr ⟨head.1, tail⟩
      rw [hasEscape_append_of_forall hplain, letter.1, Bool.false_and, Bool.false_or, ih]

end Alphabet

def unicode : Alphabet Char where
  percent c := c == '%'
  hexDigit := Char.isHexDigit

/-- Bytes, as the characters of their numbers. -/
def ascii : Alphabet UInt8 where
  percent b := unicode.percent (Char.ofUInt8 b)
  hexDigit b := unicode.hexDigit (Char.ofUInt8 b)

/-! ## Decoding -/

def plusToSpace (b : UInt8) : UInt8 := if b = 0x2b then 0x20 else b

/-- The value of a hexadecimal digit. -/
def digitValue (b : UInt8) : UInt8 :=
  if b ≤ 0x39 then b - 0x30 else if b ≤ 0x46 then b - 0x41 + 10 else b - 0x61 + 10

def decode : List UInt8 → List UInt8
  | b :: hi :: lo :: l =>
    if ascii.percent b && ascii.startsDigits (hi :: lo :: l) then
      (digitValue hi * 16 + digitValue lo) :: decode l
    else plusToSpace b :: decode (hi :: lo :: l)
  | l => l.map plusToSpace

/-- Without escapes only the plus signs change. -/
theorem decode_of_not_hasEscape {l : List UInt8} (h : ascii.hasEscape l = false) :
    decode l = l.map plusToSpace := by
  fun_induction decode l with
  | case1 b hi lo l hescape _ =>
    rw [Alphabet.hasEscape, hescape, Bool.true_or] at h
    cases h
  | case2 b hi lo l _ ih =>
    rw [Alphabet.hasEscape, Bool.or_eq_false_iff] at h
    rw [ih h.2]
    rfl
  | case3 l _ => rfl

theorem length_decode_le (l : List UInt8) : (decode l).length ≤ l.length := by
  fun_induction decode l with
  | case1 b hi lo l _ ih =>
    simp only [List.length_cons]
    omega
  | case2 b hi lo l _ ih =>
    simp only [List.length_cons] at ih ⊢
    omega
  | case3 l _ => exact Nat.le_of_eq (List.length_map _)

/-- An escape makes the text shorter. -/
theorem length_decode_lt {l : List UInt8} (h : ascii.hasEscape l = true) :
    (decode l).length < l.length := by
  fun_induction decode l with
  | case1 b hi lo l _ _ =>
    have hle := length_decode_le l
    simp only [List.length_cons]
    omega
  | case2 b hi lo l hescape ih =>
    rw [Alphabet.hasEscape, Bool.or_eq_true] at h
    have hrest := ih (h.resolve_left hescape)
    simp only [List.length_cons] at hrest ⊢
    omega
  | case3 l hshort =>
    match l, hshort, h with
    | [], _, h => cases h
    | [b], _, h => simp [Alphabet.hasEscape, Alphabet.startsDigits] at h
    | [b, b'], _, h => simp [Alphabet.hasEscape, Alphabet.startsDigits] at h
    | b :: hi :: lo :: l, hshort, _ => exact absurd rfl (hshort b hi lo l)

/-! ## Texts in UTF-8 -/

def utf8 (text : List Char) : List UInt8 := text.flatMap String.utf8EncodeChar

/-- `plusToSpace` on characters. -/
def spaced (c : Char) : Char := if c = '+' then ' ' else c

theorem utf8EncodeChar_of_lt {c : Char} (h : c.toNat < 0x80) :
    String.utf8EncodeChar c = [.ofNat c.toNat] := by
  unfold String.utf8EncodeChar
  exact if_pos (Nat.le_of_lt_succ h)

theorem le_ofNat {n : ℕ} (h : 0x80 ≤ n) (hlt : n < 0x100) : (0x80 : UInt8) ≤ .ofNat n := by
  rw [UInt8.le_iff_toNat_le, UInt8.toNat_ofNat_of_lt' hlt]
  exact h

/-- The bytes of a character beyond ASCII are beyond ASCII. -/
theorem utf8EncodeChar_of_le {c : Char} (h : 0x80 ≤ c.toNat) :
    ∀ b ∈ String.utf8EncodeChar c, 0x80 ≤ b := by
  have hv : c.toNat = c.val.toNat := rfl
  fun_cases String.utf8EncodeChar c with
  | case1 v hle => omega
  | case2 v _ _ =>
    simp only [List.forall_mem_cons]
    exact ⟨le_ofNat (by omega) (by omega), le_ofNat (by omega) (by omega), List.forall_mem_nil _⟩
  | case3 v _ _ _ =>
    simp only [List.forall_mem_cons]
    exact ⟨le_ofNat (by omega) (by omega), le_ofNat (by omega) (by omega),
      le_ofNat (by omega) (by omega), List.forall_mem_nil _⟩
  | case4 v _ _ _ =>
    simp only [List.forall_mem_cons]
    exact ⟨le_ofNat (by omega) (by omega), le_ofNat (by omega) (by omega),
      le_ofNat (by omega) (by omega), le_ofNat (by omega) (by omega), List.forall_mem_nil _⟩

theorem inert_of_le {c : Char} (h : 0x80 ≤ c.toNat) : unicode.Inert c := by
  constructor
  · show (c == '%') = false
    rw [beq_eq_false_iff_ne]
    rintro rfl
    exact absurd h (by decide)
  · show c.isHexDigit = false
    simp only [Char.isHexDigit, Char.isDigit, Bool.or_eq_false_iff, Bool.and_eq_false_iff,
      decide_eq_false_iff_not, ge_iff_le, UInt32.le_iff_toNat_le]
    have hv : c.toNat = c.val.toNat := rfl
    refine ⟨⟨.inr ?_, .inr ?_⟩, .inr ?_⟩
    · show ¬ c.val.toNat ≤ 57
      omega
    · show ¬ c.val.toNat ≤ 102
      omega
    · show ¬ c.val.toNat ≤ 70
      omega

theorem inert_byte_of_le {b : UInt8} (h : 0x80 ≤ b) : ascii.Inert b :=
  inert_of_le (c := Char.ofUInt8 b) (UInt8.le_iff_toNat_le.mp h)

theorem ofUInt8_ofNat {c : Char} (h : c.toNat < 0x80) : Char.ofUInt8 (.ofNat c.toNat) = c := by
  apply Char.ext
  apply UInt32.toNat_inj.mp
  show (UInt8.ofNat c.toNat).toNat = c.val.toNat
  exact UInt8.toNat_ofNat_of_lt' (Nat.lt_trans h (by decide))

theorem spells_utf8EncodeChar (c : Char) :
    Alphabet.Spells unicode ascii c (String.utf8EncodeChar c) := by
  by_cases h : c.toNat < 0x80
  · rw [utf8EncodeChar_of_lt h]
    have hchar := ofUInt8_ofNat h
    exact .same (congrArg unicode.percent hchar) (congrArg unicode.hexDigit hchar)
  · have hle : 0x80 ≤ c.toNat := Nat.le_of_not_lt h
    have hbytes := utf8EncodeChar_of_le hle
    obtain ⟨b, rest, hcons⟩ := List.exists_cons_of_ne_nil (String.utf8EncodeChar_ne_nil (c := c))
    rw [hcons, List.forall_mem_cons] at hbytes
    rw [hcons]
    exact .inert (inert_of_le hle) (inert_byte_of_le hbytes.1) fun x hx =>
      (inert_byte_of_le (hbytes.2 x hx)).1

theorem map_plusToSpace_utf8EncodeChar (c : Char) :
    (String.utf8EncodeChar c).map plusToSpace = String.utf8EncodeChar (spaced c) := by
  by_cases hplus : c = '+'
  · rw [hplus]
    rfl
  · have hspaced : spaced c = c := if_neg hplus
    rw [hspaced]
    -- none of the bytes is a plus
    have hne : ∀ b ∈ String.utf8EncodeChar c, plusToSpace b = b := by
      intro b hb
      apply if_neg
      rintro rfl
      by_cases h : c.toNat < 0x80
      · rw [utf8EncodeChar_of_lt h, List.mem_singleton] at hb
        apply hplus
        rw [← ofUInt8_ofNat h, ← hb]
        rfl
      · exact absurd (utf8EncodeChar_of_le (Nat.le_of_not_lt h) _ hb) (by decide)
    rw [List.map_congr_left hne, List.map_id']

theorem hasEscape_utf8 (text : List Char) :
    ascii.hasEscape (utf8 text) = unicode.hasEscape text :=
  Alphabet.hasEscape_flatMap spells_utf8EncodeChar text

theorem decode_utf8 {text : List Char} (h : unicode.hasEscape text = false) :
    decode (utf8 text) = utf8 (text.map spaced) := by
  rw [← hasEscape_utf8] at h
  rw [decode_of_not_hasEscape h, utf8, List.map_flatMap, utf8, List.flatMap_map]
  simp only [map_plusToSpace_utf8EncodeChar]

theorem length_decode_utf8_lt {text : List Char} (h : unicode.hasEscape text = true) :
    (decode (utf8 text)).length < (utf8 text).length := by
  rw [← hasEscape_utf8] at h
  exact length_decode_lt h

end UrlEncoding

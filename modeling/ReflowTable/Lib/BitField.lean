import Mathlib.Data.Nat.Bitwise
import Mathlib.Tactic.NormNum

/-!
# Bit fields of a word

A field of `bits` bits that starts at bit `shift` of a word is read by shifting first and
masking then. Masking first loses the top `shift` bits of the field. The lemmas say what is
left, and when nothing is lost.
-/

namespace BitField

/-- The mask of the low `bits` bits. -/
def lowMask (bits : ℕ) : ℕ := 2 ^ bits - 1

theorem lowMask_lt {bits width : ℕ} (h : bits ≤ width) : lowMask bits < 2 ^ width :=
  (Nat.sub_lt (Nat.two_pow_pos bits) Nat.one_pos).trans_le (Nat.pow_le_pow_right Nat.two_pos h)

/-- One more bit. -/
theorem lowMask_or (bits : ℕ) : lowMask bits ||| 1 <<< bits = lowMask (bits + 1) := by
  have hadd := Nat.two_pow_add_eq_or_of_lt (lowMask_lt (Nat.le_refl bits)) 1
  rw [Nat.mul_one] at hadd
  have hpos := Nat.two_pow_pos bits
  rw [Nat.shiftLeft_eq, Nat.one_mul, Nat.or_comm, ← hadd, lowMask, lowMask, Nat.pow_succ]
  omega

/-- Masking first keeps the low `bits - shift` bits of the field. -/
theorem mod_div (word bits shift : ℕ) :
    word % 2 ^ bits / 2 ^ shift = word / 2 ^ shift % 2 ^ bits % 2 ^ (bits - shift) := by
  rw [Nat.mod_mod_of_dvd _ (Nat.pow_dvd_pow 2 (Nat.sub_le bits shift))]
  rcases Nat.le_total shift bits with hle | hle
  · obtain ⟨rest, rfl⟩ := Nat.exists_eq_add_of_le hle
    rw [Nat.add_sub_cancel_left, Nat.pow_add, Nat.mod_mul_right_div_self]
  · -- the whole field is lost
    have hlt : word % 2 ^ bits < 2 ^ shift :=
      (Nat.mod_lt _ (Nat.two_pow_pos bits)).trans_le (Nat.pow_le_pow_right Nat.two_pos hle)
    rw [Nat.div_eq_of_lt hlt, Nat.sub_eq_zero_of_le hle, Nat.pow_zero, Nat.mod_one]

/-- A field inside the low `width` bits does not see the others. -/
theorem field_mod {bits shift width : ℕ} (h : bits + shift ≤ width) (word : ℕ) :
    word % 2 ^ width / 2 ^ shift % 2 ^ bits = word / 2 ^ shift % 2 ^ bits := by
  obtain ⟨rest, rfl⟩ := Nat.exists_eq_add_of_le h
  rw [Nat.add_assoc, Nat.add_left_comm, Nat.pow_add 2 shift, Nat.mod_mul_right_div_self,
    Nat.mod_mod_of_dvd _ (Nat.pow_dvd_pow 2 (Nat.le_add_right bits rest))]

/-- The low part of an unsigned field is the field exactly when the rest is zero. -/
theorem toNat_eq_mod_iff {bits : ℕ} (field : BitVec bits) (kept : ℕ) :
    field.toNat = field.toNat % 2 ^ kept ↔ field.toNat < 2 ^ kept := by
  rw [eq_comm, Nat.mod_eq_iff_lt (Nat.two_pow_pos kept).ne']

/-- The low part of a signed field is the field exactly when the rest and the sign are zero. -/
theorem toInt_eq_mod_iff {bits : ℕ} (hbits : 1 ≤ bits) (field : BitVec bits) (shift : ℕ) :
    field.toInt = (field.toNat % 2 ^ (bits - shift) : ℕ) ↔
      field.toNat < 2 ^ (bits - max 1 shift) := by
  have hhalf : 2 ^ bits = 2 * 2 ^ (bits - 1) := by
    rw [← Nat.pow_succ', Nat.succ_eq_add_one, Nat.sub_add_cancel hbits]
  have hmin : field.toNat < 2 ^ (bits - max 1 shift) ↔
      field.toNat < 2 ^ (bits - 1) ∧ field.toNat < 2 ^ (bits - shift) := by
    rcases Nat.le_total 1 shift with hle | hle
    · rw [Nat.max_eq_right hle]
      exact (and_iff_right_of_imp fun hlt =>
        hlt.trans_le (Nat.pow_le_pow_right Nat.two_pos (Nat.sub_le_sub_left hle bits))).symm
    · rw [Nat.max_eq_left hle]
      exact (and_iff_left_of_imp fun hlt =>
        hlt.trans_le (Nat.pow_le_pow_right Nat.two_pos (Nat.sub_le_sub_left hle bits))).symm
  rw [hmin, ← toNat_eq_mod_iff field (bits - shift)]
  have hlt := field.isLt
  have hle := Nat.zero_le (field.toNat % 2 ^ (bits - shift))
  -- a field with its sign bit set is negative, and the remainder is not
  rw [BitVec.toInt_eq_toNat_cond]
  split_ifs <;> omega

end BitField

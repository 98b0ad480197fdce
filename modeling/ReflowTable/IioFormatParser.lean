import Mathlib
import ReflowTable.Lib.BitField
import ReflowTable.Types

/-!
# The IIO format parser

The value side of `iio_format_parser.hpp`. A parser holds a format such as `be:s13/16>>3`: a
13-bit signed field, 3 bits up in a 16-bit sample. `parseValue` masks the sample first and
shifts it then, in a type as wide as the sample; of the endian types only the value they hold
matters here.

`processConcreteTag` is a template over two such types. It is a function of their width and
signedness.
-/

namespace ReflowTable

inductive Endian
  | Big
  | Little
deriving DecidableEq

structure InternalFormatHolder where
  endian : Endian
  isSigned : Bool
  valueBits : UInt8
  totalBits : UInt8
  shift : UInt8
deriving DecidableEq

structure FormatParser where
  parserPosition : ℕ
  formatHolder : Option InternalFormatHolder

namespace FormatParser

/-- The value of an integer type with these bits. -/
def valueOf (isSigned : Bool) {width : ℕ} (bits : BitVec width) : ℤ :=
  if isSigned then bits.toInt else bits.toNat

/-- `1 << mask`, converted to `std::uint32_t`. -/
def shiftedOne (mask : ℕ) : Except Fault UInt32 :=
  if mask < 32 then .ok (.ofNat (1 <<< mask)) else .error .undefinedShift

/-- The body of the loop, for the masks below a bound. -/
def createBitmaskTo (bound : ℕ) : Except Fault UInt32 :=
  (List.range bound).foldlM (fun bitmask mask => do return bitmask ||| (← shiftedOne mask)) 0

def createBitmask (valueBits : UInt8) : Except Fault UInt32 := createBitmaskTo valueBits.toNat

/-- `>>` on a value promoted to 32 bits. -/
def shiftRight (value : ℤ) (shift : UInt8) : Except Fault ℤ :=
  if shift.toNat < 32 then .ok (value >>> shift.toNat) else .error .undefinedShift

def processConcreteTag (width : ℕ) (isSigned : Bool) (formatHolder : InternalFormatHolder)
    (value : UInt32) : Except Fault (Option String) := do
  let bitValue : BitVec width := .ofNat width value.toNat
  let bitmask ← createBitmask formatHolder.valueBits
  let bitValue := bitValue &&& .ofNat width bitmask.toNat
  -- the masked value is promoted, shifted, and cut back to the type
  let shifted ← shiftRight (valueOf isSigned bitValue) formatHolder.shift
  let native := BitVec.ofInt width shifted
  return some (toString (valueOf isSigned native))

/-- `EndianTag` only picks the byte order in which the value is kept. -/
def processEndian (_endianTag : Endian) (formatHolder : InternalFormatHolder) (value : UInt32) :
    Except Fault (Option String) :=
  if formatHolder.isSigned then
    match formatHolder.totalBits with
    | 8 => processConcreteTag 8 true formatHolder value
    | 16 => processConcreteTag 16 true formatHolder value
    | 32 => processConcreteTag 32 true formatHolder value
    | _ => .ok none
  else
    match formatHolder.totalBits with
    | 8 => processConcreteTag 8 false formatHolder value
    | 16 => processConcreteTag 16 false formatHolder value
    | 32 => processConcreteTag 32 false formatHolder value
    | _ => .ok none

def internalParseImpl (formatHolder : InternalFormatHolder) (value : UInt32) :
    Except Fault (Option String) :=
  match formatHolder.endian with
  | .Big => processEndian .Big formatHolder value
  | .Little => processEndian .Little formatHolder value

def parseValue (value : UInt32) (p : FormatParser) : Except Fault (Option String) :=
  match p.formatHolder with
  | none => .ok none
  | some formatHolder => internalParseImpl formatHolder value

/-! ## What the decoder computes -/

theorem createBitmaskTo_succ (bound : ℕ) :
    createBitmaskTo (bound + 1) = do
      let bitmask ← createBitmaskTo bound
      return bitmask ||| (← shiftedOne bound) := by
  simp [createBitmaskTo, List.range_succ, List.foldlM_append]

theorem createBitmaskTo_eq {bound : ℕ} (h : bound ≤ 32) :
    createBitmaskTo bound = .ok (.ofNat (BitField.lowMask bound)) := by
  induction bound with
  | zero => rfl
  | succ bound ih =>
    rw [createBitmaskTo_succ, ih (Nat.le_of_succ_le h), shiftedOne, if_pos (Nat.lt_of_succ_le h),
      ← BitField.lowMask_or, UInt32.ofNat_or]
    rfl

/-- A value whose sign bit is clear, or that has none. -/
theorem valueOf_eq_toNat {isSigned : Bool} {width : ℕ} (bits : BitVec width)
    (h : isSigned = true → 2 * bits.toNat < 2 ^ width) : valueOf isSigned bits = bits.toNat := by
  unfold valueOf
  split_ifs with hsigned
  · exact BitVec.toInt_eq_toNat_of_lt (h hsigned)
  · rfl

/-- The mask of `valueBits` bits on a `width`-bit value. -/
theorem toNat_masked {bits width : ℕ} (hbits : bits ≤ width) (hwidth : width ≤ 32) (value : ℕ) :
    (BitVec.ofNat width value &&& BitVec.ofNat width
      (UInt32.ofNat (BitField.lowMask bits)).toNat).toNat = value % 2 ^ bits := by
  rw [BitVec.toNat_and, BitVec.toNat_ofNat, BitVec.toNat_ofNat,
    UInt32.toNat_ofNat_of_lt' (BitField.lowMask_lt (hbits.trans hwidth)),
    Nat.mod_eq_of_lt (BitField.lowMask_lt hbits), BitField.lowMask, Nat.and_two_pow_sub_one_eq_mod,
    Nat.mod_mod_of_dvd _ (Nat.pow_dvd_pow 2 hbits)]

/-- A sample of this format can be decoded. -/
structure Decodable (formatHolder : InternalFormatHolder) : Prop where
  width : formatHolder.totalBits = 8 ∨ formatHolder.totalBits = 16 ∨ formatHolder.totalBits = 32
  field : 1 ≤ formatHolder.valueBits.toNat
  fits : formatHolder.valueBits.toNat + formatHolder.shift.toNat ≤ formatHolder.totalBits.toNat

/-- The field of a sample: its low `totalBits` bits, shifted, and their low `valueBits` bits. -/
def sampleField (formatHolder : InternalFormatHolder) (value : UInt32) :
    BitVec formatHolder.valueBits.toNat :=
  (BitVec.ofNat formatHolder.totalBits.toNat value.toNat >>> formatHolder.shift.toNat).setWidth _

/-- The IIO sample. -/
def sample (formatHolder : InternalFormatHolder) (value : UInt32) : ℤ :=
  valueOf formatHolder.isSigned (sampleField formatHolder value)

/-- The sample the decoder gets: a field as wide as its type is read correctly, any other one
without its top `shift` bits and its sign. -/
def decoded (formatHolder : InternalFormatHolder) (value : UInt32) : ℤ :=
  if formatHolder.isSigned ∧ formatHolder.valueBits = formatHolder.totalBits then
    sample formatHolder value
  else
    ((sampleField formatHolder value).toNat %
      2 ^ (formatHolder.valueBits.toNat - formatHolder.shift.toNat) : ℕ)

/-- A masked value is not negative, so the shift drops bits only. -/
theorem valueOf_shifted {isSigned : Bool} {bits width value : ℕ} {bitValue : BitVec width}
    (hbits : bits ≤ width) (hsign : isSigned = true → bits < width)
    (hmasked : bitValue.toNat = value % 2 ^ bits) (shift : ℕ) :
    valueOf isSigned (BitVec.ofInt width (valueOf isSigned bitValue >>> shift)) =
      (value % 2 ^ bits / 2 ^ shift : ℕ) := by
  have hlow : ∀ {n : ℕ}, n < 2 ^ bits → isSigned = true → 2 * n < 2 ^ width := by
    intro n hn hsigned
    have hpow := Nat.pow_le_pow_right Nat.two_pos (hsign hsigned)
    rw [Nat.pow_succ] at hpow
    omega
  have hmasked_lt : value % 2 ^ bits < 2 ^ bits := Nat.mod_lt _ (Nat.two_pow_pos bits)
  have hkept_lt : value % 2 ^ bits / 2 ^ shift < 2 ^ bits :=
    (Nat.div_le_self _ _).trans_lt hmasked_lt
  have hkept : (BitVec.ofNat width (value % 2 ^ bits / 2 ^ shift)).toNat =
      value % 2 ^ bits / 2 ^ shift := by
    rw [BitVec.toNat_ofNat]
    exact Nat.mod_eq_of_lt (hkept_lt.trans_le (Nat.pow_le_pow_right Nat.two_pos hbits))
  rw [valueOf_eq_toNat bitValue (by rw [hmasked]; exact hlow hmasked_lt), hmasked,
    ← Int.natCast_shiftRight, Nat.shiftRight_eq_div_pow, BitVec.ofInt_natCast,
    valueOf_eq_toNat _ (by rw [hkept]; exact hlow hkept_lt), hkept]

theorem toNat_sampleField {formatHolder : InternalFormatHolder}
    (hfits : formatHolder.valueBits.toNat + formatHolder.shift.toNat ≤ formatHolder.totalBits.toNat)
    (value : UInt32) :
    (sampleField formatHolder value).toNat =
      value.toNat / 2 ^ formatHolder.shift.toNat % 2 ^ formatHolder.valueBits.toNat := by
  rw [sampleField, BitVec.toNat_setWidth, BitVec.toNat_ushiftRight, BitVec.toNat_ofNat,
    Nat.shiftRight_eq_div_pow, BitField.field_mod hfits]

/-- A signed field as wide as its type is the sample itself. -/
theorem sample_whole {formatHolder : InternalFormatHolder}
    (hsigned : formatHolder.isSigned = true)
    (hall : formatHolder.valueBits = formatHolder.totalBits)
    (hshift : formatHolder.shift.toNat = 0) (value : UInt32) :
    sample formatHolder value =
      (BitVec.ofNat formatHolder.totalBits.toNat value.toNat).toInt := by
  unfold sample sampleField valueOf
  rw [if_pos hsigned, hshift, BitVec.ushiftRight_zero, hall, BitVec.setWidth_eq]

/-- **What an instantiation computes.** -/
theorem processConcreteTag_eq {formatHolder : InternalFormatHolder}
    (hfits : formatHolder.valueBits.toNat + formatHolder.shift.toNat ≤ formatHolder.totalBits.toNat)
    (hwidth : formatHolder.totalBits.toNat ≤ 32) (hfield : 1 ≤ formatHolder.valueBits.toNat)
    (value : UInt32) :
    processConcreteTag formatHolder.totalBits.toNat formatHolder.isSigned formatHolder value =
      .ok (some (toString (decoded formatHolder value))) := by
  have hbits : formatHolder.valueBits.toNat ≤ formatHolder.totalBits.toNat := by omega
  have hmasked := toNat_masked hbits hwidth value.toNat
  have hshift : formatHolder.shift.toNat < 32 := by omega
  simp only [processConcreteTag, createBitmask, createBitmaskTo_eq (hbits.trans hwidth), shiftRight,
    if_pos hshift]
  show Except.ok (some (toString _)) = _
  congr 3
  rw [decoded]
  split_ifs with hwhole
  · -- the mask keeps every bit and nothing is shifted
    obtain ⟨hsigned, hall⟩ := hwhole
    have hnone : formatHolder.shift.toNat = 0 := by
      rw [hall] at hfits
      omega
    rw [sample_whole hsigned hall hnone, hnone]
    simp only [hall, hsigned, valueOf, if_true] at hmasked ⊢
    rw [Int.shiftRight_zero, BitVec.ofInt_toInt]
    congr 1
    exact BitVec.eq_of_toNat_eq (hmasked.trans (BitVec.toNat_ofNat ..).symm)
  · -- the mask clears the sign bit of the type
    have hsign : formatHolder.isSigned = true →
        formatHolder.valueBits.toNat < formatHolder.totalBits.toNat := fun hsigned =>
      hbits.lt_of_ne fun heq => hwhole ⟨hsigned, UInt8.toNat_inj.mp heq⟩
    rw [valueOf_shifted hbits hsign hmasked, toNat_sampleField hfits, BitField.mod_div]

theorem parseValue_of_some (parserPosition : ℕ) (formatHolder : InternalFormatHolder)
    (value : UInt32) :
    parseValue value ⟨parserPosition, some formatHolder⟩ =
      processEndian formatHolder.endian formatHolder value := by
  cases hendian : formatHolder.endian <;> simp only [parseValue, internalParseImpl, hendian]

/-- The widths that have a type. -/
def HasType (totalBits : UInt8) : Prop := totalBits = 8 ∨ totalBits = 16 ∨ totalBits = 32

theorem processEndian_of_hasType {formatHolder : InternalFormatHolder}
    (h : HasType formatHolder.totalBits) (endian : Endian) (value : UInt32) :
    processEndian endian formatHolder value =
      processConcreteTag formatHolder.totalBits.toNat formatHolder.isSigned formatHolder value := by
  rw [processEndian]
  rcases h with hw | hw | hw <;> rw [hw] <;> cases formatHolder.isSigned <;> rfl

theorem processEndian_of_not_hasType {formatHolder : InternalFormatHolder}
    (h : ¬ HasType formatHolder.totalBits) (endian : Endian) (value : UInt32) :
    processEndian endian formatHolder value = .ok none := by
  rw [HasType, not_or, not_or] at h
  rw [processEndian]
  split_ifs
  · split <;> simp_all
  · split <;> simp_all

/-- **What `parseValue` computes**, in either byte order. -/
theorem parseValue_eq {formatHolder : InternalFormatHolder} (h : Decodable formatHolder)
    (parserPosition : ℕ) (value : UInt32) :
    parseValue value ⟨parserPosition, some formatHolder⟩ =
      .ok (some (toString (decoded formatHolder value))) := by
  have hwidth : formatHolder.totalBits.toNat ≤ 32 := by
    rcases h.width with hw | hw | hw <;> rw [hw] <;> decide
  rw [← processConcreteTag_eq h.fits hwidth h.field value]
  rw [parseValue_of_some, processEndian_of_hasType h.width]

/-- The bits at the top of a field that get lost: those shifted out behind the mask, and at least
the sign. -/
def droppedBits (formatHolder : InternalFormatHolder) : ℕ :=
  if formatHolder.isSigned then max 1 formatHolder.shift.toNat else formatHolder.shift.toNat

/-- A signed field fills its type, or the bits that get lost are zero. -/
def FieldSurvives (formatHolder : InternalFormatHolder) (value : UInt32) : Prop :=
  (formatHolder.isSigned = true ∧ formatHolder.valueBits = formatHolder.totalBits) ∨
    (sampleField formatHolder value).toNat <
      2 ^ (formatHolder.valueBits.toNat - droppedBits formatHolder)

theorem decoded_eq_sample_iff {formatHolder : InternalFormatHolder} (h : Decodable formatHolder)
    (value : UInt32) :
    decoded formatHolder value = sample formatHolder value ↔ FieldSurvives formatHolder value := by
  unfold decoded FieldSurvives
  by_cases hwhole : formatHolder.isSigned = true ∧ formatHolder.valueBits = formatHolder.totalBits
  · rw [if_pos hwhole]
    exact iff_of_true rfl (.inl hwhole)
  · rw [if_neg hwhole, or_iff_right hwhole, eq_comm, sample, valueOf, droppedBits]
    cases formatHolder.isSigned with
    | true =>
      rw [if_pos rfl, if_pos rfl]
      exact BitField.toInt_eq_mod_iff h.field _ _
    | false =>
      rw [if_neg Bool.false_ne_true, if_neg Bool.false_ne_true, Int.natCast_inj]
      exact BitField.toNat_eq_mod_iff _ _

/-- **When a sample is decoded correctly**, in either byte order. -/
theorem parseValue_eq_sample_iff {formatHolder : InternalFormatHolder}
    (h : Decodable formatHolder) (parserPosition : ℕ) (value : UInt32) :
    (parseValue value ⟨parserPosition, some formatHolder⟩ =
        .ok (some (toString (sample formatHolder value))) ↔ FieldSurvives formatHolder value) ∧
      ∀ endian, parseValue value ⟨parserPosition, some { formatHolder with endian := endian }⟩ =
        parseValue value ⟨parserPosition, some formatHolder⟩ := by
  refine ⟨?_, fun endian => ?_⟩
  · rw [parseValue_eq h, ← decoded_eq_sample_iff h, Except.ok.injEq, Option.some.injEq]
    exact Int.repr_inj
  · have h' : Decodable { formatHolder with endian := endian } := ⟨h.width, h.field, h.fits⟩
    rw [parseValue_eq h, parseValue_eq h']
    rfl

/-- The format of the thermocouple, `be:s13/16>>3`. -/
def thermocoupleFormat : InternalFormatHolder := ⟨.Big, true, 13, 16, 3⟩

/-- A small positive sample. -/
theorem parseValue_eq_sample_iff_thermocouple :
    parseValue 172 ⟨0, some thermocoupleFormat⟩ = .ok (some "21") ∧
      (parseValue 172 ⟨0, some thermocoupleFormat⟩ =
          .ok (some (toString (sample thermocoupleFormat 172))) ↔
        FieldSurvives thermocoupleFormat 172) ∧
      ∀ endian, parseValue 172 ⟨0, some { thermocoupleFormat with endian := endian }⟩ =
        parseValue 172 ⟨0, some thermocoupleFormat⟩ :=
  ⟨by decide +kernel, parseValue_eq_sample_iff ⟨by decide, by decide, by decide⟩ 0 172⟩

/-- The sample `-1` of the thermocouple comes out as `1023`. -/
theorem parseValue_thermocouple_negative :
    Decodable thermocoupleFormat ∧ sample thermocoupleFormat 0xFFF8 = -1 ∧
      parseValue 0xFFF8 ⟨0, some thermocoupleFormat⟩ = .ok (some "1023") ∧
      parseValue 0xFFF8 ⟨0, some thermocoupleFormat⟩ ≠
        .ok (some (toString (sample thermocoupleFormat 0xFFF8))) :=
  ⟨⟨by decide, by decide, by decide⟩, by decide, by decide +kernel, by decide +kernel⟩

end FormatParser

end ReflowTable

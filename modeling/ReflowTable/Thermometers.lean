import ReflowTable.IioFormat
import ReflowTable.Lib.SignedNumerals

/-!
# The thermometers of the target

`thermocouple_sysfs_impl.cpp` and `surrounding_sensor_arm_target.cpp`. Each reads a file that the
kernel fills with a number and a newline into an array of ten characters, which is not initialised,
and ends the text one character too late: behind the last character read there is one that was on
the stack. A newline keeps it out of the number.

The thermocouple decodes its number with the format parser, the other sensor divides its by 1000.
Neither can do so with negative temperatures.
-/

namespace ReflowTable

/-- What ends `getRawData` other than a return. -/
inductive SensorException
  /-- `std::runtime_error` of `readFrom` -/
  | read (what : String)
  /-- `std::runtime_error` after `std::from_chars` -/
  | fromChars (error : Numerals.Errc)
  /-- a write behind the end of the array, which the language leaves undefined -/
  | overrun
  | parser (fault : Fault)
  /-- `std::bad_optional_access` -/
  | badOptionalAccess
  /-- `boost::bad_lexical_cast` -/
  | badLexicalCast
deriving DecidableEq

/-! ## The file -/

def kBufferSize : ℕ := 10

/-- The array on the stack, with whatever it holds. -/
abbrev StackBuffer := Vector Char kBufferSize

/-- `FileRaiiGuard::readFrom`: the file from its beginning, as far as there is room, over the
front of the array. A `read` that fails answers `none`. -/
def readFrom (file : Option (List Char)) (buffer : StackBuffer) :
    Except SensorException (ℕ × StackBuffer) :=
  match file with
  | none => .error (.read "READ from file failed with code:-1")
  | some content =>
    .ok (min kBufferSize content.length, .ofFn fun i => (content[i.val]?).getD buffer[i])

/-- The zero goes one behind the first character that was not read. -/
def terminate (dataSize : ℕ) (buffer : StackBuffer) : Except SensorException StackBuffer :=
  if h : dataSize + 1 < kBufferSize then .ok (buffer.set (dataSize + 1) '\x00' h)
  else .error .overrun

/-- The characters in front of a zero. -/
def upToZero (chars : List Char) : List Char := chars.takeWhile (· ≠ '\x00')

/-- `std::string_view` of the array. -/
def view (buffer : StackBuffer) : List Char := upToZero buffer.toList

/-- `std::from_chars`, and the exception for its error. -/
def numberOf (text : List Char) : Except SensorException Int32 :=
  match Numerals.fromCharsInt 32 text with
  | .error error => .error (.fromChars error)
  | .ok result => .ok (.ofInt result)

/-- What both sensors begin with. -/
def readNumber (buffer : StackBuffer) (file : Option (List Char)) :
    Except SensorException Int32 := do
  let (dataSize, data) ← readFrom file buffer
  let data ← terminate dataSize data
  numberOf (view data)

/-! ## The sensors -/

namespace ThermocoupleDataProvider

def kThermocoupleDataFormat : String := "be:s13/16>>3"

/-- The constructor, on a parser as `new` left it. -/
def make (formatParser : FormatParser) : Except Fault FormatParser :=
  ((FormatParser.setFormat kThermocoupleDataFormat.toList).run formatParser).map Prod.snd

/-- `lexicalCast` is `boost::lexical_cast<std::int32_t>`, `none` when it throws. -/
def getRawData (lexicalCast : String → Option Int32) (formatParser : FormatParser)
    (buffer : StackBuffer) (file : Option (List Char)) : Except SensorException Int32 := do
  let result ← readNumber buffer file
  match formatParser.parseValue result.toUInt32 with
  | .error fault => .error (.parser fault)
  | .ok none => .error .badOptionalAccess
  | .ok (some correctedResult) =>
    match lexicalCast correctedResult with
    | none => .error .badLexicalCast
    | some number => return number

end ThermocoupleDataProvider

namespace SurroundingTemperatureSensor

def kDivisionCoeff : UInt32 := 1000

/-- The quotient is one of `std::uint32_t`, to which the number is converted. -/
def getRawData (buffer : StackBuffer) (file : Option (List Char)) :
    Except SensorException Int32 := do
  let result ← readNumber buffer file
  return (result.toUInt32 / kDivisionCoeff).toInt32

end SurroundingTemperatureSensor

/-! ## What is read

The number is that of the content and of the stale character behind it, up to a zero. -/

variable {content : List Char} {buffer : StackBuffer}

/-- The character behind the content. -/
def staleChar (content : List Char) (buffer : StackBuffer) : Char :=
  (buffer[content.length]?).getD '\x00'

theorem upToZero_append_zero (chars rest : List Char) :
    upToZero (chars ++ '\x00' :: rest) = upToZero chars := by
  induction chars with
  | nil => rfl
  | cons ch chars ih =>
    by_cases hzero : ch = '\x00'
    · simp [upToZero, hzero]
    · simpa [upToZero, hzero] using ih

theorem upToZero_of_not_mem {chars : List Char} (h : '\x00' ∉ chars) : upToZero chars = chars := by
  rw [upToZero, List.takeWhile_eq_self_iff]
  intro ch hmem
  simp only [ne_eq, decide_not, Bool.not_eq_true', decide_eq_false_iff_not]
  rintro rfl
  exact h hmem

/-- Behind a zero nothing is read. -/
theorem upToZero_append_of_mem {chars : List Char} (h : '\x00' ∈ chars) (rest : List Char) :
    upToZero (chars ++ rest) = upToZero chars := by
  obtain ⟨pre, post, rfl⟩ := List.append_of_mem h
  rw [List.append_assoc, List.cons_append, upToZero_append_zero, upToZero_append_zero]

variable (buffer) in
/-- The array when the text is read. -/
theorem exists_toList_terminated (h : content.length + 1 < kBufferSize) :
    ∃ rest, ((Vector.ofFn fun i : Fin kBufferSize => (content[i.val]?).getD buffer[i]).set
      (content.length + 1) '\x00' h).toList =
        (content ++ [staleChar content buffer]) ++ '\x00' :: rest := by
  let chars := ((Vector.ofFn fun i : Fin kBufferSize => (content[i.val]?).getD buffer[i]).set
      (content.length + 1) '\x00' h).toList
  have hlength : chars.length = kBufferSize := Vector.length_toList
  have hfront : chars.take (content.length + 2) =
      content ++ [staleChar content buffer] ++ ['\x00'] := by
    refine List.ext_getElem (by simp [hlength]; omega) fun i hi hi' => ?_
    have hlt : i < content.length + 2 := by
      rw [List.length_take] at hi
      omega
    simp only [chars, List.getElem_take, Vector.getElem_toList, Vector.getElem_set,
      Vector.getElem_ofFn]
    -- in the content, just behind it, or at the zero
    rcases Nat.lt_trichotomy i content.length with hin | rfl | hbehind
    · rw [if_neg (by omega), List.getElem_append_left (by simp; omega),
        List.getElem_append_left hin, List.getElem?_eq_getElem hin]
      rfl
    · have hroom : content.length < kBufferSize := Nat.lt_of_succ_lt h
      simp [staleChar, hroom]
    · obtain rfl : i = content.length + 1 := by omega
      simp
  refine ⟨chars.drop (content.length + 2), ?_⟩
  calc chars = chars.take (content.length + 2) ++ chars.drop (content.length + 2) :=
        (List.take_append_drop _ _).symm
    _ = _ := by rw [hfront, List.append_assoc]; rfl

/-- **What a call reads** of a short file. -/
theorem readNumber_of_short (h : content.length + 1 < kBufferSize) (buffer : StackBuffer) :
    readNumber buffer (some content) =
      numberOf (upToZero (content ++ [staleChar content buffer])) := by
  obtain ⟨rest, hchars⟩ := exists_toList_terminated buffer h
  let data : StackBuffer := .ofFn fun i => (content[i.val]?).getD buffer[i]
  have hsize : min kBufferSize content.length = content.length :=
    Nat.min_eq_right (Nat.le_of_succ_le (Nat.le_of_lt h))
  have hterminate : terminate content.length data =
      .ok (data.set (content.length + 1) '\x00' h) := dif_pos h
  have hread : readNumber buffer (some content) =
      (terminate content.length data).bind fun data => numberOf (view data) := by
    rw [readNumber, readFrom, hsize]
    rfl
  rw [hread, hterminate, ← upToZero_append_zero _ rest, ← hchars]
  rfl

/-- A longer one makes it write behind the array. -/
theorem readNumber_of_long (h : kBufferSize ≤ content.length + 1) (buffer : StackBuffer) :
    readNumber buffer (some content) = .error .overrun := by
  let data : StackBuffer := .ofFn fun i => (content[i.val]?).getD buffer[i]
  have hsize : ¬ min kBufferSize content.length + 1 < kBufferSize := by
    have hten : kBufferSize = 10 := rfl
    omega
  have hterminate : terminate (min kBufferSize content.length) data = .error .overrun :=
    dif_neg hsize
  have hread : readNumber buffer (some content) =
      (terminate (min kBufferSize content.length) data).bind fun data => numberOf (view data) := rfl
  rw [hread, hterminate]
  rfl

/-- The content makes the stack forgotten: a zero or something other than a numeral is in it. -/
def Settled (content : List Char) : Prop :=
  content.length + 1 < kBufferSize ∧ ('\x00' ∈ content ∨ ¬ Numerals.Bare content)

instance (content : List Char) : Decidable (Settled content) :=
  inferInstanceAs (Decidable (_ ∧ _))

/-- What is read then. -/
theorem readNumber_of_settled (h : Settled content) (buffer : StackBuffer) :
    readNumber buffer (some content) = numberOf (upToZero content) := by
  rw [readNumber_of_short h.1]
  by_cases hzero : '\x00' ∈ content
  · rw [upToZero_append_of_mem hzero]
  · have hbare := h.2.resolve_left hzero
    have hcontent : upToZero content = content := upToZero_of_not_mem hzero
    rw [hcontent]
    by_cases hstale : staleChar content buffer = '\x00'
    · rw [hstale, upToZero_append_zero, hcontent]
    · have hall : upToZero (content ++ [staleChar content buffer]) =
          content ++ [staleChar content buffer] := by
        refine upToZero_of_not_mem fun hmem => ?_
        rcases List.mem_append.mp hmem with hmem | hmem
        · exact hzero hmem
        · exact hstale (List.mem_singleton.mp hmem).symm
      rw [hall, numberOf, numberOf, Numerals.fromCharsInt_append hbare]

/-- A word that is an `int` keeps its value as one. -/
theorem toInt_toInt32_of_lt {word : UInt32} (h : word.toNat < 2 ^ 31) :
    word.toInt32.toInt = word.toNat := by
  have hsmall : 2 * word.toBitVec.toNat < 2 ^ 32 := by
    show 2 * word.toNat < 2 ^ 32
    omega
  exact BitVec.toInt_eq_toNat_of_lt hsmall

theorem toInt_ofInt {n : ℤ} (h : Numerals.InWord 32 n) : (Int32.ofInt n).toInt = n :=
  Int32.toInt_ofInt_of_le h.1 h.2

/-- The conversion to `std::uint32_t`. -/
theorem toNat_toUInt32_ofInt (n : ℤ) : ((Int32.ofInt n).toUInt32.toNat : ℤ) = n % 2 ^ 32 := by
  show ((BitVec.ofInt 32 n).toNat : ℤ) = n % 2 ^ 32
  rw [BitVec.toNat_ofInt]
  omega

/-- A stack full of one character. -/
def filled (ch : Char) : StackBuffer := .replicate kBufferSize ch

theorem staleChar_filled (h : content.length + 1 < kBufferSize) (ch : Char) :
    staleChar content (filled ch) = ch := by
  have hlt : content.length < kBufferSize := Nat.lt_of_succ_lt h
  simp [staleChar, filled, hlt]

theorem numberOf_injective {text text' : List Char} (h : numberOf text = numberOf text') :
    Numerals.fromCharsInt 32 text = Numerals.fromCharsInt 32 text' := by
  unfold numberOf at h
  cases hread : Numerals.fromCharsInt 32 text with
  | error error =>
    cases hread' : Numerals.fromCharsInt 32 text' with
    | error error' => simpa [hread, hread'] using h
    | ok number' => simp [hread, hread'] at h
  | ok number =>
    cases hread' : Numerals.fromCharsInt 32 text' with
    | error error' => simp [hread, hread'] at h
    | ok number' =>
      have hword := Numerals.inWord_of_fromCharsInt hread
      have hword' := Numerals.inWord_of_fromCharsInt hread'
      simp only [hread, hread', Except.ok.injEq] at h
      have hint := congrArg Int32.toInt h
      rw [toInt_ofInt hword, toInt_ofInt hword'] at hint
      rw [hint]

/-- **When a call reads the file and nothing else.** Whatever the stack held, the result is the
same and no write leaves the array, if and only if the file has at most eight characters and is
more than a bare numeral. -/
theorem readNumber_settled_iff (content : List Char) :
    (∃ result, result ≠ .error .overrun ∧
        ∀ buffer, readNumber buffer (some content) = result) ↔ Settled content := by
  constructor
  · rintro ⟨result, hresult, hread⟩
    have hshort : content.length + 1 < kBufferSize := by
      by_contra hlong
      exact hresult ((hread (filled ' ')).symm.trans
        (readNumber_of_long (Nat.not_lt.mp hlong) _))
    refine ⟨hshort, ?_⟩
    by_contra hnot
    rw [not_or, not_not] at hnot
    obtain ⟨hzero, hbare⟩ := hnot
    -- with a zero behind it and with a digit
    have hsame := (hread (filled '5')).trans (hread (filled '\x00')).symm
    rw [readNumber_of_short hshort, readNumber_of_short hshort, staleChar_filled hshort,
      staleChar_filled hshort, upToZero_append_zero, upToZero_of_not_mem hzero,
      upToZero_of_not_mem (by simp [hzero])] at hsame
    have hdigits : (Numerals.magnitude content).length + 1 ≤ 9 := by
      have hle := Numerals.length_magnitude_le content
      have hten : kBufferSize = 10 := rfl
      omega
    have hword : 10 ^ ((Numerals.magnitude content).length + 1) ≤ 2 ^ (32 - 1) :=
      (Nat.pow_le_pow_right (by decide) hdigits).trans (by decide)
    exact Numerals.fromCharsInt_bare_ne hbare hword (numberOf_injective hsame)
  · intro h
    refine ⟨numberOf (upToZero content), ?_, readNumber_of_settled h⟩
    unfold numberOf
    split <;> simp

/-! ## What the kernel writes -/

/-- A number and a newline. -/
def sysfsText (raw : ℤ) : List Char := Numerals.numeral raw ++ ['\n']

theorem settled_sysfsText {raw : ℤ} (h : (sysfsText raw).length + 1 < kBufferSize) :
    Settled (sysfsText raw) := by
  refine ⟨h, .inr fun hbare => ?_⟩
  have hnewline : '\n' ∈ Numerals.magnitude (sysfsText raw) := by
    rw [sysfsText, (Numerals.parts_numeral raw ['\n']).1]
    simp
  exact absurd (hbare '\n' hnewline) (by decide)

theorem zero_not_mem_sysfsText (raw : ℤ) : '\x00' ∉ sysfsText raw := by
  have hdecimal : '\x00' ∉ Numerals.decimal 0 raw.natAbs := Numerals.not_mem_decimal (by decide)
  rw [sysfsText, Numerals.numeral]
  split_ifs <;> simp [hdecimal]

/-- A number whose text is short enough is small enough. -/
theorem inWord_of_short {raw : ℤ} (h : (sysfsText raw).length + 1 < kBufferSize) :
    Numerals.InWord 32 raw := by
  have hdigits : (Nat.toDigits 10 raw.natAbs).length ≤ 7 := by
    have hten : kBufferSize = 10 := rfl
    have hlength : (Nat.toDigits 10 raw.natAbs).length ≤ (Numerals.numeral raw).length := by
      rw [Numerals.numeral]
      split_ifs <;> simp [Numerals.decimal]
    rw [sysfsText, List.length_append, List.length_singleton] at h
    omega
  have hsmall := (Nat.length_toDigits_le_iff (by decide) (by decide)).mp hdigits
  constructor
  · omega
  · omega

/-- **The number the kernel wrote is read**, whatever the stack held. -/
theorem readNumber_sysfsText {raw : ℤ} (h : (sysfsText raw).length + 1 < kBufferSize)
    (buffer : StackBuffer) : readNumber buffer (some (sysfsText raw)) = .ok (.ofInt raw) := by
  have hread : Numerals.fromCharsInt 32 (sysfsText raw) = .ok raw :=
    Numerals.fromCharsInt_numeral (inWord_of_short h) (by simp)
  rw [readNumber_of_settled (settled_sysfsText h), upToZero_of_not_mem (zero_not_mem_sysfsText raw),
    numberOf, hread]

/-! ## What the sensors make of it -/

namespace ThermocoupleDataProvider

open FormatParser (thermocoupleFormat decoded sample)

/-- A number that the type holds is read when it is written in decimal. -/
def ReadsDecimal (lexicalCast : String → Option Int32) : Prop :=
  ∀ n : ℕ, n < 2 ^ 31 → lexicalCast (toString n) = some (.ofNat n)

variable {lexicalCast : String → Option Int32}

/-- The constructor leaves the format of the thermocouple, whatever the parser held. -/
theorem exists_make (formatParser : FormatParser) :
    ∃ pos, make formatParser = .ok ⟨pos, some thermocoupleFormat⟩ := by
  have htext : kThermocoupleDataFormat.toList =
      FormatParser.formatText 0 0 0 thermocoupleFormat := by decide +kernel
  obtain ⟨pos, hrun⟩ := FormatParser.setFormat_formatText 0 0 0 thermocoupleFormat formatParser
  refine ⟨pos, ?_⟩
  rw [make, htext, hrun]
  rfl

theorem decoded_thermocouple (value : UInt32) :
    decoded thermocoupleFormat value = (value.toNat / 8 % 1024 : ℕ) := by
  have hfield : (FormatParser.sampleField thermocoupleFormat value).toNat =
      value.toNat / 2 ^ 3 % 2 ^ 13 := FormatParser.toNat_sampleField (by decide) value
  have hmod : value.toNat / 2 ^ 3 % 2 ^ 13 % 2 ^ 10 = value.toNat / 8 % 1024 := by omega
  rw [decoded, if_neg (by decide), hfield]
  exact congrArg Nat.cast hmod

/-- What a call returns. -/
theorem getRawData_sysfsText (hreads : ReadsDecimal lexicalCast) {raw : ℤ}
    (h : (sysfsText raw).length + 1 < kBufferSize) (pos : ℕ) (buffer : StackBuffer) :
    getRawData lexicalCast ⟨pos, some thermocoupleFormat⟩ buffer (some (sysfsText raw)) =
      .ok (.ofInt ((Int32.ofInt raw).toUInt32.toNat / 8 % 1024 : ℕ)) := by
  have hparse : FormatParser.parseValue (Int32.ofInt raw).toUInt32
      ⟨pos, some thermocoupleFormat⟩ =
        .ok (some (toString (decoded thermocoupleFormat (Int32.ofInt raw).toUInt32))) :=
    FormatParser.parseValue_eq ⟨by decide, by decide, by decide⟩ pos _
  have hcast : lexicalCast (toString (decoded thermocoupleFormat (Int32.ofInt raw).toUInt32)) =
      some (.ofNat ((Int32.ofInt raw).toUInt32.toNat / 8 % 1024)) := by
    rw [decoded_thermocouple]
    exact hreads _ (by omega)
  rw [getRawData, readNumber_sysfsText h]
  simp only [bind, Except.bind, hparse, hcast]
  rfl

/-- **When the thermocouple is read correctly.** The constructor sets the format it is given, and a
call then returns ten bits of the sample the kernel prints, whatever the stack held. They are the
temperature exactly of samples from `0` to `1023`: greater ones are taken mod `1024`, and negative
ones lose their sign. -/
theorem getRawData_eq_sample_iff (hreads : ReadsDecimal lexicalCast) (formatParser : FormatParser)
    (raw : UInt16) :
    ∃ parser, make formatParser = .ok parser ∧
      (∀ buffer, getRawData lexicalCast parser buffer (some (sysfsText raw.toNat)) =
        .ok (.ofInt (raw.toNat / 8 % 1024 : ℕ))) ∧
      ((raw.toNat / 8 % 1024 : ℕ) = sample thermocoupleFormat raw.toUInt32 ↔
        raw.toNat < 1024 * 8) := by
  obtain ⟨pos, hmake⟩ := exists_make formatParser
  have hraw : raw.toNat < 2 ^ 16 := raw.toNat_lt
  have hshort : (sysfsText raw.toNat).length + 1 < kBufferSize := by
    have hdigits : (Nat.toDigits 10 raw.toNat).length ≤ 5 :=
      (Nat.length_toDigits_le_iff (by decide) (by decide)).mpr (by omega)
    have hten : kBufferSize = 10 := rfl
    rw [sysfsText, Numerals.numeral, if_neg (by omega), Int.natAbs_natCast, Numerals.decimal]
    simp
    omega
  have hvalue : (Int32.ofInt raw.toNat).toUInt32.toNat = raw.toNat := by
    have hmod := toNat_toUInt32_ofInt raw.toNat
    omega
  refine ⟨_, hmake, fun buffer => ?_, ?_⟩
  · rw [getRawData_sysfsText hreads hshort, hvalue]
  · have hdecoded := decoded_thermocouple raw.toUInt32
    rw [UInt16.toNat_toUInt32] at hdecoded
    rw [← hdecoded, FormatParser.decoded_eq_sample_iff ⟨by decide, by decide, by decide⟩,
      FormatParser.FieldSurvives, or_iff_right (by decide),
      FormatParser.toNat_sampleField (by decide), UInt16.toNat_toUInt32]
    show raw.toNat / 2 ^ 3 % 2 ^ 13 < 2 ^ (13 - 3) ↔ _
    omega

/-- A cast to run the model with. -/
def sampleCast (text : String) : Option Int32 := (numberOf text.toList).toOption

theorem readsDecimal_sampleCast : ReadsDecimal sampleCast := by
  intro n hn
  have hword : Numerals.InWord 32 n := by
    constructor <;> omega
  have htext : (toString n).toList = Numerals.numeral n ++ [] := by
    rw [Numerals.numeral, if_neg (by omega), Int.natAbs_natCast, Numerals.decimal,
      List.replicate_zero, List.nil_append, List.append_nil]
    exact Nat.toList_repr
  rw [sampleCast, numberOf, htext, Numerals.fromCharsInt_numeral hword (by simp)]
  rfl

/-- A sample of 21 degrees. -/
theorem getRawData_eq_sample_iff_warm :
    ∃ parser, make ⟨0, none⟩ = .ok parser ∧
      (∀ buffer, getRawData sampleCast parser buffer (some (sysfsText 172)) = .ok 21) ∧
      ((21 : ℤ) = sample thermocoupleFormat 172 ↔ 172 < 1024 * 8) :=
  getRawData_eq_sample_iff readsDecimal_sampleCast ⟨0, none⟩ 172

end ThermocoupleDataProvider

namespace SurroundingTemperatureSensor

theorem getRawData_sysfsText {raw : ℤ} (h : (sysfsText raw).length + 1 < kBufferSize)
    (buffer : StackBuffer) : getRawData buffer (some (sysfsText raw)) =
      .ok ((Int32.ofInt raw).toUInt32 / kDivisionCoeff).toInt32 := by
  rw [getRawData, readNumber_sysfsText h]
  rfl

theorem toInt_quotient (value : UInt32) :
    (value / kDivisionCoeff).toInt32.toInt = (value.toNat / 1000 : ℕ) := by
  have hquotient : (value / kDivisionCoeff).toNat = value.toNat / 1000 := UInt32.toNat_div ..
  have hlt := value.toNat_lt
  rw [toInt_toInt32_of_lt (by omega), hquotient]

/-- **When the surrounding temperature is read correctly.** The kernel prints thousandths of a
degree. The whole degrees come back, whatever the stack held, exactly if it does not freeze. -/
theorem getRawData_eq_degrees_iff (milli : ℤ) (h : (sysfsText milli).length + 1 < kBufferSize) :
    (∀ buffer, getRawData buffer (some (sysfsText milli)) = .ok (.ofInt (milli.tdiv 1000))) ↔
      0 ≤ milli := by
  have hword := inWord_of_short h
  have hvalue := toNat_toUInt32_ofInt milli
  have hreturned := toInt_quotient (Int32.ofInt milli).toUInt32
  rw [Numerals.InWord] at hword
  constructor
  · intro hread
    by_contra hneg
    have hsame := (hread (filled ' ')).symm.trans (getRawData_sysfsText h (filled ' '))
    have hint := congrArg Int32.toInt (Except.ok.inj hsame)
    -- the degrees are not positive, the quotient is
    have hdegrees : milli.tdiv 1000 = -((-milli) / 1000) := by
      rw [← Int.tdiv_eq_ediv_of_nonneg (by omega), Int.neg_tdiv, Int.neg_neg]
    have hfits : Numerals.InWord 32 (milli.tdiv 1000) := by
      rw [hdegrees]
      constructor <;> omega
    rw [toInt_ofInt hfits, hreturned, hdegrees] at hint
    omega
  · intro hnonneg buffer
    have hdegrees : milli.tdiv 1000 = milli / 1000 := Int.tdiv_eq_ediv_of_nonneg hnonneg
    have hfits : Numerals.InWord 32 (milli.tdiv 1000) := by
      rw [hdegrees]
      constructor <;> omega
    rw [getRawData_sysfsText h]
    refine congrArg Except.ok (Int32.toInt_inj.mp ?_)
    rw [hreturned, toInt_ofInt hfits, hdegrees]
    omega

/-- A warm room. -/
theorem getRawData_eq_degrees_iff_warm :
    (∀ buffer, getRawData buffer (some (sysfsText 23437)) = .ok (.ofInt 23)) ↔ (0 : ℤ) ≤ 23437 :=
  getRawData_eq_degrees_iff 23437 (by decide)

/-- A degree below zero. -/
example : getRawData (filled ' ') (some (sysfsText (-1000))) = .ok 4294966 := by decide +kernel

end SurroundingTemperatureSensor

end ReflowTable

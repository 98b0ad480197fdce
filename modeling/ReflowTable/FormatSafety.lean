import ReflowTable.IioFormat

/-!
# Format texts of any shape

`setFormat` on arbitrary texts, one after the other. It completes on each of them, and the last
alone decides what the parser holds; one that is turned down leaves no format. What the accepted
texts leave is not always something the decoder can handle: any number of value bits passes, and
the mask is built with a shift by each of them.
-/

namespace ReflowTable

namespace FormatParser

/-! ## Iterators

`getEndian` and `isSigned` walk an iterator. Written out with every `*it`, which is allowed
before the end only, they are the same functions. -/

/-- `*it`; at the end it is undefined, here it throws. -/
def dereference (text : List Char) (it : ℕ) : Except Fault Char :=
  match text[it]? with
  | some ch => .ok ch
  | none => .error .outOfRange

def getEndianByIterator (sourceString : List Char) : ParserM (Option Endian) := do
  let it := 0
  if it = sourceString.length then return none
  let currentToken ← dereference sourceString it
  if currentToken = 'b' ∨ currentToken = 'l' then
    let it := it + 1
    if it = sourceString.length then return none
    if (← dereference sourceString it) ≠ 'e' then return none
    modify fun p => { p with parserPosition := it }
    return some (if currentToken = 'b' then .Big else .Little)
  return none

def isSignedByIterator (sourceString : List Char) : ParserM (Option Bool) := do
  let it := 0
  if it = sourceString.length then return none
  let it := it + 1
  if it = sourceString.length then return none
  let it := it + 1
  if it = sourceString.length then return none
  advance it
  return some ((← dereference sourceString it) = 's')

theorem getEndianByIterator_eq (sourceString : List Char) :
    getEndianByIterator sourceString = getEndian sourceString := by
  match sourceString with
  | [] => rfl
  | [currentToken] =>
    show (if _ then _ else _) = _
    by_cases htoken : currentToken = 'b' ∨ currentToken = 'l'
    · rw [if_pos htoken]
      rfl
    · rw [if_neg htoken]
      rfl
  | currentToken :: it :: rest =>
    show (if _ then _ else _) = _
    by_cases htoken : currentToken = 'b' ∨ currentToken = 'l'
    · rw [if_pos htoken, getEndian, if_pos htoken]
      rfl
    · rw [if_neg htoken, getEndian, if_neg htoken]

theorem isSignedByIterator_eq (sourceString : List Char) :
    isSignedByIterator sourceString = isSigned sourceString := by
  match sourceString with
  | [] => rfl
  | [_] => rfl
  | [_, _] => rfl
  | _ :: _ :: it :: rest => rfl

/-! ## Safety -/

variable {text part : List Char} {p : FormatParser}

/-- Without a format nothing is decoded. -/
theorem parseValue_of_none (value : UInt32) (pos : ℕ) :
    parseValue value ⟨pos, none⟩ = .ok none := rfl

/-- A session of format texts: every one of them completes, and the last decides what the parser
holds. -/
theorem setFormats_run (texts : List (List Char)) (text : List Char) (p : FormatParser) :
    ∃ pos, pos ≤ text.length ∧
      ((texts ++ [text]).forM setFormat).run p = .ok ((), ⟨pos, formatOf text⟩) := by
  induction texts generalizing p with
  | nil =>
    obtain ⟨pos, hpos, hrun⟩ := setFormat_run text p
    refine ⟨pos, hpos, ?_⟩
    show (setFormat text >>= fun _ => pure ()).run p = _
    rw [run_bind_of_ok hrun]
    rfl
  | cons first texts ih =>
    obtain ⟨pos, -, hrun⟩ := setFormat_run first p
    show ∃ pos, pos ≤ text.length ∧
      (setFormat first >>= fun _ => (texts ++ [text]).forM setFormat).run p = _
    rw [run_bind_of_ok hrun]
    exact ih _

/-- **`setFormat` is safe on every text and leaves no stale format.** From any state and after any
texts it completes with the position in the text, the parser holds the five fields of this text
or nothing, and with nothing every value decodes to nothing. The two parsers that walk an
iterator read it before the end only. -/
theorem setFormat_safe (texts : List (List Char)) (text : List Char) (p : FormatParser) :
    (∀ part, getEndianByIterator part = getEndian part ∧
      isSignedByIterator part = isSigned part) ∧
    ∃ pos, pos ≤ text.length ∧
      ((texts ++ [text]).forM setFormat).run p = .ok ((), ⟨pos, formatOf text⟩) ∧
      (formatOf text = none → ∀ value, parseValue value ⟨pos, formatOf text⟩ = .ok none) := by
  refine ⟨fun part => ⟨getEndianByIterator_eq part, isSignedByIterator_eq part⟩, ?_⟩
  obtain ⟨pos, hpos, hrun⟩ := setFormats_run texts text p
  refine ⟨pos, hpos, hrun, fun hnone value => ?_⟩
  rw [hnone]
  exact parseValue_of_none value pos

/-! ## The shifts of the decoder -/

/-- No value makes a shift out of range. -/
def ShiftsDefined (p : FormatParser) : Prop :=
  ∀ value, ∃ decoded, p.parseValue value = .ok decoded

/-- Only the digit at the end of the text is read of a shift. -/
theorem lastNumber_lt {shift : UInt8} (h : lastNumber part = some shift) : shift.toNat < 10 := by
  unfold lastNumber at h
  cases hrest : part.reverse.dropWhile (· = '>') with
  | nil =>
    rw [hrest] at h
    cases h
  | cons last front =>
    simp only [hrest] at h
    split_ifs at h with hdigit
    obtain ⟨-, hhigh⟩ := Char.isDigit_iff_toNat.mp hdigit
    have hnine : '9'.toNat = 57 := rfl
    have hvalue : Nat.ofDigitChars 10 [last] 0 = last.toNat - 48 := by
      simp [Nat.ofDigitChars_cons]
    have hword : last.toNat - 48 < 2 ^ 8 := by omega
    have hnot : ¬ ([last] = [] ∨ 2 ^ 8 ≤ last.toNat - 48) :=
      not_or.mpr ⟨List.cons_ne_nil _ _, Nat.not_le.mpr hword⟩
    rw [numberOfDigits, hvalue, if_neg hnot] at h
    rw [← Option.some.inj h, UInt8.toNat_ofNat_of_lt' hword]
    omega

theorem createBitmaskTo_of_lt {bound : ℕ} (h : 32 < bound) :
    createBitmaskTo bound = .error .undefinedShift := by
  induction bound with
  | zero => exact absurd h (by omega)
  | succ bound ih =>
    rw [createBitmaskTo_succ]
    by_cases hlt : 32 < bound
    · rw [ih hlt]
      rfl
    · -- the first mask that is out of range
      obtain rfl : bound = 32 := by omega
      rw [createBitmaskTo_eq (Nat.le_refl 32)]
      rfl

theorem formatOf_shift_lt {formatHolder : InternalFormatHolder}
    (h : formatOf text = some formatHolder) : formatHolder.shift.toNat < 10 := by
  simp only [formatOf, Option.bind_eq_bind, Option.bind_eq_some_iff] at h
  obtain ⟨endian, -, sign, -, value, -, total, -, shift, hshift, hformat⟩ := h
  cases hformat
  exact lastNumber_lt hshift

/-- The decoder shifts within range exactly when the mask does, or no type has the width. -/
theorem parseValue_ok_iff {formatHolder : InternalFormatHolder}
    (hshift : formatHolder.shift.toNat < 32) (pos : ℕ) (value : UInt32) :
    (∃ decoded, parseValue value ⟨pos, some formatHolder⟩ = .ok decoded) ↔
      (HasType formatHolder.totalBits → formatHolder.valueBits.toNat ≤ 32) := by
  rw [parseValue_of_some]
  by_cases htype : HasType formatHolder.totalBits
  · rw [processEndian_of_hasType htype, processConcreteTag, createBitmask]
    by_cases hbits : formatHolder.valueBits.toNat ≤ 32
    · refine iff_of_true ?_ fun _ => hbits
      simp only [createBitmaskTo_eq hbits, shiftRight, if_pos hshift]
      exact ⟨_, rfl⟩
    · have hlt : 32 < formatHolder.valueBits.toNat := by omega
      rw [createBitmaskTo_of_lt hlt]
      refine iff_of_false ?_ fun h => hbits (h htype)
      rintro ⟨_, ⟨⟩⟩
  · rw [processEndian_of_not_hasType htype]
    exact iff_of_true ⟨none, rfl⟩ fun h => absurd h htype

/-- **A text leaves a parser that can decode every value exactly when it asks for at most 32 value
bits or for a width that has no type.** The shift read from a text is below ten. -/
theorem setFormat_shifts_iff (text : List Char) (p : FormatParser) :
    ∃ pos, (setFormat text).run p = .ok ((), ⟨pos, formatOf text⟩) ∧
      (ShiftsDefined ⟨pos, formatOf text⟩ ↔
        ∀ formatHolder, formatOf text = some formatHolder →
          HasType formatHolder.totalBits → formatHolder.valueBits.toNat ≤ 32) := by
  obtain ⟨pos, -, hrun⟩ := setFormat_run text p
  refine ⟨pos, hrun, ?_⟩
  cases hformat : formatOf text with
  | none => exact iff_of_true (fun value => ⟨none, rfl⟩) fun _ h => by cases h
  | some formatHolder =>
    have hshift : formatHolder.shift.toNat < 32 := (formatOf_shift_lt hformat).trans (by decide)
    simp only [ShiftsDefined, parseValue_ok_iff hshift, forall_const, Option.some.injEq,
      forall_eq']

/-- A text with 33 value bits is accepted, and every value makes a shift by 32. -/
theorem setFormat_shift_out_of_range :
    (setFormat "be:s33/32>>0".toList).run ⟨0, none⟩ =
        .ok ((), ⟨9, some ⟨.Big, true, 33, 32, 0⟩⟩) ∧
      parseValue 1 ⟨9, some ⟨.Big, true, 33, 32, 0⟩⟩ = .error .undefinedShift ∧
      ¬ ∀ text formatHolder, formatOf text = some formatHolder →
        ∀ pos, ShiftsDefined ⟨pos, formatOf text⟩ := by
  have hvalue : parseValue 1 ⟨9, some ⟨.Big, true, 33, 32, 0⟩⟩ = .error .undefinedShift := by
    decide +kernel
  have hformat : formatOf "be:s33/32>>0".toList = some ⟨.Big, true, 33, 32, 0⟩ := by
    decide +kernel
  refine ⟨rfl, hvalue, fun hall => ?_⟩
  obtain ⟨decoded, hdecoded⟩ := hall _ _ hformat 9 1
  rw [hformat, hvalue] at hdecoded
  cases hdecoded

end FormatParser

end ReflowTable

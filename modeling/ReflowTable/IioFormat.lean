import ReflowTable.IioFormatParser
import ReflowTable.Lib.Numerals

/-!
# Setting an IIO format

The text side of `iio_format_parser.hpp`. `setFormat` runs five parsers over a format text.
Each gets the text from `m_parserPosition` on and moves the position to where the next one has
to look; the first parser that fails ends the attempt and leaves no format.

On any text and from any state `setFormat` completes, and leaves the five fields that stand at
their places in the text (`setFormat_run`).
-/

namespace ReflowTable

namespace FormatParser

/-- A member function that reads and writes the parser and may throw. -/
abbrev ParserM := StateT FormatParser (Except Fault)

/-! ## `std::string_view` -/

/-- `substr` of `count` characters. -/
def substr (text : List Char) (pos count : ℕ) : Except Fault (List Char) :=
  if pos ≤ text.length then .ok ((text.drop pos).take count) else .error .outOfRange

/-- `substr` to the end. -/
def substrFrom (text : List Char) (pos : ℕ) : Except Fault (List Char) :=
  substr text pos text.length

/-- `find_first_of` a character, `none` for `npos`. -/
def findFirstOf (ch : Char) (text : List Char) : Option ℕ := text.findIdx? (· == ch)

/-- `find_last_not_of` a character. -/
def findLastNotOf (ch : Char) (text : List Char) : Option ℕ :=
  (text.reverse.findIdx? (· != ch)).map fun behind => text.length - 1 - behind

/-! ## The parsers -/

/-- `m_parserPosition += distance`. -/
def advance (distance : ℕ) : ParserM Unit :=
  modify fun p => { p with parserPosition := p.parserPosition + distance }

def takeChunk (toOffset : List Char) : ParserM (List Char) := do
  substrFrom toOffset (← get).parserPosition

/-- Sets the position to the second letter. -/
def getEndian (sourceString : List Char) : ParserM (Option Endian) :=
  match sourceString with
  | currentToken :: it :: _ =>
    if currentToken = 'b' ∨ currentToken = 'l' then
      if it ≠ 'e' then return none
      else do
        modify fun p => { p with parserPosition := 1 }
        return some (if currentToken = 'b' then .Big else .Little)
    else return none
  | _ => return none

/-- Skips the letter before and the colon. -/
def isSigned (sourceString : List Char) : ParserM (Option Bool) :=
  match sourceString with
  | _ :: _ :: it :: _ => do
    advance 2
    return some (it = 's')
  | _ => return none

def extractValueFromSubstring (substringPart : List Char) : Option UInt8 :=
  match Numerals.fromChars 8 substringPart with
  | .error _ => none
  | .ok result => some (.ofNat result)

def getValueBits (sourceString : List Char) : ParserM (Option UInt8) :=
  match findFirstOf '/' sourceString with
  | none => return none
  | some bitsSubstrIdx => do
    let bitsSubstr ← substr sourceString 1 bitsSubstrIdx
    match Numerals.fromChars 8 bitsSubstr with
    | .error _ => return none
    | .ok result =>
      advance bitsSubstrIdx
      return some (.ofNat result)

/-- Moves the position before the number is read. -/
def getTotalBits (sourceString : List Char) : ParserM (Option UInt8) :=
  match findFirstOf '>' sourceString with
  | none => return none
  | some bitsSubstrIdx => do
    let bitsSubstr ← substr sourceString 1 bitsSubstrIdx
    advance bitsSubstrIdx
    return extractValueFromSubstring bitsSubstr

/-- Looks for the number from the end: at the last character that is no `>`. -/
def getBitshift (sourceString : List Char) : ParserM (Option UInt8) :=
  if sourceString.isEmpty then return none
  else
    match findLastNotOf '>' sourceString with
    | none => return none
    | some pos => do
      let expectedSubstr ← substrFrom sourceString pos
      return extractValueFromSubstring expectedSubstr

def setFormat (currentFormat : List Char) : ParserM Unit := do
  set (FormatParser.mk 0 none)
  let viewCopy := currentFormat
  let some endian ← getEndian (← takeChunk viewCopy) | return
  let some isSignedType ← isSigned (← takeChunk viewCopy) | return
  let some valueBits ← getValueBits (← takeChunk viewCopy) | return
  let some totalBits ← getTotalBits (← takeChunk viewCopy) | return
  let some bitShift ← getBitshift (← takeChunk viewCopy) | return
  modify fun p =>
    { p with formatHolder := some ⟨endian, isSignedType, valueBits, totalBits, bitShift⟩ }

/-! ## What a text says

The five fields by their places in the text and by their digits, with no function of the parser. -/

def endianOf : List Char → Option Endian
  | 'b' :: 'e' :: _ => some .Big
  | 'l' :: 'e' :: _ => some .Little
  | _ => none

/-- The number that these digits spell, if there are any and it has eight bits. -/
def numberOfDigits (digits : List Char) : Option UInt8 :=
  if digits = [] ∨ 2 ^ 8 ≤ Nat.ofDigitChars 10 digits 0 then none
  else some (.ofNat (Nat.ofDigitChars 10 digits 0))

/-- The leading digits of what stands between the first character of a part and the first `ch` in
it, with the place of that `ch`. -/
def numberBefore (ch : Char) (part : List Char) : Option (ℕ × UInt8) :=
  let front := part.takeWhile (· ≠ ch)
  if ch ∈ part then
    (numberOfDigits (front.tail.takeWhile Char.isDigit)).map fun bits => (front.length, bits)
  else none

/-- The last character other than `>`, which is to be a digit. -/
def lastNumber (part : List Char) : Option UInt8 :=
  match part.reverse.dropWhile (· = '>') with
  | [] => none
  | last :: _ => if last.isDigit then numberOfDigits [last] else none

def formatOf (text : List Char) : Option InternalFormatHolder := do
  let endian ← endianOf text
  let sign ← text[3]?
  let (slash, valueBits) ← numberBefore '/' (text.drop 3)
  let (greater, totalBits) ← numberBefore '>' (text.drop (3 + slash))
  let shift ← lastNumber (text.drop (3 + slash + greater))
  return ⟨endian, sign = 's', valueBits, totalBits, shift⟩

/-! ## Each parser on any part -/

variable {text part pre rest : List Char} {p : FormatParser}

/-! ### Numbers -/

theorem findFirstOf_lt {ch : Char} {idx : ℕ} (h : findFirstOf ch part = some idx) :
    idx < part.length := by
  rw [findFirstOf, List.findIdx?_eq_some_iff_getElem] at h
  exact h.1

theorem findLastNotOf_lt {ch : Char} {pos : ℕ} (h : findLastNotOf ch part = some pos) :
    pos < part.length := by
  rw [findLastNotOf, Option.map_eq_some_iff] at h
  obtain ⟨behind, hbehind, rfl⟩ := h
  rw [List.findIdx?_eq_some_iff_getElem] at hbehind
  have hlt := hbehind.1
  rw [List.length_reverse] at hlt
  omega

/-- `std::from_chars` reads the leading digits. -/
theorem extractValueFromSubstring_eq (part : List Char) :
    extractValueFromSubstring part = numberOfDigits (part.takeWhile Char.isDigit) := by
  have hvalue : Casts.digitsValue part = Nat.ofDigitChars 10 (part.takeWhile Char.isDigit) 0 := by
    rw [Casts.digitsValue, Nat.ofDigitChars_eq_foldl]
    rfl
  unfold extractValueFromSubstring Numerals.fromChars numberOfDigits
  rw [hvalue]
  by_cases hnone : part.takeWhile Char.isDigit = []
  · simp [hnone]
  · have hsome : (part.takeWhile Char.isDigit).isEmpty = false := by simpa using hnone
    rw [hsome, if_neg Bool.false_ne_true]
    by_cases hlt : Nat.ofDigitChars 10 (part.takeWhile Char.isDigit) 0 < 2 ^ 8
    · rw [if_pos hlt, if_neg (not_or.mpr ⟨hnone, Nat.not_le.mpr hlt⟩)]
    · rw [if_neg hlt, if_pos (.inr (Nat.not_lt.mp hlt))]

/-- A delimiter behind digits is none of them. -/
theorem takeWhile_isDigit_concat {ch : Char} (hch : ch.isDigit = false) (front : List Char) :
    (front ++ [ch]).takeWhile Char.isDigit = front.takeWhile Char.isDigit := by
  induction front with
  | nil => simp [hch]
  | cons first front ih =>
    rw [List.cons_append, List.takeWhile_cons, List.takeWhile_cons, ih]

theorem findFirstOf_of_not_mem {ch : Char} (h : ch ∉ part) : findFirstOf ch part = none := by
  rw [findFirstOf, List.findIdx?_eq_none_iff]
  intro other hmem
  exact beq_false_of_ne fun heq => h (heq ▸ hmem)

theorem findFirstOf_append {ch : Char} (h : ch ∉ pre) :
    findFirstOf ch (pre ++ ch :: rest) = some pre.length := by
  have hpre : pre.findIdx? (· == ch) = none := findFirstOf_of_not_mem h
  rw [findFirstOf, List.findIdx?_append, hpre]
  simp [List.findIdx?_cons]

theorem numberBefore_append {ch : Char} (h : ch ∉ pre) :
    numberBefore ch (pre ++ ch :: rest) =
      (numberOfDigits (pre.tail.takeWhile Char.isDigit)).map fun bits => (pre.length, bits) := by
  have hfront : (pre ++ ch :: rest).takeWhile (· ≠ ch) = pre := by
    have hpre : ∀ other ∈ pre, decide (other ≠ ch) = true := by
      intro other hmem
      exact decide_eq_true fun heq => h (heq ▸ hmem)
    rw [List.takeWhile_append_of_pos hpre, List.takeWhile_cons_of_neg (by simp), List.append_nil]
  rw [numberBefore, if_pos (List.mem_append_right pre List.mem_cons_self), hfront]

theorem numberBefore_of_not_mem {ch : Char} (h : ch ∉ part) : numberBefore ch part = none := by
  rw [numberBefore, if_neg h]

/-- A number behind one character, as the parsers look for it: with the delimiter, if there is
room for it. -/
theorem numberBefore_eq {ch : Char} (hch : ch.isDigit = false) (part : List Char) :
    numberBefore ch part = (findFirstOf ch part).bind fun idx =>
      (extractValueFromSubstring ((part.drop 1).take idx)).map fun bits => (idx, bits) := by
  by_cases hmem : ch ∈ part
  · obtain ⟨front, rest, rfl, hfront⟩ := List.eq_append_cons_of_mem hmem
    rw [numberBefore_append hfront, findFirstOf_append hfront, Option.bind_some,
      extractValueFromSubstring_eq]
    cases front with
    | nil => rfl
    | cons first front =>
      have htaken : ((first :: front ++ ch :: rest).drop 1).take (first :: front).length =
          front ++ [ch] := by
        simp [List.take_append]
      rw [htaken, takeWhile_isDigit_concat hch, List.tail_cons]
  · rw [numberBefore_of_not_mem hmem, findFirstOf_of_not_mem hmem]
    rfl

/-- The place of the delimiter of a number that was read. -/
theorem findFirstOf_of_numberBefore {ch : Char} {idx : ℕ} {bits : UInt8}
    (h : numberBefore ch part = some (idx, bits)) : findFirstOf ch part = some idx := by
  by_cases hmem : ch ∈ part
  · obtain ⟨front, rest, rfl, hfront⟩ := List.eq_append_cons_of_mem hmem
    rw [numberBefore_append hfront, Option.map_eq_some_iff] at h
    obtain ⟨_, -, heq⟩ := h
    rw [findFirstOf_append hfront, (Prod.mk.inj heq).1]
  · rw [numberBefore_of_not_mem hmem] at h
    cases h

theorem findLastNotOf_concat {ch last : Char} (h : last ≠ ch) :
    findLastNotOf ch (pre ++ [last]) = some pre.length := by
  simp [findLastNotOf, List.findIdx?_cons, h]

theorem findLastNotOf_concat_self (ch : Char) (pre : List Char) :
    findLastNotOf ch (pre ++ [ch]) = findLastNotOf ch pre := by
  simp only [findLastNotOf, List.reverse_append, List.reverse_singleton, List.singleton_append,
    List.findIdx?_cons, bne_self_eq_false, Bool.false_eq_true, if_false, Option.map_map,
    List.length_append, List.length_singleton]
  congr 1
  funext behind
  simp only [Function.comp_apply]
  omega

theorem lastNumber_concat_self (pre : List Char) : lastNumber (pre ++ ['>']) = lastNumber pre := by
  rw [lastNumber, List.reverse_append, List.reverse_singleton, List.singleton_append,
    List.dropWhile_cons_of_pos (by simp)]
  rfl

theorem lastNumber_concat {last : Char} (h : last ≠ '>') :
    lastNumber (pre ++ [last]) = if last.isDigit then numberOfDigits [last] else none := by
  rw [lastNumber, List.reverse_append, List.reverse_singleton, List.singleton_append,
    List.dropWhile_cons_of_neg (by simpa using h)]

/-- The number at the end, as the parser looks for it: with any `>` behind it. -/
theorem lastNumber_eq (part : List Char) :
    lastNumber part =
      (findLastNotOf '>' part).bind fun last => extractValueFromSubstring (part.drop last) := by
  induction part using List.reverseRecOn with
  | nil => rfl
  | append_singleton front last ih =>
    by_cases hlast : last = '>'
    · subst hlast
      rw [lastNumber_concat_self, findLastNotOf_concat_self, ih]
      cases hpos : findLastNotOf '>' front with
      | none => rfl
      | some pos =>
        rw [Option.bind_some, Option.bind_some, extractValueFromSubstring_eq,
          List.drop_append_of_le_length (findLastNotOf_lt hpos).le, extractValueFromSubstring_eq,
          takeWhile_isDigit_concat (by decide)]
    · rw [lastNumber_concat hlast, findLastNotOf_concat hlast, Option.bind_some, List.drop_left,
        extractValueFromSubstring_eq]
      cases hdigit : last.isDigit with
      | false => simp [hdigit, numberOfDigits]
      | true => simp [hdigit]

/-! ### Runs -/

/-- Sequential composition of two parsers. -/
theorem run_bind_of_ok {α β : Type} {x : ParserM α} {f : α → ParserM β} {p p' : FormatParser}
    {a : α} (h : x.run p = .ok (a, p')) : (x >>= f).run p = (f a).run p' := by
  rw [StateT.run_bind, h]
  rfl

theorem substr_of_le {pos count : ℕ} (h : pos ≤ part.length) :
    substr part pos count = .ok ((part.drop pos).take count) := if_pos h

/-- A part can be taken while the position is in the text. -/
theorem takeChunk_run {pos : ℕ} (hpos : pos ≤ text.length) :
    (takeChunk text).run ⟨pos, none⟩ = .ok (text.drop pos, ⟨pos, none⟩) := by
  have hsubstr : substrFrom text pos = .ok (text.drop pos) := by
    rw [substrFrom, substr_of_le hpos, List.take_of_length_le]
    rw [List.length_drop]
    omega
  show (do
    let toOffset ← substrFrom text pos
    pure (toOffset, FormatParser.mk pos none)) = _
  rw [hsubstr]
  rfl

theorem two_le_of_endianOf {endian : Endian} (h : endianOf part = some endian) :
    2 ≤ part.length := by
  unfold endianOf at h
  split at h
  · simp
  · simp
  · cases h

theorem endianOf_eq_none (hbig : ∀ rest, part ≠ 'b' :: 'e' :: rest)
    (hlittle : ∀ rest, part ≠ 'l' :: 'e' :: rest) : endianOf part = none := by
  unfold endianOf
  split
  · exact absurd rfl (hbig _)
  · exact absurd rfl (hlittle _)
  · rfl

theorem getEndian_run (part : List Char) (p : FormatParser) :
    (getEndian part).run p = .ok (endianOf part,
      { p with parserPosition := if (endianOf part).isSome then 1 else p.parserPosition }) := by
  match part with
  | [] => rfl
  | [currentToken] =>
    rw [endianOf_eq_none (by simp) (by simp)]
    rfl
  | currentToken :: it :: rest =>
    rw [getEndian]
    by_cases htoken : currentToken = 'b' ∨ currentToken = 'l'
    · rw [if_pos htoken]
      by_cases hit : it = 'e'
      · subst hit
        obtain rfl | rfl := htoken <;> rfl
      · rw [if_pos hit, endianOf_eq_none (by simp [hit]) (by simp [hit])]
        rfl
    · obtain ⟨hb, hl⟩ := not_or.mp htoken
      rw [if_neg htoken, endianOf_eq_none (by simp [hb]) (by simp [hl])]
      rfl

/-- The letter is the third character of its part. -/
theorem isSigned_run (part : List Char) (p : FormatParser) :
    (isSigned part).run p = .ok (part[2]?.map fun it => decide (it = 's'),
      { p with parserPosition := p.parserPosition + if part[2]?.isSome then 2 else 0 }) := by
  match part with
  | [] => rfl
  | [_] => rfl
  | [_, _] => rfl
  | _ :: _ :: _ :: rest => rfl

/-- `substr(1, n)` is taken where a delimiter was found, so the part is not empty. -/
theorem substr_one {ch : Char} {idx : ℕ} (h : findFirstOf ch part = some idx) :
    substr part 1 idx = .ok ((part.drop 1).take idx) := by
  have hlt := findFirstOf_lt h
  apply substr_of_le
  omega

theorem getValueBits_run (part : List Char) (p : FormatParser) :
    (getValueBits part).run p = .ok ((numberBefore '/' part).map Prod.snd,
      { p with parserPosition :=
        p.parserPosition + ((numberBefore '/' part).map Prod.fst).getD 0 }) := by
  rw [numberBefore_eq (by decide)]
  unfold getValueBits
  cases hslash : findFirstOf '/' part with
  | none => rfl
  | some bitsSubstrIdx =>
    simp only [substr_one hslash, Option.bind_some, extractValueFromSubstring]
    have hpart : (liftM (.ok ((part.drop 1).take bitsSubstrIdx) : Except Fault (List Char)) :
        ParserM (List Char)).run p = .ok ((part.drop 1).take bitsSubstrIdx, p) := rfl
    rw [run_bind_of_ok hpart]
    cases Numerals.fromChars 8 ((part.drop 1).take bitsSubstrIdx) <;> rfl

/-- The position moves whether the number can be read or not. -/
theorem getTotalBits_run (part : List Char) (p : FormatParser) :
    (getTotalBits part).run p = .ok ((numberBefore '>' part).map Prod.snd,
      { p with parserPosition := p.parserPosition + (findFirstOf '>' part).getD 0 }) := by
  rw [numberBefore_eq (by decide)]
  unfold getTotalBits
  cases hgreater : findFirstOf '>' part with
  | none => rfl
  | some bitsSubstrIdx =>
    simp only [substr_one hgreater, Option.bind_some, Option.map_map]
    show Except.ok (extractValueFromSubstring _, _) = _
    cases extractValueFromSubstring ((part.drop 1).take bitsSubstrIdx) <;> rfl

theorem getBitshift_run (part : List Char) (p : FormatParser) :
    (getBitshift part).run p = .ok (lastNumber part, p) := by
  rw [lastNumber_eq]
  unfold getBitshift
  cases hlast : findLastNotOf '>' part with
  | none =>
    split_ifs <;> rfl
  | some pos =>
    have hlt := findLastNotOf_lt hlast
    have hne : part.isEmpty = false := by
      rw [List.isEmpty_eq_false_iff, ← List.length_pos_iff]
      omega
    have hsubstr : substrFrom part pos = .ok (part.drop pos) := by
      rw [substrFrom, substr_of_le hlt.le, List.take_of_length_le]
      rw [List.length_drop]
      omega
    rw [hne, if_neg Bool.false_ne_true]
    simp only [hsubstr, Option.bind_some]
    rfl

/-! The position moves within the part. -/

theorem findFirstOf_getD_le (ch : Char) (part : List Char) :
    (findFirstOf ch part).getD 0 ≤ part.length := by
  cases hfirst : findFirstOf ch part with
  | none => exact Nat.zero_le _
  | some idx => exact (findFirstOf_lt hfirst).le

theorem numberBefore_getD_le (ch : Char) (part : List Char) :
    ((numberBefore ch part).map Prod.fst).getD 0 ≤ part.length := by
  cases hnumber : numberBefore ch part with
  | none => exact Nat.zero_le _
  | some found => exact (findFirstOf_lt (findFirstOf_of_numberBefore hnumber)).le

theorem add_le_of_drop {pos move : ℕ} (hpos : pos ≤ text.length)
    (hmove : move ≤ (text.drop pos).length) : pos + move ≤ text.length := by
  rw [List.length_drop] at hmove
  omega

/-! ## `setFormat` -/

/-- The rest of a `setFormat` completes from this place of the text: the position stays in the
text, and the parser holds this format. -/
def Sets (text : List Char) (pos : ℕ) (rest : ParserM Unit)
    (format? : Option InternalFormatHolder) : Prop :=
  ∃ pos', pos' ≤ text.length ∧ rest.run ⟨pos, none⟩ = .ok ((), ⟨pos', format?⟩)

/-- **One part of the text.** A parser looks for something in the text from its position on and
moves the position; what it misses ends the attempt. -/
theorem sets_part {α β : Type} {parser : List Char → ParserM (Option α)}
    {rest : Option α → ParserM Unit} {found? : Option β} {field : β → α}
    {format? : β → Option InternalFormatHolder} {pos : ℕ} (next : Option β → ℕ)
    (hstop : rest none = pure ()) (hpos : pos ≤ text.length)
    (hparser : (parser (text.drop pos)).run ⟨pos, none⟩ =
      .ok (found?.map field, ⟨next found?, none⟩))
    (hnext : next found? ≤ text.length)
    (hrest : ∀ found, found? = some found → next (some found) ≤ text.length →
      Sets text (next (some found)) (rest (some (field found))) (format? found)) :
    Sets text pos (do rest (← parser (← takeChunk text))) (found?.bind format?) := by
  unfold Sets
  rw [run_bind_of_ok (takeChunk_run hpos), run_bind_of_ok hparser]
  cases hfound : found? with
  | none =>
    rw [hfound] at hnext
    rw [Option.map_none, hstop]
    exact ⟨next none, hnext, rfl⟩
  | some found =>
    rw [hfound] at hnext
    exact hrest found hfound hnext

/-- **`setFormat` completes on every text, from every state**: the position stays in the text, and
the parser holds what this text says. -/
theorem setFormat_run (text : List Char) (p : FormatParser) :
    ∃ pos, pos ≤ text.length ∧ (setFormat text).run p = .ok ((), ⟨pos, formatOf text⟩) := by
  have hset : (set (FormatParser.mk 0 none) : ParserM Unit).run p = .ok ((), ⟨0, none⟩) := rfl
  rw [setFormat, run_bind_of_ok hset]
  unfold formatOf
  simp only [Option.bind_eq_bind]
  -- the byte order, from the beginning
  have hendianRun : (getEndian (text.drop 0)).run ⟨0, none⟩ =
      .ok ((endianOf text).map id, ⟨if (endianOf text).isSome then 1 else 0, none⟩) := by
    rw [List.drop_zero, getEndian_run, Option.map_id]
    rfl
  have hendianNext : (if (endianOf text).isSome then 1 else 0) ≤ text.length := by
    cases hendian : endianOf text with
    | none => exact Nat.zero_le _
    | some endian => exact (Nat.le_succ 1).trans (two_le_of_endianOf hendian)
  show Sets text 0 _ _
  refine sets_part (fun endian? => if endian?.isSome then 1 else 0) rfl (Nat.zero_le _) hendianRun
    hendianNext fun endian _ hpos₁ => ?_
  -- the sign, behind one letter and the colon
  have hsignRun : (isSigned (text.drop 1)).run ⟨1, none⟩ =
      .ok (text[3]?.map fun it => decide (it = 's'),
        ⟨1 + if text[3]?.isSome then 2 else 0, none⟩) := by
    rw [isSigned_run, List.getElem?_drop]
  have hsignNext : (1 + if text[3]?.isSome then 2 else 0) ≤ text.length := by
    cases hsign : text[3]? with
    | none => exact hpos₁
    | some sign => exact (List.getElem?_eq_some_iff.mp hsign).1.le
  show Sets text 1 _ _
  refine sets_part (fun sign? => 1 + if sign?.isSome then 2 else 0) rfl hpos₁ hsignRun hsignNext
    fun sign _ hpos₃ => ?_
  -- the value bits, up to the slash
  show Sets text 3 _ _
  refine sets_part (fun value? => 3 + (value?.map Prod.fst).getD 0) rfl hpos₃
    (getValueBits_run _ _) (add_le_of_drop hpos₃ (numberBefore_getD_le _ _))
    fun value _ hpos₄ => ?_
  -- the total bits, up to the first `>`: the position moves whether there is a number or not
  show Sets text (3 + value.1) _ _
  refine sets_part (fun _ => 3 + value.1 + (findFirstOf '>' (text.drop (3 + value.1))).getD 0) rfl
    hpos₄ (getTotalBits_run _ _) (add_le_of_drop hpos₄ (findFirstOf_getD_le _ _))
    fun total htotal hpos₅ => ?_
  -- the shift, from the end
  rw [findFirstOf_of_numberBefore htotal] at hpos₅ ⊢
  have hshiftRun : (getBitshift (text.drop (3 + value.1 + total.1))).run
      ⟨3 + value.1 + total.1, none⟩ =
        .ok ((lastNumber (text.drop (3 + value.1 + total.1))).map id,
          ⟨3 + value.1 + total.1, none⟩) := by
    rw [getBitshift_run, Option.map_id]
    rfl
  show Sets text (3 + value.1 + total.1) _ _
  refine sets_part (fun _ => 3 + value.1 + total.1) rfl hpos₅ hshiftRun hpos₅
    fun shift _ hpos₆ => ?_
  exact ⟨_, hpos₆, rfl⟩

/-! ## Format texts -/

def endianText : Endian → List Char
  | .Big => ['b', 'e']
  | .Little => ['l', 'e']

def signText (isSigned : Bool) : Char := if isSigned then 's' else 'u'

/-- The text of a format, with these many zeros in front of its numbers. -/
def formatText (valueZeros totalZeros shiftZeros : ℕ) (formatHolder : InternalFormatHolder) :
    List Char :=
  endianText formatHolder.endian ++ ':' :: signText formatHolder.isSigned ::
    (Numerals.decimal valueZeros formatHolder.valueBits.toNat ++ '/' ::
      (Numerals.decimal totalZeros formatHolder.totalBits.toNat ++ '>' :: '>' ::
        Numerals.decimal shiftZeros formatHolder.shift.toNat))

/-- A numeral, whatever the zeros in front. -/
theorem numberOfDigits_decimal (zeros : ℕ) (bits : UInt8) :
    numberOfDigits (Numerals.decimal zeros bits.toNat) = some bits := by
  have hvalue : Nat.ofDigitChars 10 (Numerals.decimal zeros bits.toNat) 0 = bits.toNat := by
    rw [Numerals.decimal, Nat.ofDigitChars_append, Nat.ofDigitChars_replicate_zero, Nat.mul_zero,
      Nat.ofDigitChars_ten_toDigits]
  have hlt := bits.toNat_lt
  rw [numberOfDigits, hvalue, if_neg (not_or.mpr ⟨Numerals.decimal_ne_nil _ _, Nat.not_le.mpr hlt⟩),
    UInt8.ofNat_toNat]

/-- A number between the character in front of it and the delimiter behind it. -/
theorem numberBefore_delimited {first ch : Char} (hfirst : first ≠ ch) (hch : ch.isDigit = false)
    (zeros : ℕ) (bits : UInt8) :
    numberBefore ch (first :: (Numerals.decimal zeros bits.toNat ++ ch :: rest)) =
      some ((Numerals.decimal zeros bits.toNat).length + 1, bits) := by
  have hnot : ch ∉ first :: Numerals.decimal zeros bits.toNat := by
    rw [List.mem_cons, not_or]
    exact ⟨hfirst.symm, Numerals.not_mem_decimal hch⟩
  have hdigits : (Numerals.decimal zeros bits.toNat).takeWhile Char.isDigit =
      Numerals.decimal zeros bits.toNat :=
    List.takeWhile_eq_self_iff.mpr fun _ hmem => Numerals.isDigit_of_mem_decimal hmem
  show numberBefore ch ((first :: Numerals.decimal zeros bits.toNat) ++ ch :: rest) = _
  rw [numberBefore_append hnot, List.tail_cons, hdigits, numberOfDigits_decimal, Option.map_some,
    List.length_cons]

/-- The last character of the number is all that is read of it. -/
theorem lastNumber_decimal (zeros : ℕ) (shift : UInt8) :
    lastNumber ('>' :: '>' :: Numerals.decimal zeros shift.toNat) =
      some (.ofNat (shift.toNat % 10)) := by
  have hlt : shift.toNat % 10 < 10 := Nat.mod_lt _ (by omega)
  have hword : shift.toNat % 10 < 2 ^ 8 := by omega
  have hdecimal : [Nat.digitChar (shift.toNat % 10)] =
      Numerals.decimal 0 (UInt8.ofNat (shift.toNat % 10)).toNat := by
    rw [UInt8.toNat_ofNat_of_lt' hword, Numerals.decimal, Nat.toDigits_of_lt_base hlt,
      List.replicate_zero, List.nil_append]
  have hdigit : (Nat.digitChar (shift.toNat % 10)).isDigit = true :=
    Numerals.isDigit_of_mem_decimal (hdecimal ▸ List.mem_cons_self)
  have hlast : Nat.digitChar (shift.toNat % 10) ≠ '>' := by
    intro heq
    rw [heq] at hdigit
    exact absurd hdigit (by decide)
  obtain ⟨front, hfront⟩ := Numerals.decimal_eq_concat zeros shift.toNat
  have htext : '>' :: '>' :: Numerals.decimal zeros shift.toNat =
      ('>' :: '>' :: front) ++ [Nat.digitChar (shift.toNat % 10)] := by
    rw [hfront]
    rfl
  rw [htext, lastNumber_concat hlast, if_pos hdigit, hdecimal, numberOfDigits_decimal]

/-- **What a rendered format says**: itself, with one digit of its shift. -/
theorem formatOf_formatText (valueZeros totalZeros shiftZeros : ℕ)
    (formatHolder : InternalFormatHolder) :
    formatOf (formatText valueZeros totalZeros shiftZeros formatHolder) =
      some { formatHolder with shift := .ofNat (formatHolder.shift.toNat % 10) } := by
  obtain ⟨endian, signed, valueBits, totalBits, shift⟩ := formatHolder
  -- the numbers, each with the character in front of it
  let shiftText := '>' :: '>' :: Numerals.decimal shiftZeros shift.toNat
  let totalText := '/' :: (Numerals.decimal totalZeros totalBits.toNat ++ shiftText)
  let valueText := signText signed :: (Numerals.decimal valueZeros valueBits.toNat ++ totalText)
  let text := formatText valueZeros totalZeros shiftZeros
    ⟨endian, signed, valueBits, totalBits, shift⟩
  have hendian : endianOf text = some endian := by cases endian <;> rfl
  have hsign : text[3]? = some (signText signed) := by cases endian <;> rfl
  have hvalue : text.drop 3 = valueText := by cases endian <;> rfl
  have htotal :
      text.drop (3 + ((Numerals.decimal valueZeros valueBits.toNat).length + 1)) = totalText := by
    rw [← List.drop_drop, hvalue, List.drop_succ_cons, List.drop_left]
  have hshift :
      text.drop (3 + ((Numerals.decimal valueZeros valueBits.toNat).length + 1) +
        ((Numerals.decimal totalZeros totalBits.toNat).length + 1)) = shiftText := by
    rw [← List.drop_drop, htotal, List.drop_succ_cons, List.drop_left]
  have hletter : signText signed ≠ '/' := by cases signed <;> decide
  have hvalueBits : numberBefore '/' valueText =
      some ((Numerals.decimal valueZeros valueBits.toNat).length + 1, valueBits) :=
    numberBefore_delimited hletter (by decide) valueZeros valueBits
  have htotalBits : numberBefore '>' totalText =
      some ((Numerals.decimal totalZeros totalBits.toNat).length + 1, totalBits) :=
    numberBefore_delimited (by decide) (by decide) totalZeros totalBits
  have hsigned : decide (signText signed = 's') = signed := by cases signed <;> rfl
  show formatOf text = _
  simp only [formatOf, hendian, hsign, hvalue, hvalueBits, htotal, htotalBits, hshift, shiftText,
    lastNumber_decimal, Option.bind_eq_bind, Option.bind_some, hsigned]
  rfl

/-- **What `setFormat` makes of a format text**, whatever the parser held before. -/
theorem setFormat_formatText (valueZeros totalZeros shiftZeros : ℕ)
    (formatHolder : InternalFormatHolder) (p : FormatParser) :
    ∃ pos, (setFormat (formatText valueZeros totalZeros shiftZeros formatHolder)).run p =
      .ok ((), ⟨pos,
        some { formatHolder with shift := .ofNat (formatHolder.shift.toNat % 10) }⟩) := by
  obtain ⟨pos, -, hrun⟩ :=
    setFormat_run (formatText valueZeros totalZeros shiftZeros formatHolder) p
  rw [formatOf_formatText] at hrun
  exact ⟨pos, hrun⟩

/-- **Setting a rendered format** gives the format back exactly when its shift has one digit
besides the zeros in front. -/
theorem setFormat_formatText_iff (valueZeros totalZeros shiftZeros : ℕ)
    (formatHolder : InternalFormatHolder) (p : FormatParser) :
    (∃ pos, (setFormat (formatText valueZeros totalZeros shiftZeros formatHolder)).run p =
        .ok ((), ⟨pos, some formatHolder⟩)) ↔ formatHolder.shift.toNat < 10 := by
  obtain ⟨pos, hrun⟩ := setFormat_formatText valueZeros totalZeros shiftZeros formatHolder p
  have hlt := formatHolder.shift.toNat_lt
  have hword : formatHolder.shift.toNat % 10 < 2 ^ 8 := by omega
  have hdigit : UInt8.ofNat (formatHolder.shift.toNat % 10) = formatHolder.shift ↔
      formatHolder.shift.toNat < 10 := by
    rw [← UInt8.toNat_inj, UInt8.toNat_ofNat_of_lt' hword]
    omega
  rw [hrun, ← hdigit]
  constructor
  · rintro ⟨pos', heq⟩
    simp only [Except.ok.injEq, Prod.mk.injEq, FormatParser.mk.injEq, Option.some.injEq] at heq
    exact congrArg InternalFormatHolder.shift heq.2.2
  · intro heq
    exact ⟨pos, by rw [heq]⟩

/-- Of a shift by `12` only the `2` is read. -/
theorem setFormat_shift_twelve :
    formatText 0 0 0 ⟨.Big, true, 13, 32, 12⟩ = "be:s13/32>>12".toList ∧
      (setFormat "be:s13/32>>12".toList).run ⟨0, none⟩ =
        .ok ((), ⟨9, some ⟨.Big, true, 13, 32, 2⟩⟩) ∧
      ¬ ∃ pos, (setFormat (formatText 0 0 0 ⟨.Big, true, 13, 32, 12⟩)).run ⟨0, none⟩ =
        .ok ((), ⟨pos, some ⟨.Big, true, 13, 32, 12⟩⟩) := by
  have htext : formatText 0 0 0 ⟨.Big, true, 13, 32, 12⟩ = "be:s13/32>>12".toList := by
    decide +kernel
  have hrun : (setFormat "be:s13/32>>12".toList).run ⟨0, none⟩ =
      .ok ((), ⟨9, some ⟨.Big, true, 13, 32, 2⟩⟩) := by
    rfl
  refine ⟨htext, hrun, ?_⟩
  rintro ⟨pos, heq⟩
  rw [htext, hrun] at heq
  simp at heq

/-- The thermocouple's text. -/
example : formatText 0 0 0 thermocoupleFormat = "be:s13/16>>3".toList := by decide +kernel

end FormatParser

end ReflowTable

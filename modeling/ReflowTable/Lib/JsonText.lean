import ReflowTable.Lib.UrlEncoding

/-!
# JSON texts of one member

The text of an object with one string member, as a serialiser writes it: no blanks, and escapes
for the quote, the backslash and the control characters only. `parseMember` reads exactly these
texts (`parseMember_eq_some_iff`).
-/

namespace JsonText

def quote : Char := .ofNat 0x22
def backslash : Char := .ofNat 0x5c

/-! ## Writing -/

/-- The characters with an escape of two characters, and its letter. -/
def shortEscapes : List (Char × Char) :=
  [(quote, quote), (backslash, backslash), (.ofNat 0x08, 'b'), (.ofNat 0x0c, 'f'),
    (.ofNat 0x0a, 'n'), (.ofNat 0x0d, 'r'), (.ofNat 0x09, 't')]

def hexDigit (n : ℕ) : Char := .ofNat (if n < 10 then 0x30 + n else 0x57 + n)

def escape (c : Char) : List Char :=
  match shortEscapes.lookup c with
  | some letter => [backslash, letter]
  | none =>
    if c.toNat < 0x20 then
      [backslash, 'u', '0', '0', hexDigit (c.toNat / 16), hexDigit (c.toNat % 16)]
    else [c]

/-- An object with one member. -/
def memberText (key name : List Char) : List Char :=
  .ofNat 0x7b :: quote :: (key.flatMap escape ++
    quote :: ':' :: quote :: (name.flatMap escape ++ [quote, .ofNat 0x7d]))

/-- The bytes of the text. -/
def memberBody (key name : String) : List UInt8 :=
  UrlEncoding.utf8 (memberText key.toList name.toList)

/-- The three ways to write a character. -/
inductive Escaped (c : Char) : List Char → Prop
  | short {letter : Char} (mem : (c, letter) ∈ shortEscapes) : Escaped c [backslash, letter]
  | control (lt : c.toNat < 0x20) : Escaped c
      [backslash, 'u', '0', '0', hexDigit (c.toNat / 16), hexDigit (c.toNat % 16)]
  | plain (quote : c ≠ quote) (backslash : c ≠ backslash) : Escaped c [c]

theorem escaped_escape (c : Char) : Escaped c (escape c) := by
  unfold escape
  cases hshort : shortEscapes.lookup c with
  | some letter =>
    obtain ⟨before, behind, hsplit, -⟩ := List.lookup_eq_some_iff.mp hshort
    apply Escaped.short
    rw [hsplit]
    exact List.mem_append_right before List.mem_cons_self
  | none =>
    dsimp only
    split_ifs with hcontrol
    · exact .control hcontrol
    · apply Escaped.plain
      · rintro rfl
        cases hshort
      · rintro rfl
        cases hshort

/-! ## Reading -/

def unescape (letter : Char) : Char :=
  ((shortEscapes.find? fun p => p.2 = letter).map Prod.fst).getD letter

def hexValue (digit : Char) : ℕ :=
  if digit.toNat < 0x40 then digit.toNat - 0x30 else digit.toNat - 0x57

/-- The string up to its closing quote, and what is behind that. -/
def readString : List Char → Option (List Char × List Char)
  | [] => none
  | c :: l =>
    if c = quote then some ([], l)
    else if c = backslash then
      match l with
      | [] => none
      | letter :: l =>
        if letter = 'u' then
          match l with
          | _ :: _ :: hi :: lo :: l =>
            (readString l).map fun p => (.ofNat (hexValue hi * 16 + hexValue lo) :: p.1, p.2)
          | _ => none
        else (readString l).map fun p => (unescape letter :: p.1, p.2)
    else (readString l).map fun p => (c :: p.1, p.2)

theorem readString_quote (l : List Char) : readString (quote :: l) = some ([], l) := by
  rw [readString.eq_def]
  exact if_pos rfl

theorem hexValue_hexDigit :
    ∀ n < 0x20, Char.ofNat (hexValue (hexDigit (n / 16)) * 16 + hexValue (hexDigit (n % 16))) =
      Char.ofNat n := by
  decide

theorem unescape_letter :
    ∀ p ∈ shortEscapes, p.2 ≠ 'u' ∧ unescape p.2 = p.1 := by
  decide

theorem readString_escape (c : Char) (l : List Char) :
    readString (escape c ++ l) = (readString l).map fun p => (c :: p.1, p.2) := by
  have hescaped := escaped_escape c
  generalize escape c = spelt at hescaped ⊢
  cases hescaped with
  | short hmem =>
    obtain ⟨hletter, hunescape⟩ := unescape_letter _ hmem
    rw [List.cons_append, readString.eq_def]
    show (if backslash = quote then _ else if backslash = backslash then _ else _) = _
    rw [if_neg (by decide), if_pos rfl]
    show (if _ = 'u' then _ else (readString l).map _) = _
    rw [if_neg hletter, hunescape]
  | control hlt =>
    rw [List.cons_append, readString.eq_def]
    show (if backslash = quote then _ else if backslash = backslash then _ else _) = _
    rw [if_neg (by decide), if_pos rfl]
    show ((readString l).map fun p => (Char.ofNat _ :: p.1, p.2)) = _
    rw [hexValue_hexDigit _ hlt, Char.ofNat_toNat]
  | plain hquote hback =>
    rw [List.singleton_append, readString.eq_def]
    show (if c = quote then _ else if c = backslash then _ else _) = _
    rw [if_neg hquote, if_neg hback]

theorem readString_flatMap_escape (name l : List Char) :
    readString (name.flatMap escape ++ quote :: l) = some (name, l) := by
  induction name with
  | nil => exact readString_quote l
  | cons c name ih =>
    rw [List.flatMap_cons, List.append_assoc, readString_escape, ih]
    rfl

/-- The two strings of a text with one member; the punctuation is not looked at. -/
def readMember (text : List Char) : Option (List Char × List Char) := do
  let (key, rest) ← readString (text.drop 2)
  let (name, _) ← readString (rest.drop 2)
  return (key, name)

theorem readMember_memberText (key name : List Char) :
    readMember (memberText key name) = some (key, name) := by
  unfold readMember memberText
  show (readString (key.flatMap escape ++ quote :: _) >>= _) = _
  rw [readString_flatMap_escape]
  show (readString (name.flatMap escape ++ quote :: _) >>= _) = _
  rw [readString_flatMap_escape]
  rfl

/-- Reads the texts that `memberBody` writes. -/
def parseMember (body : List UInt8) : Option (String × String) := do
  let text ← body.toByteArray.utf8Decode?
  let (key, name) ← readMember text.toList
  if memberBody (.ofList key) (.ofList name) = body then return (.ofList key, .ofList name)
  else none

theorem utf8Decode?_memberBody (key name : String) :
    (memberBody key name).toByteArray.utf8Decode? =
      some (memberText key.toList name.toList).toArray :=
  List.utf8Decode?_utf8Encode

/-- **`parseMember` is the inverse of `memberBody`.** -/
theorem parseMember_eq_some_iff {body : List UInt8} {key name : String} :
    parseMember body = some (key, name) ↔ memberBody key name = body := by
  constructor
  · intro h
    simp only [parseMember, Option.bind_eq_bind, Option.bind_eq_some_iff] at h
    obtain ⟨text, -, ⟨key', name'⟩, -, h⟩ := h
    split_ifs at h with hbody
    cases h
    exact hbody
  · rintro rfl
    simp only [parseMember, utf8Decode?_memberBody, readMember_memberText, Option.bind_eq_bind,
      Option.bind_some, String.ofList_toList, if_pos]
    rfl

/-! ## URL decoding of a text -/

open UrlEncoding (Alphabet unicode spaced decode)

theorem shortEscapes_inert :
    ∀ p ∈ shortEscapes, (unicode.percent p.1 = false ∧ unicode.hexDigit p.1 = false) ∧
      unicode.percent p.2 = false ∧ spaced p.2 = p.2 := by
  decide

theorem hexDigit_inert :
    ∀ n < 16, unicode.percent (hexDigit n) = false ∧ spaced (hexDigit n) = hexDigit n := by
  decide

theorem control_inert :
    ∀ n < 0x20, unicode.percent (.ofNat n) = false ∧ unicode.hexDigit (.ofNat n) = false := by
  decide

theorem spells_escape (c : Char) : Alphabet.Spells unicode unicode c (escape c) := by
  have hescaped := escaped_escape c
  have hback : unicode.Inert backslash := ⟨rfl, rfl⟩
  generalize escape c = spelt at hescaped ⊢
  cases hescaped with
  | short hmem =>
    obtain ⟨hinert, hletter, -⟩ := shortEscapes_inert _ hmem
    exact .inert hinert hback (List.forall_mem_singleton.mpr hletter)
  | control hlt =>
    have hinert := control_inert _ hlt
    rw [Char.ofNat_toNat] at hinert
    have hhi := (hexDigit_inert (c.toNat / 16) (by omega)).1
    have hlo := (hexDigit_inert (c.toNat % 16) (by omega)).1
    apply Alphabet.Spells.inert hinert hback
    simp only [List.forall_mem_cons]
    exact ⟨rfl, rfl, rfl, hhi, hlo, List.forall_mem_nil _⟩
  | plain _ _ => exact .same rfl rfl

theorem map_spaced_escape (c : Char) : (escape c).map spaced = escape (spaced c) := by
  by_cases hplus : c = '+'
  · rw [hplus]
    rfl
  · have hspaced : spaced c = c := if_neg hplus
    have hescaped := escaped_escape c
    rw [hspaced]
    generalize escape c = spelt at hescaped ⊢
    cases hescaped with
    | short hmem =>
      obtain ⟨-, -, hletter⟩ := shortEscapes_inert _ hmem
      rw [List.map_cons, List.map_singleton, hletter]
      rfl
    | control hlt =>
      have hhi := (hexDigit_inert (c.toNat / 16) (by omega)).2
      have hlo := (hexDigit_inert (c.toNat % 16) (by omega)).2
      simp only [List.map_cons, List.map_nil, hhi, hlo]
      rfl
    | plain _ _ => rw [List.map_singleton, hspaced]

theorem hasEscape_memberText (key name : List Char) :
    unicode.hasEscape (memberText key name) =
      (unicode.hasEscape key || unicode.hasEscape name) := by
  have hquote : unicode.hexDigit quote = false := rfl
  have hkey := Alphabet.hasEscape_flatMap spells_escape key
  have hname := Alphabet.hasEscape_flatMap spells_escape name
  show unicode.hasEscape (key.flatMap escape ++ quote :: _) = _
  rw [Alphabet.hasEscape_append_cons _ hquote, hkey]
  show (_ || unicode.hasEscape (name.flatMap escape ++ quote :: _)) = _
  rw [Alphabet.hasEscape_append_cons _ hquote, hname]
  show (_ || (_ || false)) = _
  rw [Bool.or_false]

theorem map_spaced_memberText (key name : List Char) :
    (memberText key name).map spaced = memberText (key.map spaced) (name.map spaced) := by
  have hescape : ∀ l : List Char,
      (l.flatMap escape).map spaced = (l.map spaced).flatMap escape := by
    intro l
    rw [List.map_flatMap, List.flatMap_map]
    simp only [map_spaced_escape]
  simp only [memberText, List.map_cons, List.map_append, hescape]
  rfl

/-- The text of a member without escapes is decoded to the text with its plus signs replaced. -/
theorem decode_memberBody {key name : String} (hkey : unicode.hasEscape key.toList = false)
    (hname : unicode.hasEscape name.toList = false) :
    decode (memberBody key name) = memberBody (key.map spaced) (name.map spaced) := by
  have htext : unicode.hasEscape (memberText key.toList name.toList) = false := by
    rw [hasEscape_memberText, hkey, hname, Bool.or_false]
  rw [memberBody, UrlEncoding.decode_utf8 htext, map_spaced_memberText, memberBody,
    String.toList_map, String.toList_map]

/-- A text of a member with an escape becomes shorter. -/
theorem length_decode_memberBody_lt (key : String) {name : String}
    (hname : unicode.hasEscape name.toList = true) :
    (decode (memberBody key name)).length < (memberBody key name).length := by
  apply UrlEncoding.length_decode_utf8_lt
  rw [hasEscape_memberText, hname, Bool.or_true]

end JsonText

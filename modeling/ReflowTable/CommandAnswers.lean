import ReflowTable.CommandsParser

/-!
# What the command parser answers

`parseCommandContext` promises a command or a message for every text. Only `parse_error` is
caught, so the exceptions of the accessors leave it, and `get<std::size_t>` takes every number
for an id.
-/

namespace ReflowTable

namespace Json

/-- The id a `preset-id` entry stands for: a non-negative integer below `2 ^ 64`. -/
def presetId? (entry : Json) : Option UInt64 :=
  entry.number?.bind fun q =>
    if q.den = 1 ∧ 0 ≤ q.num ∧ q.num < 2 ^ 64 then some (.ofNat q.num.toNat) else none

theorem presetId?_eq_some_iff {entry : Json} {id : UInt64} :
    entry.presetId? = some id ↔ entry.number? = some (id.toNat : ℚ) := by
  rw [presetId?, Option.bind_eq_some_iff]
  constructor
  · rintro ⟨q, hq, hid⟩
    split_ifs at hid with h
    obtain ⟨hden, hnum, hlt⟩ := h
    cases hid
    have hnat : ((UInt64.ofNat q.num.toNat).toNat : ℤ) = q.num := by
      have hsize : q.num.toNat < 2 ^ 64 := by omega
      rw [UInt64.toNat_ofNat_of_lt' hsize, Int.toNat_of_nonneg hnum]
    have hvalue : ((UInt64.ofNat q.num.toNat).toNat : ℚ) = q := by
      have : (((UInt64.ofNat q.num.toNat).toNat : ℤ) : ℚ) = q := by
        rw [hnat, Rat.coe_int_num_of_den_eq_one hden]
      exact_mod_cast this
    rw [hvalue]
    exact hq
  · intro hq
    refine ⟨_, hq, ?_⟩
    have hlt := id.toNat_lt
    have hrange :
        (id.toNat : ℚ).den = 1 ∧ 0 ≤ (id.toNat : ℚ).num ∧ (id.toNat : ℚ).num < 2 ^ 64 := by
      rw [Rat.den_natCast, Rat.num_natCast]
      omega
    rw [if_pos hrange, Rat.num_natCast, Int.toNat_natCast, UInt64.ofNat_toNat]

/-- **`get<std::size_t>` keeps a number exactly when it fits.** -/
theorem getSizeT_toNat_eq_iff {tc : Toolchain} {j : Json} {q : ℚ} {word : UInt64}
    (hq : j.number? = some q) (hword : j.getSizeT tc = .ok word) :
    (word.toNat : ℚ) = q ↔ Casts.Fits 64 q := by
  cases j with
  | numberInteger value =>
    cases hq
    cases hword
    rw [UInt64.toNat_ofNat_of_lt' (Casts.ofInt_lt 64 _), Casts.ofInt_eq_iff]
  | numberUnsigned value =>
    cases hq
    cases hword
    exact iff_of_true rfl ⟨_, UInt64.toNat_lt _, rfl⟩
  | numberFloat value =>
    cases hq
    cases hword
    rw [Toolchain.toUInt64, UInt64.toNat_ofNat_of_lt' (Casts.ofRat_lt tc.undef 64 _),
      Casts.ofRat_eq_iff]
  | _ => cases hq

/-- `get<std::size_t>` throws for everything that is not a number. -/
theorem getSizeT_isOk_iff (tc : Toolchain) (j : Json) :
    (∃ word, j.getSizeT tc = .ok word) ↔ ∃ q, j.number? = some q := by
  cases j <;> simp [getSizeT, number?]

/-! Every exception of the accessors is a `type_error`. -/

theorem getSizeT_eq_error {tc : Toolchain} {j : Json} {e : JsonException}
    (h : j.getSizeT tc = .error e) : e = .typeError := by
  cases j <;> cases h <;> rfl

theorem getString_eq_error {j : Json} {e : JsonException} (h : j.getString = .error e) :
    e = .typeError := by
  cases j <;> cases h <;> rfl

theorem member_eq_error {key : String} {j : Json} {e : JsonException}
    (h : j.member key = .error e) : e = .typeError := by
  cases j <;> cases h <;> rfl

theorem getObject_eq_error {j : Json} {e : JsonException} (h : j.getObject = .error e) :
    e = .typeError := by
  cases j <;> cases h <;> rfl

/-- The id of an entry is what `get<std::size_t>` makes of it where it is a number that fits. -/
theorem getSizeT_eq_presetId?_iff (tc : Toolchain) (entry : Json) :
    (∃ id, entry.getSizeT tc = .ok id ∧ entry.presetId? = some id) ↔
      ∃ q, entry.number? = some q ∧ Casts.Fits 64 q := by
  constructor
  · rintro ⟨id, -, hid⟩
    exact ⟨_, presetId?_eq_some_iff.mp hid, _, id.toNat_lt, rfl⟩
  · rintro ⟨q, hq, hfits⟩
    obtain ⟨word, hword⟩ := (getSizeT_isOk_iff tc entry).mpr ⟨q, hq⟩
    have hvalue := (getSizeT_toNat_eq_iff hq hword).mpr hfits
    refine ⟨word, hword, presetId?_eq_some_iff.mpr ?_⟩
    rw [hvalue]
    exact hq

end Json

namespace CommandsParser

/-- What a document asks for, by its three levels. -/
def answerOf (parsedJson : Json) : Except String CommandVariant :=
  match parsedJson.find "command" with
  | some (.string command) =>
    if command = kStartCommand then .ok .startReflow
    else if command = kStopCommand then .ok .stopReflow
    else if command = kSelectPresetCommand then
      match ((parsedJson.find "payload").bind (Json.find "preset-id")).bind Json.presetId? with
      | some id => .ok (.selectPreset id)
      | none => .error kMissedEntry
    else .error kInvalidCommand
  | _ => .error kMissedEntry

/-- The answer a text is due. -/
def expectedAnswer : Option Json → Except String CommandVariant
  | none => .error kInvalidJson
  | some parsedJson => answerOf parsedJson

/-- The payload of a selection is an object, and an id in it is a number that fits an id. -/
def PayloadAnswered (parsedJson : Json) : Prop :=
  ∃ commandPayload, parsedJson.find "payload" = some (.object commandPayload) ∧
    ∀ presetHash, commandPayload.lookup "preset-id" = some presetHash →
      ∃ q, presetHash.number? = some q ∧ Casts.Fits 64 q

/-- A `command` entry is a string, and where it selects a preset the payload is in order. -/
def Answered (parsedJson : Json) : Prop :=
  ∀ it, parsedJson.find "command" = some it →
    ∃ command, it = .string command ∧
      (command = kSelectPresetCommand → PayloadAnswered parsedJson)

variable {lib : Libraries}

theorem isCommandAllowed_iff {command : String} : isCommandAllowed command = true ↔
    command = kStartCommand ∨ command = kStopCommand ∨ command = kSelectPresetCommand := by
  simp [isCommandAllowed, kAllowedCommandsList]

/-- What becomes of the `preset-id` entry of a payload. -/
def selection (tc : Toolchain) (entry : Option Json) :
    Except JsonException (Except String CommandVariant) :=
  entry.elim (.ok (.error kMissedEntry)) fun presetHash =>
    (presetHash.getSizeT tc).map fun id => .ok (.selectPreset id)

/-- What should become of it. -/
def expectedSelection (entry : Option Json) : Except String CommandVariant :=
  (entry.bind Json.presetId?).elim (.error kMissedEntry) fun id => .ok (.selectPreset id)

theorem selection_eq_iff (tc : Toolchain) (entry : Option Json) :
    selection tc entry = .ok (expectedSelection entry) ↔
      ∀ presetHash, entry = some presetHash →
        ∃ q, presetHash.number? = some q ∧ Casts.Fits 64 q := by
  cases entry with
  | none => simp [selection, expectedSelection]
  | some presetHash =>
    have hid := Json.getSizeT_eq_presetId?_iff tc presetHash
    simp only [Option.some.injEq, forall_eq', ← hid, selection, expectedSelection, Option.elim_some,
      Option.bind_some]
    cases presetHash.getSizeT tc with
    | error e => simp [Except.map]
    | ok word =>
      -- the entry is taken for `word`, whatever number it is
      cases presetHash.presetId? with
      | none => simp [Except.map]
      | some id => simp [Except.map, eq_comm]

section

variable {text : Body} {parsedJson : Json} (hparse : lib.parse text = some parsedJson)
include hparse

/-- With a document at hand only the accessors throw. -/
theorem parseCommand_ne_parseError : parseCommand lib text ≠ .error .parseError := by
  intro h
  rw [parseCommand, hparse] at h
  dsimp only at h
  cases hfind : parsedJson.find "command" with
  | none =>
    rw [hfind] at h
    cases h
  | some it =>
    rw [hfind] at h
    obtain hthrown | ⟨commandValue, -, h⟩ := bind_eq_error_iff.mp h
    · cases Json.getString_eq_error hthrown
    split_ifs at h
    · cases h
    · cases h
    · cases h
    · obtain hthrown | ⟨payload, -, h⟩ := bind_eq_error_iff.mp h
      · cases Json.member_eq_error hthrown
      obtain hthrown | ⟨commandPayload, -, h⟩ := bind_eq_error_iff.mp h
      · cases Json.getObject_eq_error hthrown
      cases hid : commandPayload.lookup "preset-id" with
      | none =>
        rw [hid] at h
        cases h
      | some presetHash =>
        rw [hid] at h
        obtain hthrown | ⟨id, -, h⟩ := bind_eq_error_iff.mp h
        · cases Json.getSizeT_eq_error hthrown
        · cases h
    · cases h

/-- So nothing is caught. -/
theorem parseCommandContext_eq_ok_iff {answer : Except String CommandVariant} :
    parseCommandContext lib text = .ok answer ↔ parseCommand lib text = .ok answer := by
  have hne := parseCommand_ne_parseError hparse
  unfold parseCommandContext
  split
  · next hthrown => exact absurd hthrown hne
  · exact Iff.rfl

/-- What `select-preset` does with the payload. -/
theorem parseCommand_selectPreset
    (hfind : parsedJson.find "command" = some (.string kSelectPresetCommand)) :
    parseCommand lib text =
      ((parsedJson.find "payload").getD .null).getObject >>= fun commandPayload =>
        selection lib.toToolchain (commandPayload.lookup "preset-id") := by
  obtain ⟨members, rfl⟩ : ∃ members, parsedJson = .object members := by
    cases parsedJson with
    | object members => exact ⟨members, rfl⟩
    | _ => cases hfind
  rw [parseCommand, hparse]
  dsimp only
  rw [hfind]
  show (((members.lookup "payload").getD .null).getObject >>= _) = _
  show _ = (((members.lookup "payload").getD .null).getObject >>= _)
  congr 1
  funext commandPayload
  cases commandPayload.lookup "preset-id" with
  | none => rfl
  | some presetHash =>
    show (presetHash.getSizeT lib.toToolchain >>= _) = Except.map _ _
    cases presetHash.getSizeT lib.toToolchain <;> rfl

omit hparse in
theorem answerOf_selectPreset
    (hfind : parsedJson.find "command" = some (.string kSelectPresetCommand)) :
    answerOf parsedJson =
      expectedSelection ((parsedJson.find "payload").bind (Json.find "preset-id")) := by
  rw [answerOf, hfind]
  dsimp only
  rw [if_neg (by decide), if_neg (by decide), if_pos rfl, expectedSelection]
  split
  · next id hid => rw [hid, Option.elim_some]
  · next hid => rw [hid, Option.elim_none]

/-- A `select-preset` document, by its payload. -/
theorem parseCommand_selectPreset_iff
    (hfind : parsedJson.find "command" = some (.string kSelectPresetCommand)) :
    parseCommand lib text = .ok (answerOf parsedJson) ↔ PayloadAnswered parsedJson := by
  rw [parseCommand_selectPreset hparse hfind, answerOf_selectPreset hfind, PayloadAnswered]
  cases parsedJson.find "payload" with
  | none =>
    -- a missing payload is `null`, and that is no object
    refine iff_of_false ?_ ?_
    · rintro ⟨⟩
    · rintro ⟨_, ⟨⟩, _⟩
  | some payload =>
    cases payload with
    | object commandPayload =>
      refine (selection_eq_iff lib.toToolchain (commandPayload.lookup "preset-id")).trans ?_
      constructor
      · intro hentry
        exact ⟨commandPayload, rfl, hentry⟩
      · rintro ⟨_, ⟨⟩, hentry⟩
        exact hentry
    | _ =>
      refine iff_of_false ?_ ?_
      · rintro ⟨⟩
      · rintro ⟨_, ⟨⟩, _⟩

/-- The commands without a payload, and the strings that are no command. -/
theorem parseCommand_of_ne_selectPreset {command : String}
    (hfind : parsedJson.find "command" = some (.string command))
    (hselect : command ≠ kSelectPresetCommand) :
    parseCommand lib text = .ok (answerOf parsedJson) := by
  rw [parseCommand, answerOf, hparse]
  dsimp only
  rw [hfind]
  show (if !isCommandAllowed command then _ else _) = _
  dsimp only
  by_cases hstart : command = kStartCommand
  · subst hstart
    rfl
  · by_cases hstop : command = kStopCommand
    · subst hstop
      rfl
    · have hnot : isCommandAllowed command = false := by
        rw [← Bool.not_eq_true, isCommandAllowed_iff]
        simp [hstart, hstop, hselect]
      simp only [hnot, if_neg hstart, if_neg hstop, if_neg hselect]
      rfl

/-- **A document is answered exactly when its entries have the types asked of them.** -/
theorem parseCommandContext_eq_answerOf_iff :
    parseCommandContext lib text = .ok (answerOf parsedJson) ↔ Answered parsedJson := by
  rw [parseCommandContext_eq_ok_iff hparse, Answered]
  cases hfind : parsedJson.find "command" with
  | none =>
    have hparsed : parseCommand lib text = .ok (answerOf parsedJson) := by
      rw [parseCommand, answerOf, hparse]
      dsimp only
      rw [hfind]
    exact iff_of_true hparsed fun _ hit => by cases hit
  | some it =>
    simp only [Option.some.injEq, forall_eq']
    cases it with
    | string command =>
      simp only [Json.string.injEq, exists_eq_left']
      by_cases hselect : command = kSelectPresetCommand
      · subst hselect
        rw [parseCommand_selectPreset_iff hparse hfind]
        exact ⟨fun hpayload _ => hpayload, fun h => h rfl⟩
      · have hparsed := parseCommand_of_ne_selectPreset hparse hfind hselect
        exact iff_of_true hparsed fun h => absurd h hselect
    | _ =>
      refine iff_of_false (fun hparsed => ?_) ?_
      · rw [parseCommand, hparse] at hparsed
        dsimp only at hparsed
        rw [hfind] at hparsed
        cases hparsed
      · rintro ⟨_, ⟨⟩, _⟩

end

/-- **The parser answers a text as it should exactly when the text is no document or one whose
entries have the types asked of them**: `command` is a string, and for `select-preset` the
payload is an object whose `preset-id`, if there is one, is a number that fits an id. -/
theorem parseCommandContext_answers_iff (lib : Libraries) (text : Body) :
    parseCommandContext lib text = .ok (expectedAnswer (lib.parse text)) ↔
      ∀ parsedJson, lib.parse text = some parsedJson → Answered parsedJson := by
  cases hparse : lib.parse text with
  | none =>
    have hparsed : parseCommand lib text = .error .parseError := by rw [parseCommand, hparse]
    rw [parseCommandContext, hparsed]
    exact iff_of_true rfl fun _ h => by cases h
  | some parsedJson =>
    rw [expectedAnswer, parseCommandContext_eq_answerOf_iff hparse]
    exact ⟨fun h _ heq => Option.some.inj heq ▸ h, fun h => h _ rfl⟩

/-- A `command` that is a number raises, and so does a selection without a payload; an id of
`-1` is accepted as the largest id. -/
theorem parseCommandContext_not_answered :
    let numberText := "\x7b\"command\":5\x7d"
    let payloadText := "\x7b\"command\":\"select-preset\"\x7d"
    let idText := "\x7b\"command\":\"select-preset\",\"payload\":\x7b\"preset-id\":-1\x7d\x7d"
    let lib : Libraries := .sample
      [(numberText, .object [("command", .numberUnsigned 5)]),
        (payloadText, .object [("command", .string "select-preset")]),
        (idText, .object [("command", .string "select-preset"),
          ("payload", .object [("preset-id", .numberInteger (-1))])])]
    parseCommandContext lib (asciiBytes numberText) = .error .typeError ∧
      parseCommandContext lib (asciiBytes payloadText) = .error .typeError ∧
      parseCommandContext lib (asciiBytes idText) =
        .ok (.ok (.selectPreset 18446744073709551615)) ∧
      ¬ ∀ text, parseCommandContext lib text = .ok (expectedAnswer (lib.parse text)) := by
  intro numberText payloadText idText lib
  have hnumber : parseCommandContext lib (asciiBytes numberText) = .error .typeError := by
    decide +kernel
  have hpayload : parseCommandContext lib (asciiBytes payloadText) = .error .typeError := by
    decide +kernel
  have hid : parseCommandContext lib (asciiBytes idText) =
      .ok (.ok (.selectPreset 18446744073709551615)) := by
    decide +kernel
  refine ⟨hnumber, hpayload, hid, fun hall => ?_⟩
  have hanswered := hall (asciiBytes numberText)
  rw [hnumber] at hanswered
  cases hanswered

end CommandsParser

end ReflowTable

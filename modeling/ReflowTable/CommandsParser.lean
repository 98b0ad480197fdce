import ReflowTable.RequestUtils

/-!
# The command parser

`commands_parser.cpp`. The parser answers malformed text with an error value; the other
exceptions of the JSON library leave it.
-/

namespace ReflowTable.CommandsParser

def kInvalidJson : String := "Invalid JSON has been passed to the command parser"
def kMissedEntry : String := "Couldn't find the command JSON entry"
def kInvalidCommand : String := "Command is not allowed to run"

def kStartCommand : String := "start"
def kStopCommand : String := "stop"
def kSelectPresetCommand : String := "select-preset"

def kAllowedCommandsList : List String := [kStartCommand, kStopCommand, kSelectPresetCommand]

def isCommandAllowed (isAllowedCheck : String) : Bool :=
  decide (isAllowedCheck ∈ kAllowedCommandsList)

variable (lib : Libraries)

/-- The body of the `try` block. -/
def parseCommand (commandContext : Body) :
    Except JsonException (Except String CommandVariant) :=
  match lib.parse commandContext with
  | none => .error .parseError
  | some parsedJson =>
    match parsedJson.find "command" with
    | none => .ok (.error kMissedEntry)
    | some it => do
      let commandValue ← it.getString
      if !isCommandAllowed commandValue then
        return .error kInvalidCommand
      else if commandValue = kStartCommand then
        return .ok .startReflow
      else if commandValue = kStopCommand then
        return .ok .stopReflow
      else if commandValue = kSelectPresetCommand then
        let commandPayload ← (← parsedJson.member "payload").getObject
        match commandPayload.lookup "preset-id" with
        | some presetHash =>
          return .ok (.selectPreset (← presetHash.getSizeT lib.toToolchain))
        | none => return .error kMissedEntry
      else
        return .error kMissedEntry

/-- Only `parse_error` is caught. -/
def parseCommandContext (commandContext : Body) :
    Except JsonException (Except String CommandVariant) :=
  match parseCommand lib commandContext with
  | .error .parseError => .ok (.error kInvalidJson)
  | result => result

variable {lib}

/-- What an accepted text was: one of the three commands. -/
theorem parseCommand_eq_ok {commandContext : Body} {command : CommandVariant}
    (h : parseCommand lib commandContext = .ok (.ok command)) :
    command = .startReflow ∨ command = .stopReflow ∨ ∃ id, command = .selectPreset id := by
  unfold parseCommand at h
  cases hparse : lib.parse commandContext with
  | none => rw [hparse] at h; cases h
  | some parsedJson =>
    simp only [hparse] at h
    cases hfind : parsedJson.find "command" with
    | none => rw [hfind] at h; cases h
    | some it =>
      simp only [hfind] at h
      obtain ⟨commandValue, -, h⟩ := bind_eq_ok_iff.mp h
      split_ifs at h
      · cases h
      · cases h
        exact .inl rfl
      · cases h
        exact .inr (.inl rfl)
      · -- `select-preset`: the payload, its entry and the number in it
        obtain ⟨payload, -, h⟩ := bind_eq_ok_iff.mp h
        obtain ⟨commandPayload, -, h⟩ := bind_eq_ok_iff.mp h
        split at h
        · obtain ⟨id, -, h⟩ := bind_eq_ok_iff.mp h
          cases h
          exact .inr (.inr ⟨id, rfl⟩)
        · cases h
      · cases h

/-- Regulator parameters are never set by a command text. -/
theorem parseCommandContext_ne_setRegulatorParams {commandContext : Body}
    {command : CommandVariant} (h : parseCommandContext lib commandContext = .ok (.ok command))
    (params : RegulatorParams) : command ≠ .setRegulatorParams params := by
  have hcommand : parseCommand lib commandContext = .ok (.ok command) := by
    unfold parseCommandContext at h
    split at h
    · cases h
    · exact h
  rcases parseCommand_eq_ok hcommand with rfl | rfl | ⟨id, rfl⟩ <;> simp

end ReflowTable.CommandsParser

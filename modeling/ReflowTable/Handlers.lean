import ReflowTable.CommandsParser
import ReflowTable.Operations

/-!
# The HTTP requests

`soldering_table_responses_handler.cpp`, the requests that change something. A handler decodes
the request, acts on the holder or posts a command, and responds; an exception of a decoder or
of the holder leaves it instead of a response.

`service` is the server under any interleaving of whole requests with ticks. Every request is
a sequence of the operations of `ReflowTable.Operations` (`handle_run`), so whatever holds of
the operations' reachable states holds of the service's (`reachable_operations`).
-/

namespace ReflowTable

def k200OK : ℕ := 200
def k400BadRequest : ℕ := 400

inductive ResponseBody
  | empty
  | text (body : String)
  | json (body : Json)

structure HttpResponse where
  statusCode : ℕ
  body : ResponseBody

/-- `newHttpResponse`. -/
def HttpResponse.ok : HttpResponse := ⟨k200OK, .empty⟩

/-- What can leave a handler instead of a response. -/
inductive HandlerException
  | json (e : JsonException)
  | fault (e : Fault)

/-- The requests with an effect, with the parts of them the handlers read. -/
inductive HttpRequest
  | createPreset (body : Body)
  | updatePreset (presetId : String) (body : Body)
  | pushCommand (body : Body)
  | setRegulatorParams (body : Body)

/-- What happens to the server. -/
inductive Event
  | request (req : HttpRequest)
  | tick (input : TickInput)

namespace Server

open RequestUtils (PresetRequestVariant)

variable (lib : Libraries)

def createPreset (body : Body) (s : Server) : Except HandlerException HttpResponse × Server :=
  match RequestUtils.parsePresetName lib (lib.urlDecode body) with
  | .error e => (.error (.json e), s)
  | .ok none => (.ok ⟨k400BadRequest, .empty⟩, s)
  | .ok (some presetName) =>
    match s.presetsHolder.addNewPreset lib.toToolchain presetName with
    | .error e => (.error (.fault e), s)
    | .ok (presetId, holder) =>
      (.ok ⟨k200OK, .json (.object [("preset-id", .numberUnsigned presetId)])⟩,
        { s with presetsHolder := holder })

/-- The id of a path segment: `atoll`, converted to `std::size_t`. -/
def pathId (presetId : String) : UInt64 := .ofNat (Casts.ofInt 64 (Casts.atoll presetId.toList))

/-- `parseResultVisitor` of `UpdatePreset`. -/
def parseResultVisitor (parsedState : PresetRequestVariant) (p : Preset) : Preset :=
  match parsedState with
  | .name itemName => p.setName itemName
  | .stages stagesContainer => p.replaceStages lib.toToolchain stagesContainer
  | .monostate => p

def updatePreset (presetId : String) (body : Body) (s : Server) :
    Except HandlerException HttpResponse × Server :=
  match s.presetsHolder.getPresetById (pathId presetId) with
  | .error e => (.error (.fault e), s)
  | .ok presetPtr =>
    match RequestUtils.parsePresetUpdateRequest lib body with
    | .error e => (.error (.json e), s)
    | .ok parsedState =>
      (.ok .ok,
        { s with
          presetsHolder := s.presetsHolder.modify presetPtr (parseResultVisitor lib parsedState) })

def pushCommand (body : Body) (s : Server) : Except HandlerException HttpResponse × Server :=
  match CommandsParser.parseCommandContext lib body with
  | .error e => (.error (.json e), s)
  | .ok (.error message) => (.ok ⟨k400BadRequest, .text message⟩, s)
  | .ok (.ok command) => (.ok .ok, s.postCommand command)

def setRegulatorParams (body : Body) (s : Server) :
    Except HandlerException HttpResponse × Server :=
  if s.reflowController.isRunning then
    (.ok ⟨k400BadRequest,
      .text "Reflow process is running. Can't change the regulator settings"⟩, s)
  else
    match RequestUtils.parseRegulatorParams lib body with
    | .error e => (.error (.json e), s)
    | .ok (.error message) => (.ok ⟨k400BadRequest, .text message⟩, s)
    | .ok (.ok params) => (.ok .ok, s.postCommand (.setRegulatorParams params))

def handle (req : HttpRequest) (s : Server) : Except HandlerException HttpResponse × Server :=
  match req with
  | .createPreset body => s.createPreset lib body
  | .updatePreset presetId body => s.updatePreset lib presetId body
  | .pushCommand body => s.pushCommand lib body
  | .setRegulatorParams body => s.setRegulatorParams lib body

/-- The server under requests and ticks. -/
def service : System Server Event where
  init := Constructed
  step s
    | .request req => (s.handle lib req).2
    | .tick input => s.tick lib.toToolchain input

/-! ## Requests are operations -/

variable {lib : Libraries} {s : Server}

theorem onPreset_onPreset (id : UInt64) (f g : Preset → Preset) (s : Server) :
    (s.onPreset id f).onPreset id g = s.onPreset id fun p => g (f p) := by
  cases hl : s.presetsHolder.presetsStorage.lookup id with
  | none => rw [onPreset_of_none f hl, onPreset_of_none g hl, onPreset_of_none _ hl]
  | some ptr =>
    have hl' : (s.presetsHolder.modify ptr f).presetsStorage.lookup id = some ptr := hl
    rw [onPreset_of_lookup f hl, onPreset_of_lookup (fun p => g (f p)) hl,
      onPreset_of_lookup (s := ⟨s.presetsHolder.modify ptr f, s.reflowController⟩) g hl',
      PresetsHolder.modify_modify]

/-- A run of stage replacements on one preset. -/
theorem run_replaceStageItem {tc : Toolchain} (id : UInt64) (items : List (StageItem × ℕ))
    (s : Server) :
    (operations tc).run s (items.map fun item => .replaceStageItem id item.2 item.1) =
      s.onPreset id fun p => items.foldl (fun p item => p.replaceStageItem tc item.2 item.1) p := by
  induction items generalizing s with
  | nil =>
    cases hl : s.presetsHolder.presetsStorage.lookup id with
    | none => rw [onPreset_of_none _ hl]; rfl
    | some ptr =>
      rw [onPreset_of_lookup _ hl]
      simp only [List.foldl_nil, PresetsHolder.modify_id]
      rfl
  | cons item items ih =>
    rw [List.map_cons, System.run_cons, ih]
    exact onPreset_onPreset id _ _ s

/-- What `UpdatePreset` does to a preset, as operations. -/
def updateOperations (id : UInt64) : PresetRequestVariant → List Operation
  | .name itemName => [.setName id itemName]
  | .stages stagesContainer =>
    stagesContainer.zipIdx.map fun stageItem => .replaceStageItem id stageItem.2 stageItem.1
  | .monostate => []

theorem run_updateOperations {id : UInt64} {ptr : PresetPtr}
    (hl : s.presetsHolder.presetsStorage.lookup id = some ptr)
    (parsedState : PresetRequestVariant) :
    (operations lib.toToolchain).run s (updateOperations id parsedState) =
      { s with
        presetsHolder := s.presetsHolder.modify ptr (parseResultVisitor lib parsedState) } := by
  cases parsedState with
  | name itemName => exact onPreset_of_lookup _ hl
  | stages stagesContainer =>
    rw [updateOperations, run_replaceStageItem, onPreset_of_lookup _ hl]
    rfl
  | monostate =>
    exact congrArg (Server.mk · s.reflowController)
      (PresetsHolder.modify_id ptr s.presetsHolder).symm

theorem updatePreset_of_lookup {presetId : String} {ptr : PresetPtr} {body : Body}
    {parsedState : PresetRequestVariant}
    (hl : s.presetsHolder.presetsStorage.lookup (pathId presetId) = some ptr)
    (hparse : RequestUtils.parsePresetUpdateRequest lib body = .ok parsedState) :
    s.updatePreset lib presetId body =
      (.ok .ok, { s with
        presetsHolder := s.presetsHolder.modify ptr (parseResultVisitor lib parsedState) }) := by
  simp only [updatePreset, PresetsHolder.getPresetById_eq_ok.mpr hl, hparse]

/-- An update that raises has changed nothing. -/
theorem updatePreset_of_error {presetId : String} {body : Body} {e : JsonException}
    (hparse : RequestUtils.parsePresetUpdateRequest lib body = .error e) :
    (s.updatePreset lib presetId body).2 = s := by
  unfold updatePreset
  split
  · rfl
  · simp only [hparse]

/-- What a request finds, and the server it leaves. -/
inductive RequestChange (lib : Libraries) (s : Server) : HttpRequest → Server → Prop
  /-- an answer other than 200, or an exception -/
  | rejected {req : HttpRequest} : RequestChange lib s req s
  /-- a name that is taken throws, and the server stays as it is -/
  | created {body : Body} {presetName : String} :
      RequestChange lib s (.createPreset body) (s.addNewPreset lib.toToolchain presetName)
  | updated {presetId : String} {body : Body} {ptr : PresetPtr}
      {parsedState : PresetRequestVariant} :
      s.presetsHolder.presetsStorage.lookup (pathId presetId) = some ptr →
      RequestUtils.parsePresetUpdateRequest lib body = .ok parsedState →
      RequestChange lib s (.updatePreset presetId body)
        { s with
          presetsHolder := s.presetsHolder.modify ptr (parseResultVisitor lib parsedState) }
  | commandPosted {body : Body} {command : CommandVariant} :
      CommandsParser.parseCommandContext lib body = .ok (.ok command) →
      RequestChange lib s (.pushCommand body) (s.postCommand command)
  | paramsPosted {body : Body} {params : RegulatorParams} :
      s.reflowController.isReflowRunning = false →
      RequestChange lib s (.setRegulatorParams body) (s.postCommand (.setRegulatorParams params))

variable (lib) in
/-- **Step lemma for requests.** -/
theorem handle_change (req : HttpRequest) (s : Server) :
    RequestChange lib s req (s.handle lib req).2 := by
  cases req with
  | createPreset body =>
    simp only [handle, createPreset]
    split
    · exact .rejected
    · exact .rejected
    · next presetName _ =>
      have hcreated : RequestChange lib s (.createPreset body)
          (s.addNewPreset lib.toToolchain presetName) := .created
      rw [addNewPreset] at hcreated
      cases hadd : s.presetsHolder.addNewPreset lib.toToolchain presetName with
      | error e => exact .rejected
      | ok added =>
        rw [hadd] at hcreated
        exact hcreated
  | updatePreset presetId body =>
    simp only [handle, updatePreset]
    split
    · exact .rejected
    · next presetPtr hptr =>
      split
      · exact .rejected
      · next hparse => exact .updated (PresetsHolder.getPresetById_eq_ok.mp hptr) hparse
  | pushCommand body =>
    simp only [handle, pushCommand]
    split
    · exact .rejected
    · exact .rejected
    · next hparse => exact .commandPosted hparse
  | setRegulatorParams body =>
    simp only [handle, setRegulatorParams]
    split_ifs with hrun
    · exact .rejected
    · split
      · exact .rejected
      · exact .rejected
      · exact .paramsPosted (Bool.eq_false_iff.mpr hrun)

/-- **Every request is a run of operations.** -/
theorem handle_run (req : HttpRequest) (s : Server) :
    ∃ ops, (s.handle lib req).2 = (operations lib.toToolchain).run s ops := by
  have hchange := handle_change lib req s
  generalize (s.handle lib req).2 = s' at hchange ⊢
  cases hchange with
  | rejected => exact ⟨[], rfl⟩
  | @created _ presetName => exact ⟨[.addNewPreset presetName], rfl⟩
  | @updated presetId _ _ parsedState hl =>
    exact ⟨updateOperations (pathId presetId) parsedState,
      (run_updateOperations hl parsedState).symm⟩
  | @commandPosted _ command => exact ⟨[.postCommand command], rfl⟩
  | @paramsPosted _ params => exact ⟨[.postCommand (.setRegulatorParams params)], rfl⟩

variable (lib) in
/-- What a request does to the holder: nothing, or it stores a new preset, or it updates one. -/
theorem handle_holder (req : HttpRequest) (s : Server) :
    (s.handle lib req).2.presetsHolder = s.presetsHolder ∨
      (∃ id preset hfree,
        (s.handle lib req).2.presetsHolder = s.presetsHolder.insertNew id preset hfree) ∨
      ∃ presetId body ptr parsedState, req = .updatePreset presetId body ∧
        s.presetsHolder.presetsStorage.lookup (pathId presetId) = some ptr ∧
        RequestUtils.parsePresetUpdateRequest lib body = .ok parsedState ∧
        (s.handle lib req).2.presetsHolder =
          s.presetsHolder.modify ptr (parseResultVisitor lib parsedState) := by
  have hchange := handle_change lib req s
  generalize (s.handle lib req).2 = s' at hchange ⊢
  cases hchange with
  | rejected => exact .inl rfl
  | @created _ presetName =>
    unfold addNewPreset
    by_cases hfree : s.presetsHolder.presetsStorage.lookup (lib.hash presetName) = none
    · rw [PresetsHolder.addNewPreset_of_free hfree]
      exact .inr (.inl ⟨_, _, hfree, rfl⟩)
    · rw [PresetsHolder.addNewPreset_of_taken hfree]
      exact .inl rfl
  | updated hl hparse => exact .inr (.inr ⟨_, _, _, _, rfl, hl, hparse, rfl⟩)
  | commandPosted => exact .inl rfl
  | paramsPosted => exact .inl rfl

variable (lib) in
/-- What a request does to the controller: nothing, or it posts a command. Regulator parameters
are posted only while no run is on. -/
theorem handle_controller (req : HttpRequest) (s : Server) :
    (s.handle lib req).2.reflowController = s.reflowController ∨
      ∃ command, (s.handle lib req).2.reflowController = s.reflowController.postCommand command ∧
        ∀ params, command = .setRegulatorParams params →
          s.reflowController.isReflowRunning = false := by
  have hchange := handle_change lib req s
  generalize (s.handle lib req).2 = s' at hchange ⊢
  cases hchange with
  | rejected => exact .inl rfl
  | created => exact .inl (reflowController_addNewPreset _)
  | updated => exact .inl rfl
  | commandPosted hparse =>
    exact .inr ⟨_, rfl, fun params heq =>
      absurd heq (CommandsParser.parseCommandContext_ne_setRegulatorParams hparse params)⟩
  | paramsPosted hidle => exact .inr ⟨_, rfl, fun _ _ => hidle⟩

/-- **The service refines the operations.** -/
theorem reachable_operations (hs : (service lib).Reachable s) :
    (operations lib.toToolchain).Reachable s := by
  refine System.Reachable.map (M := service lib) (N := operations lib.toToolchain) (fun s => s)
    (fun _ hinit => hinit) (fun s e => ?_) hs
  cases e with
  | request req => exact handle_run req s
  | tick input => exact ⟨[.tick input], rfl⟩

/-! ## A session

The texts of a client that creates a preset, fills it, selects and starts it, and sets the
regulator parameters. -/

def createText : String := "\x7b\"preset-name\":\"lead\"\x7d"
def stagesText : String := "\x7b\"stages\":[\x7b\"temperature\":183,\"duration\":30\x7d]\x7d"
def selectText : String :=
  "\x7b\"command\":\"select-preset\",\"payload\":\x7b\"preset-id\":4\x7d\x7d"
def startText : String := "\x7b\"command\":\"start\"\x7d"
def regulatorText : String := "\x7b\"hysteresis\":3,\"k\":1\x7d"

def sessionDocs : List (String × Json) :=
  [(createText, .object [("preset-name", .string "lead")]),
    (stagesText, .object [("stages", .array [.object
      [("temperature", .numberUnsigned 183), ("duration", .numberUnsigned 30)]])]),
    (selectText, .object [("command", .string "select-preset"),
      ("payload", .object [("preset-id", .numberUnsigned 4)])]),
    (startText, .object [("command", .string "start")]),
    (regulatorText, .object [("hysteresis", .numberUnsigned 3), ("k", .numberUnsigned 1)])]

def sessionLibraries : Libraries := .sample sessionDocs

/-- The requests up to the start. -/
def startSession : List Event :=
  [.request (.createPreset (asciiBytes createText)),
    .request (.updatePreset "4" (asciiBytes stagesText)),
    .request (.pushCommand (asciiBytes selectText)),
    .request (.pushCommand (asciiBytes startText))]

end Server

end ReflowTable

import ReflowTable.PresetHistory
import ReflowTable.RunEnds
import ReflowTable.StageLists

/-!
# Orders

What a client does to have a recipe made: it creates a preset, sends the stages, selects the preset
and starts it. Others edit their presets meanwhile, and the ticks come when they come. If nobody
else posts a command, every request is answered with 200, and the run that then begins is one of
the recipe, stage for stage (`Server.order_starts`).
-/

namespace ReflowTable

open ReflowProcessController
open RequestUtils (parsePresetName parsePresetUpdateRequest)

/-! ## The documents of the client -/

def createDoc (name : String) : Json := .object [("preset-name", .string name)]

def stageDoc (stage : StageItem) : Json :=
  .object [("temperature", .numberUnsigned stage.temperatureStep.toUInt64),
    ("duration", .numberUnsigned (.ofNat stage.stageDuration.toNat))]

def stagesDoc (stages : List StageItem) : Json :=
  .object [("stages", .array (stages.map stageDoc))]

def startDoc : Json := .object [("command", .string CommandsParser.kStartCommand)]

/-- Its duration is one the decoder knows. -/
def StageItem.Sendable (stage : StageItem) : Prop :=
  0 ≤ stage.stageDuration ∧ stage.stageDuration < 2 ^ 32

variable {lib : Libraries} {body : Body} {name : String} {stages : List StageItem}

/-- **A stage is decoded to what it was.** -/
theorem stageItem_stageDoc (tc : Toolchain) {stage : StageItem} (hsend : stage.Sendable) :
    (stageDoc stage).stageItem tc = stage := by
  obtain ⟨hnonneg, hsmall⟩ := hsend
  -- both numbers are sent as 64-bit words and cut to 32 bits by the decoder
  have htemperature : (stageDoc stage).stageWord tc "temperature" = stage.temperatureStep := by
    have hword : Casts.ofInt 32 (stage.temperatureStep.toUInt64.toNat : ℤ) =
        stage.temperatureStep.toNat := by
      rw [UInt32.toNat_toUInt64]
      exact Casts.ofInt_natCast stage.temperatureStep.toNat_lt
    show UInt32.ofNat (Casts.ofInt 32 _) = _
    rw [hword, UInt32.ofNat_toNat]
  have hduration : (((stageDoc stage).stageWord tc "duration").toNat : ℤ) =
      stage.stageDuration := by
    have hnat : stage.stageDuration.toNat < 2 ^ 32 := by omega
    have hlong : (UInt64.ofNat stage.stageDuration.toNat).toNat = stage.stageDuration.toNat :=
      UInt64.toNat_ofNat_of_lt' (hnat.trans (by decide))
    show ((UInt32.ofNat (Casts.ofInt 32 (UInt64.toNat _ : ℤ))).toNat : ℤ) = _
    rw [hlong, Casts.ofInt_natCast hnat, UInt32.toNat_ofNat_of_lt' hnat]
    omega
  rw [Json.stageItem, htemperature, hduration]

theorem parsePresetUpdateRequest_stagesDoc (hne : stages ≠ [])
    (hsend : ∀ stage ∈ stages, stage.Sendable) (hbody : lib.parse body = some (stagesDoc stages)) :
    parsePresetUpdateRequest lib body = .ok (.stages stages) := by
  have haccepted : stages.map stageDoc ≠ [] ∧
      ∀ item ∈ stages.map stageDoc, item.isStage = true := by
    refine ⟨by simpa using hne, fun item hitem => ?_⟩
    obtain ⟨stage, -, rfl⟩ := List.mem_map.mp hitem
    rfl
  have hdecoded : (stages.map stageDoc).map (Json.stageItem lib.toToolchain) = stages := by
    rw [List.map_map]
    exact (List.map_congr_left fun stage hmem => stageItem_stageDoc _ (hsend stage hmem)).trans
      (List.map_id stages)
  rw [RequestUtils.parsePresetUpdateRequest_of_stages hbody rfl rfl, if_pos haccepted, hdecoded]

theorem parsePresetName_createDoc (hname : name ≠ "")
    (hbody : lib.parse body = some (createDoc name)) :
    parsePresetName lib body = .ok (some name) := by
  have hempty : name.isEmpty = false := by simpa using hname
  rw [RequestUtils.parsePresetName_of_name hbody rfl]
  show Except.ok (if name.isEmpty then none else some name) = _
  rw [hempty, if_neg Bool.false_ne_true]

/-- What a client sends, and the bodies that say it. -/
structure Order (lib : Libraries) where
  name : String
  stages : List StageItem
  named : name ≠ ""
  staged : stages ≠ []
  sendable : ∀ stage ∈ stages, stage.Sendable
  /-- the id is one that `UpdatePreset` can read -/
  low : (lib.hash name).toNat < 2 ^ 63
  createBody : Body
  updateBody : Body
  selectBody : Body
  startBody : Body
  create : lib.parse (lib.urlDecode createBody) = some (createDoc name)
  update : lib.parse updateBody = some (stagesDoc stages)
  select : lib.parse selectBody = some (Server.selectDoc (lib.hash name))
  start : lib.parse startBody = some startDoc

namespace Order

variable (order : Order lib)

def presetId : UInt64 := lib.hash order.name

def createRequest : HttpRequest := .createPreset order.createBody

/-- The path spells the id that the first answer gave. -/
def updateRequest : HttpRequest := .updatePreset (Server.idPath order.presetId) order.updateBody

def selectRequest : HttpRequest := .pushCommand order.selectBody

def startRequest : HttpRequest := .pushCommand order.startBody

theorem parsePresetName_eq :
    parsePresetName lib (lib.urlDecode order.createBody) = .ok (some order.name) :=
  parsePresetName_createDoc order.named order.create

theorem parsePresetUpdateRequest_eq :
    parsePresetUpdateRequest lib order.updateBody = .ok (.stages order.stages) :=
  parsePresetUpdateRequest_stagesDoc order.staged order.sendable order.update

theorem pathId_eq : Server.pathId (Server.idPath order.presetId) = order.presetId :=
  (Server.pathId_idPath_iff _).mpr order.low

end Order

/-! ## Meanwhile -/

/-- The requests that edit presets. -/
def HttpRequest.Edits : HttpRequest → Prop
  | .createPreset _ => True
  | .updatePreset _ _ => True
  | _ => False

/-- What may happen besides: others edit other presets, and time passes. -/
def Event.Elsewhere (lib : Libraries) (id : UInt64) : Event → Prop
  | .request req => req.Edits ∧ req.addressee lib ≠ some id
  | .tick _ => True

/-- No request for the preset is among them. -/
theorem requestsFor_elsewhere {id : UInt64} {meanwhile : List Event}
    (helsewhere : ∀ e ∈ meanwhile, e.Elsewhere lib id) : requestsFor lib id meanwhile = [] := by
  rw [requestsFor, List.filterMap_eq_nil_iff]
  intro e hmem
  have he := helsewhere e hmem
  cases e with
  | request req => exact if_neg he.2
  | tick input => rfl

namespace Server

variable {s : Server} {id : UInt64} {ptr : PresetPtr} {meanwhile : List Event}

/-- An idle controller with this to do. -/
structure AtRest (s : Server) (queue : List CommandVariant) : Prop where
  idle : s.reflowController.isReflowRunning = false
  queue : s.reflowController.requestsQueue = queue

/-- The preset under this id is selected. -/
def Selected (s : Server) (id : UInt64) : Prop :=
  ∃ ptr, s.reflowController.activePreset = some ptr ∧
    s.presetsHolder.presetsStorage.lookup id = some ptr

variable (lib) in
/-- A request takes no preset away. -/
theorem lookup_handle (req : HttpRequest)
    (hl : s.presetsHolder.presetsStorage.lookup id = some ptr) :
    (s.handle lib req).2.presetsHolder.presetsStorage.lookup id = some ptr := by
  rcases handle_holder lib req s with heq | ⟨id', preset, hfree, heq⟩ | ⟨_, _, _, _, -, -, -, heq⟩
  · rwa [heq]
  · -- a new preset goes under a free id
    rw [heq]
    exact (PresetsHolder.growsTo_insertNew preset hfree).lookup hl
  · rw [heq]
    exact hl

variable (lib) in
/-- Editing presets leaves the controller alone. -/
theorem reflowController_edits {req : HttpRequest} (hedits : req.Edits) (s : Server) :
    (s.handle lib req).2.reflowController = s.reflowController := by
  have hchange := handle_change lib req s
  generalize (s.handle lib req).2 = s' at hchange ⊢
  cases hchange with
  | rejected => rfl
  | created => exact reflowController_addNewPreset _
  | updated => rfl
  | commandPosted => exact hedits.elim
  | paramsPosted => exact hedits.elim

theorem processReflowStep_requestModbusData {c : ReflowProcessController}
    (hidle : c.isReflowRunning = false) (holder : PresetsHolder) (input : TickInput) :
    ((c.requestModbusData input.reading).processReflowStep holder input.freed).bind
      (fun c => .done c.advanceSysTick) = .done (c.requestModbusData input.reading) := by
  have hstill : (c.requestModbusData input.reading).isReflowRunning = false := by
    cases input.reading <;> exact hidle
  rw [processReflowStep_of_idle (.inr hstill), Outcome.bind_done, advanceSysTick, hstill,
    if_neg Bool.false_ne_true]

/-- A tick with nothing to do reads the registers. -/
theorem tick_of_atRest (hrest : s.AtRest []) (tc : Toolchain) (input : TickInput) :
    s.tick tc input =
      { s with reflowController := s.reflowController.requestModbusData input.reading } := by
  rw [tick, runnable, runnable_of_queue_nil hrest.queue,
    processReflowStep_requestModbusData hrest.idle]
  rfl

/-- The controller after the queue with a selection alone. -/
def chosen (id : UInt64) (ptr : PresetPtr) (c : ReflowProcessController) :
    ReflowProcessController :=
  { c with requestsQueue := [], activePresetId := some id, activePreset := some ptr }

/-- A tick that finds a selection makes it. -/
theorem tick_of_select (hrest : s.AtRest [.selectPreset id])
    (hl : s.presetsHolder.presetsStorage.lookup id = some ptr) (tc : Toolchain)
    (input : TickInput) :
    s.tick tc input = { s with
      reflowController := (chosen id ptr s.reflowController).requestModbusData input.reading } := by
  have hidle : (chosen id ptr s.reflowController).isReflowRunning = false := hrest.idle
  have hdispatch : s.reflowController.dispatchCommandsQueue tc s.presetsHolder =
      .done (chosen id ptr s.reflowController) := by
    have hselect : { s.reflowController with requestsQueue := [] }.handlePresetSelection
        s.presetsHolder id = .done (chosen id ptr s.reflowController) :=
      handlePresetSelection_of_some hrest.idle hl
    rw [dispatchCommandsQueue, hrest.queue, Outcome.sweep_cons, handleOperation, visitCommand,
      hrest.queue, List.tail_cons, hselect, Outcome.bind_done, Outcome.sweep_nil]
  rw [tick, runnable, ReflowProcessController.runnable, hdispatch, Outcome.bind_done,
    processReflowStep_requestModbusData hidle]
  rfl

theorem AtRest.requestModbusData {queue : List CommandVariant} (hrest : s.AtRest queue)
    (reading : Option ModbusReading) :
    AtRest ⟨s.presetsHolder, s.reflowController.requestModbusData reading⟩ queue := by
  cases reading <;> exact ⟨hrest.idle, hrest.queue⟩

theorem Selected.requestModbusData (hselected : s.Selected id)
    (reading : Option ModbusReading) :
    Selected ⟨s.presetsHolder, s.reflowController.requestModbusData reading⟩ id := by
  obtain ⟨ptr, hactive, hl⟩ := hselected
  cases reading <;> exact ⟨ptr, hactive, hl⟩

theorem AtRest.handle {queue : List CommandVariant} {req : HttpRequest} (hedits : req.Edits)
    (hrest : s.AtRest queue) : (s.handle lib req).2.AtRest queue := by
  have hsame := reflowController_edits lib hedits s
  constructor
  · rw [hsame]
    exact hrest.idle
  · rw [hsame]
    exact hrest.queue

theorem Selected.handle {req : HttpRequest} (hedits : req.Edits) (hselected : s.Selected id) :
    (s.handle lib req).2.Selected id := by
  obtain ⟨ptr, hactive, hl⟩ := hselected
  refine ⟨ptr, ?_, lookup_handle lib req hl⟩
  rw [reflowController_edits lib hedits]
  exact hactive

/-- **Run lemma** of a controller with nothing to do. -/
theorem atRest_meanwhile (helsewhere : ∀ e ∈ meanwhile, e.Elsewhere lib id)
    (hrest : s.AtRest []) : ((service lib).run s meanwhile).AtRest [] := by
  induction meanwhile generalizing s with
  | nil => exact hrest
  | cons e meanwhile ih =>
    obtain ⟨he, hlater⟩ := List.forall_mem_cons.mp helsewhere
    refine ih hlater ?_
    cases e with
    | request req => exact hrest.handle he.1
    | tick input =>
      show (s.tick lib.toToolchain input).AtRest []
      rw [tick_of_atRest hrest]
      exact hrest.requestModbusData _

/-- It keeps its selection. -/
theorem selected_meanwhile (helsewhere : ∀ e ∈ meanwhile, e.Elsewhere lib id)
    (hrest : s.AtRest []) (hselected : s.Selected id) :
    ((service lib).run s meanwhile).Selected id := by
  induction meanwhile generalizing s with
  | nil => exact hselected
  | cons e meanwhile ih =>
    obtain ⟨he, hlater⟩ := List.forall_mem_cons.mp helsewhere
    cases e with
    | request req => exact ih hlater (hrest.handle he.1) (hselected.handle he.1)
    | tick input =>
      show ((service lib).run (s.tick lib.toToolchain input) meanwhile).Selected id
      rw [tick_of_atRest hrest]
      exact ih hlater (hrest.requestModbusData _) (hselected.requestModbusData _)

/-- **Run lemma** of a controller with a selection to make: the first tick makes it. -/
theorem selects_meanwhile (helsewhere : ∀ e ∈ meanwhile, e.Elsewhere lib id)
    (htick : ∃ input, .tick input ∈ meanwhile) (hrest : s.AtRest [.selectPreset id])
    (hl : s.presetsHolder.presetsStorage.lookup id = some ptr) :
    ((service lib).run s meanwhile).AtRest [] ∧ ((service lib).run s meanwhile).Selected id := by
  induction meanwhile generalizing s with
  | nil =>
    obtain ⟨input, hmem⟩ := htick
    exact absurd hmem List.not_mem_nil
  | cons e meanwhile ih =>
    obtain ⟨he, hlater⟩ := List.forall_mem_cons.mp helsewhere
    cases e with
    | request req =>
      obtain ⟨input, hmem⟩ := htick
      exact ih hlater ⟨input, by simpa using hmem⟩ (hrest.handle he.1) (lookup_handle lib req hl)
    | tick input =>
      have hchosen : AtRest ⟨s.presetsHolder, chosen id ptr s.reflowController⟩ [] :=
        ⟨hrest.idle, rfl⟩
      have hselected : Selected ⟨s.presetsHolder, chosen id ptr s.reflowController⟩ id :=
        ⟨ptr, rfl, hl⟩
      have hread := hchosen.requestModbusData input.reading
      have hstep : (service lib).step s (.tick input) = ⟨s.presetsHolder,
          (chosen id ptr s.reflowController).requestModbusData input.reading⟩ :=
        tick_of_select hrest hl lib.toToolchain input
      -- from here on there is nothing to do
      rw [System.run_cons, hstep]
      exact ⟨atRest_meanwhile hlater hread,
        selected_meanwhile hlater hread (hselected.requestModbusData _)⟩

theorem reachable_handle (req : HttpRequest) (hs : (operations lib.toToolchain).Reachable s) :
    (operations lib.toToolchain).Reachable (s.handle lib req).2 := by
  obtain ⟨ops, hops⟩ := handle_run req s
  rw [hops]
  exact hs.run ops

theorem reachable_session (events : List Event) (hs : (operations lib.toToolchain).Reachable s) :
    (operations lib.toToolchain).Reachable ((service lib).run s events) := by
  induction events generalizing s with
  | nil => exact hs
  | cons e events ih =>
    cases e with
    | request req => exact ih (reachable_handle req hs)
    | tick input =>
      have hticked : (operations lib.toToolchain).Reachable (s.tick lib.toToolchain input) :=
        .step (i := Operation.tick input) hs trivial
      exact ih hticked

/-- Elsewhere nothing happens to the recipe. -/
theorem recipes_meanwhile (helsewhere : ∀ e ∈ meanwhile, e.Elsewhere lib id) (s : Server) :
    ((service lib).run s meanwhile).presetsHolder.recipes id = s.presetsHolder.recipes id := by
  rw [recipes_run, requestsFor_elsewhere helsewhere]
  rfl

/-! ## The four requests -/

variable (order : Order lib)

/-- The preset is created. -/
theorem handle_create (hfree : s.presetsHolder.recipes order.presetId = none) :
    (s.handle lib order.createRequest).1 =
        .ok ⟨k200OK, .json (.object [("preset-id", .numberUnsigned order.presetId)])⟩ ∧
      (s.handle lib order.createRequest).2.presetsHolder.recipes order.presetId =
        some ⟨order.name, []⟩ := by
  have hnone : s.oven.recipes (lib.hash order.name) = none := hfree
  constructor
  · refine (congrArg Prod.fst (handle_oven lib order.createRequest s)).trans ?_
    simp only [Order.createRequest, Oven.change, Oven.createPreset, order.parsePresetName_eq,
      hnone, Order.presetId]
  · have hfor : order.createRequest.addressee lib = some order.presetId := by
      simp only [Order.createRequest, HttpRequest.addressee, order.parsePresetName_eq,
        Order.presetId]
    rw [recipes_handle, if_pos hfor, hfree]
    simp only [Order.createRequest, HttpRequest.effect, order.parsePresetName_eq, Option.getD_none]

/-- It gets the stages. -/
theorem handle_update
    (hcreated : s.presetsHolder.recipes order.presetId = some ⟨order.name, []⟩) :
    (s.handle lib order.updateRequest).1 = .ok .ok ∧
      (s.handle lib order.updateRequest).2.presetsHolder.recipes order.presetId =
        some ⟨order.name, order.stages⟩ := by
  have hsome : s.oven.recipes order.presetId = some ⟨order.name, []⟩ := hcreated
  constructor
  · refine (congrArg Prod.fst (handle_oven lib order.updateRequest s)).trans ?_
    simp only [Order.updateRequest, Oven.change, Oven.updatePreset, order.pathId_eq, hsome,
      order.parsePresetUpdateRequest_eq]
  · have hfor : order.updateRequest.addressee lib = some order.presetId :=
      congrArg some order.pathId_eq
    rw [recipes_handle, if_pos hfor, hcreated]
    simp [Order.updateRequest, HttpRequest.effect, order.parsePresetUpdateRequest_eq,
      Recipe.update]

theorem handle_select (s : Server) : s.handle lib order.selectRequest =
    (.ok .ok, s.postCommand (.selectPreset order.presetId)) :=
  pushCommand_selectDoc order.select s

theorem handle_start (s : Server) :
    s.handle lib order.startRequest = (.ok .ok, s.postCommand .startReflow) := by
  have hparse : CommandsParser.parseCommandContext lib order.startBody =
      .ok (.ok .startReflow) := by
    unfold CommandsParser.parseCommandContext CommandsParser.parseCommand
    rw [order.start]
    rfl
  simp only [Order.startRequest, handle, pushCommand, hparse]

theorem AtRest.postCommand (hrest : s.AtRest []) (command : CommandVariant) :
    (s.postCommand command).AtRest [command] := by
  refine ⟨hrest.idle, ?_⟩
  show s.reflowController.requestsQueue ++ [command] = [command]
  rw [hrest.queue, List.nil_append]

/-- A start begins a run of what is selected. -/
theorem exists_starting {tc : Toolchain} {recipe : Recipe} (hs : (operations tc).Reachable s)
    (hrest : s.AtRest []) (hselected : s.Selected id)
    (hrecipe : s.presetsHolder.recipes id = some recipe) (hstages : recipe.stages ≠ []) :
    ∃ ptr, Starting tc (s.postCommand .startReflow) ptr ∧
      ((s.postCommand .startReflow).presetsHolder.objects ptr).recipe = recipe := by
  obtain ⟨ptr, hactive, hl⟩ := hselected
  have hobject : (s.presetsHolder.objects ptr).recipe = recipe :=
    Option.some.inj ((recipes_of_lookup hl).symm.trans hrecipe)
  have hnumStages : 0 < (s.presetsHolder.objects ptr).numStages := by
    have hitems : (s.presetsHolder.objects ptr).presetItems.items = recipe.stages :=
      congrArg Recipe.stages hobject
    rw [Preset.numStages_eq, hitems]
    exact List.length_pos_of_ne_nil hstages
  have hposted := hrest.postCommand .startReflow
  exact ⟨ptr, ⟨.step (i := Operation.postCommand .startReflow) hs trivial, hposted.idle,
    hposted.queue, hactive, hnumStages⟩, hobject⟩

/-- **An order is carried out.** An idle server with an empty queue, whatever happened to it, gets
the four requests of an order with a new name, and a tick between the selection and the start.
Before and between them others edit their presets, and any number of ticks pass. Every request is
answered with 200, the first one with the id the others use, and what is about to begin is a run of
the recipe ordered. -/
theorem order_starts (order : Order lib) (hs : (operations lib.toToolchain).Reachable s)
    (hrest : s.AtRest []) (hfree : s.presetsHolder.recipes order.presetId = none)
    (earlier created updated selected : List Event)
    (helsewhere : ∀ e ∈ earlier ++ created ++ updated ++ selected, e.Elsewhere lib order.presetId)
    (htick : ∃ input, .tick input ∈ selected) :
    let s₁ := (service lib).run s earlier
    let s₂ := (service lib).run (s₁.handle lib order.createRequest).2 created
    let s₃ := (service lib).run (s₂.handle lib order.updateRequest).2 updated
    let s₄ := (service lib).run (s₃.handle lib order.selectRequest).2 selected
    (s₁.handle lib order.createRequest).1 =
        .ok ⟨k200OK, .json (.object [("preset-id", .numberUnsigned order.presetId)])⟩ ∧
      (s₂.handle lib order.updateRequest).1 = .ok .ok ∧
      (s₃.handle lib order.selectRequest).1 = .ok .ok ∧
      (s₄.handle lib order.startRequest).1 = .ok .ok ∧
      ∃ ptr, Starting lib.toToolchain (s₄.handle lib order.startRequest).2 ptr ∧
        ((s₄.handle lib order.startRequest).2.presetsHolder.objects ptr).recipe =
          ⟨order.name, order.stages⟩ := by
  intro s₁ s₂ s₃ s₄
  simp only [List.mem_append, or_imp, forall_and] at helsewhere
  obtain ⟨⟨⟨hearlier, hcreated⟩, hupdated⟩, hselected⟩ := helsewhere
  -- the recipe
  have hrecipe₁ : s₁.presetsHolder.recipes order.presetId = none :=
    (recipes_meanwhile hearlier s).trans hfree
  obtain ⟨hcreate, hpreset⟩ := handle_create order hrecipe₁
  have hrecipe₂ := (recipes_meanwhile hcreated _).trans hpreset
  obtain ⟨hupdate, hstages⟩ := handle_update order hrecipe₂
  have hrecipe₃ : s₃.presetsHolder.recipes order.presetId = some ⟨order.name, order.stages⟩ :=
    (recipes_meanwhile hupdated _).trans hstages
  have hselect := handle_select order s₃
  have hstart := handle_start order s₄
  have hrecipe₄ : s₄.presetsHolder.recipes order.presetId = some ⟨order.name, order.stages⟩ := by
    refine (recipes_meanwhile hselected _).trans ?_
    rw [hselect]
    exact hrecipe₃
  -- the controller
  have hrest₁ : s₁.AtRest [] := atRest_meanwhile hearlier hrest
  have hrest₂ : s₂.AtRest [] := atRest_meanwhile hcreated (hrest₁.handle trivial)
  have hrest₃ : s₃.AtRest [] := atRest_meanwhile hupdated (hrest₂.handle trivial)
  obtain ⟨ptr, hl, -⟩ := Option.map_eq_some_iff.mp hrecipe₃
  -- the selection waits in the queue for the first tick behind it
  have hrest₄ : s₄.AtRest [] ∧ s₄.Selected order.presetId := by
    refine selects_meanwhile hselected htick ?_ (lookup_handle lib _ hl)
    rw [hselect]
    exact hrest₃.postCommand _
  -- the run
  have hs₁ := reachable_session earlier hs
  have hs₂ := reachable_session created (reachable_handle order.createRequest hs₁)
  have hs₃ := reachable_session updated (reachable_handle order.updateRequest hs₂)
  have hs₄ := reachable_session selected (reachable_handle order.selectRequest hs₃)
  refine ⟨hcreate, hupdate, by rw [hselect], by rw [hstart], ?_⟩
  rw [hstart]
  exact exists_starting hs₄ hrest₄.1 hrest₄.2 hrecipe₄ order.staged

/-- The order of the session, as its texts spell it. -/
def sessionOrder : Order sessionLibraries where
  name := "lead"
  stages := [⟨183, 30⟩]
  named := by decide
  staged := List.cons_ne_nil _ _
  sendable := by simp [StageItem.Sendable]
  low := by decide
  createBody := asciiBytes createText
  updateBody := asciiBytes stagesText
  selectBody := asciiBytes selectText
  startBody := asciiBytes startText
  create := rfl
  update := rfl
  select := rfl
  start := rfl

/-- Somebody updates a preset that is not there, and two seconds pass. -/
theorem order_starts_sessionOrder :
    let others : Event := .request (.updatePreset "5" [])
    let silent : Event := .tick ⟨none, ⟨0, 0⟩⟩
    let s₁ := (service sessionLibraries).run make [silent]
    let s₂ := (service sessionLibraries).run
      (s₁.handle sessionLibraries sessionOrder.createRequest).2 [others]
    let s₃ := (s₂.handle sessionLibraries sessionOrder.updateRequest).2
    let s₄ := (service sessionLibraries).run
      (s₃.handle sessionLibraries sessionOrder.selectRequest).2 [others, silent]
    ∃ ptr, Starting sessionLibraries.toToolchain
        (s₄.handle sessionLibraries sessionOrder.startRequest).2 ptr ∧
      ((s₄.handle sessionLibraries sessionOrder.startRequest).2.presetsHolder.objects ptr).recipe =
        ⟨"lead", [⟨183, 30⟩]⟩ := by
  intro others silent s₁ s₂ s₃ s₄
  have hothers : others.Elsewhere sessionLibraries sessionOrder.presetId :=
    ⟨trivial, by decide⟩
  have hsilent : silent.Elsewhere sessionLibraries sessionOrder.presetId := trivial
  have hdone := order_starts sessionOrder (.start constructed_make) ⟨rfl, rfl⟩ rfl [silent] [others]
    [] [others, silent]
    (by simp [hothers, hsilent]) ⟨_, List.mem_cons_of_mem _ List.mem_cons_self⟩
  exact hdone.2.2.2.2

end Server

end ReflowTable

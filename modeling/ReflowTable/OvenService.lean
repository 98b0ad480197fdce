import ReflowTable.OvenRefinement
import ReflowTable.Queries

/-!
# The service is the oven's service

The requests as an oven answers them, on its recipes, its run and its data. Over a whole session
the server gives the same answers to the same requests, errors and exceptions included
(`Server.service_refines`).
-/

namespace ReflowTable

open ReflowProcessController
open RequestUtils (PresetRequestVariant)
open Listings (listing)

/-- What a client asks for, and what the clock does. -/
inductive Call
  | change (req : HttpRequest)
  | query (q : Query)
  | tick (input : TickInput)

/-- What a client gets. -/
inductive Answer
  | change (outcome : Except HandlerException HttpResponse)
  | query (outcome : Except GetPresetException HttpResponse)

/-! ## The oven's answers -/

namespace Recipe

/-- The new stages replace the first of the old ones. -/
def update (parsedState : PresetRequestVariant) (recipe : Recipe) : Recipe :=
  match parsedState with
  | .name itemName => { recipe with name := itemName }
  | .stages stagesContainer =>
    { recipe with stages := stagesContainer ++ recipe.stages.drop stagesContainer.length }
  | .monostate => recipe

def document (recipe : Recipe) : Json :=
  .object [("preset-name", .string recipe.name),
    ("stages", .array (recipe.stages.map temperatureStamp))]

end Recipe

namespace Oven

variable (lib : Libraries)

def post (command : CommandVariant) (o : Oven) : Oven := { o with queue := o.queue ++ [command] }

/-- The exceptions of the holder. -/
def taken (presetName : String) : HandlerException :=
  .fault (.runtimeError s!"Attempt to add an existing preset with the name:{presetName}")

def unknown (presetId : UInt64) : Fault :=
  .runtimeError s!"Attempt to take unexisting preset by id:{presetId}"

def createPreset (body : Body) (o : Oven) : Except HandlerException HttpResponse × Oven :=
  match RequestUtils.parsePresetName lib (lib.urlDecode body) with
  | .error e => (.error (.json e), o)
  | .ok none => (.ok ⟨k400BadRequest, .empty⟩, o)
  | .ok (some presetName) =>
    match o.recipes (lib.hash presetName) with
    | some _ => (.error (taken presetName), o)
    | none =>
      (.ok ⟨k200OK, .json (.object [("preset-id", .numberUnsigned (lib.hash presetName))])⟩,
        o.add (lib.hash presetName) ⟨presetName, []⟩)

def updatePreset (presetId : UInt64) (body : Body) (o : Oven) :
    Except HandlerException HttpResponse × Oven :=
  match o.recipes presetId with
  | none => (.error (.fault (unknown presetId)), o)
  | some _ =>
    match RequestUtils.parsePresetUpdateRequest lib body with
    | .error e => (.error (.json e), o)
    | .ok parsedState => (.ok .ok, o.edit presetId (Recipe.update parsedState))

def pushCommand (body : Body) (o : Oven) : Except HandlerException HttpResponse × Oven :=
  match CommandsParser.parseCommandContext lib body with
  | .error e => (.error (.json e), o)
  | .ok (.error message) => (.ok ⟨k400BadRequest, .text message⟩, o)
  | .ok (.ok command) => (.ok .ok, o.post command)

def setRegulatorParams (body : Body) (o : Oven) : Except HandlerException HttpResponse × Oven :=
  if o.run.isSome then
    (.ok ⟨k400BadRequest,
      .text "Reflow process is running. Can't change the regulator settings"⟩, o)
  else
    match RequestUtils.parseRegulatorParams lib body with
    | .error e => (.error (.json e), o)
    | .ok (.error message) => (.ok ⟨k400BadRequest, .text message⟩, o)
    | .ok (.ok params) => (.ok .ok, o.post (.setRegulatorParams params))

def change (o : Oven) : HttpRequest → Except HandlerException HttpResponse × Oven
  | .createPreset body => o.createPreset lib body
  | .updatePreset presetId body => o.updatePreset lib (Server.pathId presetId) body
  | .pushCommand body => o.pushCommand lib body
  | .setRegulatorParams body => o.setRegulatorParams lib body

def getPreset (presetId : String) (o : Oven) : Except GetPresetException HttpResponse :=
  match Numerals.stoull presetId.toList with
  | .error e => .error (.number e)
  | .ok id =>
    match o.recipes (.ofNat id) with
    | none => .error (.fault (unknown (.ofNat id)))
    | some recipe => .ok ⟨k200OK, .json recipe.document⟩

noncomputable def getPresets (o : Oven) : HttpResponse :=
  ⟨k200OK, .json (.array ((listing o.recipes).map fun entry => presetObj entry.1 entry.2.name))⟩

def getStats (o : Oven) : HttpResponse :=
  ⟨k200OK, .json (statsDocument o.data.tableTemperature o.data.surroundingTemperature o.elapsed
    o.run.isSome o.selected)⟩

def getRegulatorParams (o : Oven) : HttpResponse :=
  ⟨k200OK, .json (regulatorDocument o.data.regulator)⟩

noncomputable def answer (o : Oven) : Query → Except GetPresetException HttpResponse
  | .getPreset presetId => o.getPreset presetId
  | .getPresets => .ok o.getPresets
  | .getStats => .ok o.getStats
  | .getRegulatorParams => .ok o.getRegulatorParams

/-- A call to an oven, with the answers given so far. -/
noncomputable def serve (session : Oven × List Answer) : Call → Option (Oven × List Answer)
  | .change req =>
    let (outcome, o) := session.1.change lib req
    some (o, session.2 ++ [.change outcome])
  | .query q => some (session.1, session.2 ++ [.query (session.1.answer q)])
  | .tick input =>
    (session.1.tick lib.toToolchain input.reading).map fun o => (o, session.2)

end Oven

/-! ## The server's answers are the oven's -/

namespace Server

variable (lib : Libraries)

/-- A call to the server, with the answers given so far. -/
def serve (session : Server × List Answer) : Call → Option (Server × List Answer)
  | .change req =>
    let (outcome, s) := session.1.handle lib req
    some (s, session.2 ++ [.change outcome])
  | .query q => some (session.1, session.2 ++ [.query (session.1.answer q)])
  | .tick input =>
    (session.1.attempt lib.toToolchain (.tick input)).map fun s => (s, session.2)

variable {lib} {s : Server}

theorem recipes_eq_none_iff {h : PresetsHolder} {id : UInt64} :
    h.recipes id = none ↔ h.presetsStorage.lookup id = none := by
  rw [PresetsHolder.recipes, Option.map_eq_none_iff]

theorem recipes_of_lookup {h : PresetsHolder} {id : UInt64} {ptr : PresetPtr}
    (hl : h.presetsStorage.lookup id = some ptr) : h.recipes id = some (h.objects ptr).recipe := by
  rw [PresetsHolder.recipes, hl, Option.map_some]

variable (lib) in
theorem recipe_parseResultVisitor (parsedState : PresetRequestVariant) (p : Preset) :
    (parseResultVisitor lib parsedState p).recipe = p.recipe.update parsedState := by
  cases parsedState with
  | name itemName => rfl
  | stages stagesContainer =>
    rw [parseResultVisitor, Preset.recipe, Preset.items_replaceStages,
      Preset.presetName_replaceStages]
    rfl
  | monostate => rfl

theorem document_recipe (p : Preset) : p.recipe.document = p.document := by
  rw [Preset.document, Preset.stagesArray_eq]
  rfl

theorem createPreset_oven (body : Body) (s : Server) :
    (s.createPreset lib body).map id oven = s.oven.createPreset lib body := by
  unfold createPreset Oven.createPreset
  cases RequestUtils.parsePresetName lib (lib.urlDecode body) with
  | error e => rfl
  | ok parsed =>
    cases parsed with
    | none => rfl
    | some presetName =>
      have hadd := oven_addNewPreset lib.toToolchain presetName s
      unfold addNewPreset at hadd
      dsimp only
      by_cases hfree : s.presetsHolder.presetsStorage.lookup (lib.hash presetName) = none
      · have hnone : s.oven.recipes (lib.hash presetName) = none := recipes_eq_none_iff.mpr hfree
        rw [PresetsHolder.addNewPreset_of_free hfree] at hadd ⊢
        rw [hnone]
        dsimp only at hadd ⊢
        rw [← hadd]
        rfl
      · obtain ⟨ptr, hptr⟩ := Option.ne_none_iff_exists'.mp hfree
        have hsome : s.oven.recipes (lib.hash presetName) = _ := recipes_of_lookup hptr
        rw [PresetsHolder.addNewPreset_of_taken hfree, hsome]
        rfl

theorem updatePreset_oven (presetId : String) (body : Body) (s : Server) :
    (s.updatePreset lib presetId body).map id oven =
      s.oven.updatePreset lib (pathId presetId) body := by
  unfold updatePreset Oven.updatePreset
  cases hl : s.presetsHolder.presetsStorage.lookup (pathId presetId) with
  | none =>
    have hnone : s.oven.recipes (pathId presetId) = none := recipes_eq_none_iff.mpr hl
    rw [PresetsHolder.getPresetById_of_lookup_none hl, hnone]
    rfl
  | some ptr =>
    have hsome : s.oven.recipes (pathId presetId) = _ := recipes_of_lookup hl
    rw [PresetsHolder.getPresetById_eq_ok.mpr hl, hsome]
    cases RequestUtils.parsePresetUpdateRequest lib body with
    | error e => rfl
    | ok parsedState =>
      have hedit := oven_onPreset (recipe_parseResultVisitor lib parsedState)
        (pathId presetId) s
      rw [onPreset_of_lookup _ hl] at hedit
      dsimp only
      rw [← hedit]
      rfl

theorem pushCommand_oven (body : Body) (s : Server) :
    (s.pushCommand lib body).map id oven = s.oven.pushCommand lib body := by
  unfold pushCommand Oven.pushCommand
  cases CommandsParser.parseCommandContext lib body with
  | error e => rfl
  | ok parsed => cases parsed <;> rfl

theorem isSome_run_oven (s : Server) : s.oven.run.isSome = s.reflowController.isRunning := by
  cases hrun : s.reflowController.isReflowRunning <;> simp [oven, ovenOver, run?, isRunning, hrun]

theorem setRegulatorParams_oven (body : Body) (s : Server) :
    (s.setRegulatorParams lib body).map id oven = s.oven.setRegulatorParams lib body := by
  unfold setRegulatorParams Oven.setRegulatorParams
  rw [isSome_run_oven]
  split_ifs
  · rfl
  · cases RequestUtils.parseRegulatorParams lib body with
    | error e => rfl
    | ok parsed => cases parsed <;> rfl

variable (lib) in
/-- **Step lemma for requests.** -/
theorem handle_oven (req : HttpRequest) (s : Server) :
    (s.handle lib req).map id oven = s.oven.change lib req := by
  cases req with
  | createPreset body => exact createPreset_oven body s
  | updatePreset presetId body => exact updatePreset_oven presetId body s
  | pushCommand body => exact pushCommand_oven body s
  | setRegulatorParams body => exact setRegulatorParams_oven body s

theorem getPreset_oven (presetId : String) (s : Server) :
    s.getPreset presetId = s.oven.getPreset presetId := by
  unfold getPreset Oven.getPreset
  cases Numerals.stoull presetId.toList with
  | error e => rfl
  | ok id =>
    dsimp only
    cases hl : s.presetsHolder.presetsStorage.lookup (.ofNat id) with
    | none =>
      have hnone : s.oven.recipes (.ofNat id) = none := recipes_eq_none_iff.mpr hl
      rw [PresetsHolder.getPresetById_of_lookup_none hl, hnone]
      rfl
    | some ptr =>
      have hsome : s.oven.recipes (.ofNat id) = _ := recipes_of_lookup hl
      rw [PresetsHolder.getPresetById_eq_ok.mpr hl, hsome]
      dsimp only
      rw [document_recipe]

/-- The presets, from the least id to the greatest. -/
theorem lists_recipes (h : PresetsHolder) :
    Listings.Lists (h.presetsStorage.ascending.map fun entry =>
      (entry.1, (h.objects entry.2).recipe)) h.recipes :=
  h.presetsStorage.lists_ascending.map fun ptr => (h.objects ptr).recipe

theorem getPresets_oven (s : Server) : s.getPresets = s.oven.getPresets := by
  have hlisting : listing s.oven.recipes = _ := (lists_recipes s.presetsHolder).listing_eq
  rw [getPresets_eq, Oven.getPresets, hlisting, List.map_map]
  rfl

theorem getStats_oven (htime : 0 ≤ s.reflowController.sysTickTime) :
    s.getStats = s.oven.getStats := by
  have hseconds : s.reflowController.sysTickTime.tdiv 1000 = s.oven.elapsed :=
    Int.tdiv_eq_ediv_of_nonneg htime
  rw [Oven.getStats, isSome_run_oven, ← hseconds]
  rfl

/-- **Step lemma for the requests that only read.** -/
theorem answer_oven (htime : 0 ≤ s.reflowController.sysTickTime) (q : Query) :
    s.answer q = s.oven.answer q := by
  cases q with
  | getPreset presetId => exact getPreset_oven presetId s
  | getPresets => exact congrArg Except.ok (getPresets_oven s)
  | getStats => exact congrArg Except.ok (getStats_oven htime)
  | getRegulatorParams => rfl

/-! ## Whole sessions -/

/-- What the controller keeps over a session. -/
structure Serving (s : Server) : Prop where
  tracks : Tracks s.presetsHolder s.reflowController
  time_nonneg : 0 ≤ s.reflowController.sysTickTime

theorem growsTo_handle (req : HttpRequest) (s : Server) :
    s.presetsHolder.GrowsTo (s.handle lib req).2.presetsHolder := by
  rcases handle_holder lib req s with heq | ⟨id, preset, hfree, heq⟩ |
    ⟨presetId, body, ptr, parsedState, -, -, -, heq⟩
  · rw [heq]
    exact .refl _
  · rw [heq]
    exact PresetsHolder.growsTo_insertNew preset hfree
  · rw [heq]
    refine PresetsHolder.growsTo_modify ?_
    have hstages := congrArg (fun recipe => recipe.stages.length)
      (recipe_parseResultVisitor lib parsedState (s.presetsHolder.objects ptr))
    rw [Preset.numStages_eq, Preset.numStages_eq]
    refine le_of_le_of_eq ?_ hstages.symm
    cases parsedState <;> simp [Recipe.update, Preset.recipe]
    omega

theorem Serving.handle (hs : s.Serving) {req : HttpRequest}
    (hkeeps : s.KeepsStages (s.handle lib req).2) : (s.handle lib req).2.Serving := by
  have hgrown := hs.tracks.grow (growsTo_handle req s) hkeeps
  rcases handle_controller lib req s with heq | ⟨command, heq, -⟩
  · exact ⟨by rwa [heq], by rw [heq]; exact hs.time_nonneg⟩
  · have hposted : Tracks _ (s.reflowController.postCommand command) :=
      hgrown.congr rfl rfl rfl rfl rfl rfl
    exact ⟨by rwa [heq], by rw [heq]; exact hs.time_nonneg⟩

theorem time_runnable_nonneg (tc : Toolchain) (input : TickInput)
    (htime : 0 ≤ s.reflowController.sysTickTime) :
    0 ≤ (s.runnable tc input).state.sysTickTime := by
  refine runnable_keeps tc s.presetsHolder input (I := fun c => 0 ≤ c.sysTickTime)
    (fun c c' hstep hc => ?_) _ htime
  cases hstep with
  | command hcommand =>
    cases hcommand with
    | stop => exact Int.one_nonneg
    | _ => exact hc
  | read words => exact hc
  | process hprocess =>
    cases hprocess with
    | finish => exact Int.one_nonneg
    | advance => exact Int.add_nonneg hc (by decide)
    | _ => exact hc

theorem Serving.runnable (hs : s.Serving) {tc : Toolchain} {input : TickInput}
    {c : ReflowProcessController} (hdone : s.runnable tc input = .done c) :
    Serving { s with reflowController := c } := by
  have htime := time_runnable_nonneg tc input hs.time_nonneg
  rw [hdone] at htime
  exact ⟨tracks_runnable hs.tracks hdone, htime⟩

variable (lib) in
/-- No request moves a stage while it is being preheated. -/
def SteadyCall (session : Server × List Answer) : Call → Prop
  | .change req => session.1.KeepsStages (session.1.handle lib req).2
  | _ => True

instance (session : Server × List Answer) : (call : Call) → Decidable (SteadyCall lib session call)
  | .change req => inferInstanceAs (Decidable (session.1.KeepsStages (session.1.handle lib req).2))
  | .query _ => .isTrue trivial
  | .tick _ => .isTrue trivial

/-- **Step lemma.** -/
theorem serve_oven {session : Server × List Answer} (hs : session.1.Serving) (call : Call) :
    (serve lib session call).map (Prod.map oven id) =
      Oven.serve lib (session.1.oven, session.2) call := by
  cases call with
  | change req =>
    have hchange := handle_oven lib req session.1
    simp only [serve, Oven.serve, ← hchange]
    rfl
  | query q =>
    simp only [serve, Oven.serve, answer_oven hs.time_nonneg q]
    rfl
  | tick input =>
    have hattempt := attempt_oven lib.toToolchain hs.tracks (.tick input)
    rw [Oven.apply] at hattempt
    simp only [serve, Oven.serve, ← hattempt, Option.map_map]
    rfl

theorem serving_serve {session session' : Server × List Answer} (hs : session.1.Serving)
    {call : Call} (hsteady : SteadyCall lib session call)
    (hserve : serve lib session call = some session') : session'.1.Serving := by
  cases call with
  | change req =>
    obtain rfl := Option.some.inj hserve
    exact hs.handle hsteady
  | query q =>
    obtain rfl := Option.some.inj hserve
    exact hs
  | tick input =>
    obtain ⟨s', hattempt, rfl⟩ := Option.map_eq_some_iff.mp hserve
    obtain ⟨c, hdone, rfl⟩ := Option.map_eq_some_iff.mp hattempt
    exact hs.runnable (Outcome.done?_eq_some_iff.mp hdone)

/-- **The service is the oven's service.** Over every session of requests and ticks, with any
bodies, paths and register answers: the server answers every request as an oven does, with the
same document, error or exception, it is left with the oven the session makes, and it dies in a
tick exactly when the oven does. All that is asked is that no update moves the stages of the run's
preset while one of them is being preheated. -/
theorem service_refines (lib : Libraries) (t : ℤ) (calls : List Call)
    (hsteady : PartialRun.Meets (serve lib) (SteadyCall lib) (⟨.make, .make t⟩, []) calls) :
    (calls.foldlM (serve lib) (⟨.make, .make t⟩, [])).map (Prod.map oven id) =
      calls.foldlM (Oven.serve lib) (.new, []) := by
  have hnew : (Oven.new, ([] : List Answer)) =
      Prod.map oven id ((⟨.make, .make t⟩, []) : Server × List Answer) := rfl
  rw [hnew]
  exact PartialRun.map_foldlM (I := fun session => session.1.Serving)
    (fun _ call hs _ => serve_oven hs call)
    (fun _ _ _ hs hsteady hserve => serving_serve hs hsteady hserve)
    ⟨Tracks.make t, Int.le_refl 0⟩ hsteady

/-- A client makes a preset and starts it, and reads along. -/
def watchedSession : List Call :=
  [.change (.createPreset (asciiBytes createText)),
    .change (.updatePreset "4" (asciiBytes stagesText)), .query .getPresets,
    .change (.pushCommand (asciiBytes selectText)), .change (.pushCommand (asciiBytes startText)),
    .tick ⟨none, ⟨0, 0⟩⟩, .change (.updatePreset "4" (asciiBytes stagesText)), .query .getStats]

/-- The last answer: the run has lasted a second. -/
theorem service_refines_watchedSession :
    (watchedSession.foldlM (Oven.serve sessionLibraries) (.new, [])).map (·.2.getLast?) =
      some (some (.query (.ok ⟨k200OK, .json (statsDocument 0 0 1 true (some 4))⟩))) := by
  rw [← service_refines sessionLibraries 0 watchedSession (by decide)]
  rfl

end Server

end ReflowTable

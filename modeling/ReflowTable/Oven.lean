import ReflowTable.Profile

/-!
# The oven

What the server is for, without its machinery: recipes under ids, a selection, and a run that
takes the stages of the selected recipe one after another. There are no objects behind the recipes
and no pointers to their stages, a stage is looked up when it is judged; soaking counts down
seconds; what throws in the program ends the oven for good. `ReflowTable.OvenRefinement` shows that
the program behaves as the oven does.
-/

namespace ReflowTable

/-- A preset as its users know it. -/
structure Recipe where
  name : String
  stages : List StageItem
deriving DecidableEq

namespace Oven

/-- What a run does with its stage. -/
inductive Phase
  | entering
  | preheating
  /-- the seconds left -/
  | soaking (left : ℤ)
  | leaving
deriving DecidableEq

structure Run where
  stage : ℕ
  phase : Phase
deriving DecidableEq

/-- A second of the run passes. -/
def Run.pass (run : Run) : Run :=
  match run.phase with
  | .soaking left => { run with phase := .soaking (left - 1) }
  | _ => run

end Oven

structure Oven where
  recipes : UInt64 → Option Recipe
  selected : Option UInt64
  run : Option Oven.Run
  /-- the seconds the run has lasted -/
  elapsed : ℤ
  data : LastModbusData
  queue : List CommandVariant
  /-- the registers requested to be written so far -/
  writes : List RegistersWrite

namespace Oven

/-- Before anything has happened. -/
def new : Oven where
  recipes _ := none
  selected := none
  run := none
  elapsed := 0
  data := ⟨0, 0, ⟨0, 0⟩⟩
  queue := []
  writes := []

/-- The stages of the selected recipe. -/
def stages (o : Oven) : List StageItem :=
  match o.selected.bind o.recipes with
  | none => []
  | some recipe => recipe.stages

def write (registerAddress : UInt16) (registers : List UInt16) (o : Oven) : Oven :=
  { o with writes := o.writes ++ [⟨registerAddress, registers⟩] }

/-- The run ends: the heater goes off, and the selection is forgotten. -/
def endRun (o : Oven) : Oven :=
  { o.write kTargetTemperatureAddr [0] with selected := none, run := none, elapsed := 0 }

/-! ## Commands -/

/-- A start during a run takes its stage again; selections are for idle times, and one of an
unknown recipe ends the oven. -/
def handle (tc : Toolchain) (o : Oven) : CommandVariant → Option Oven
  | .startReflow =>
    match o.selected, o.run with
    | none, _ => some o
    | some _, none => some { o with run := some ⟨0, .entering⟩ }
    | some _, some run => some { o with run := some ⟨run.stage, .entering⟩ }
  | .stopReflow => some (if o.run.isSome then o.endRun else o)
  | .selectPreset presetId =>
    if o.run.isSome then some o
    else (o.recipes presetId).map fun _ => { o with selected := some presetId }
  | .setRegulatorParams params =>
    some (o.write kFactorAddr [tc.toUInt16 params.k, params.hysteresis.toUInt16])

/-- The commands of the queue, in order. -/
def dispatch (tc : Toolchain) (o : Oven) : Option Oven :=
  o.queue.foldlM (handle tc) { o with queue := [] }

/-! ## The run -/

/-- The next stage, or the end. -/
def leave (stage : ℕ) (o : Oven) : Oven :=
  if stage + 1 < o.stages.length then { o with run := some ⟨stage + 1, .entering⟩ } else o.endRun

/-- One step of a run, on the stage as the recipe has it now. A stage that is not there ends the
oven. -/
def advance (run : Run) (o : Oven) : Option Oven :=
  match run.phase with
  | .entering => (o.stages[run.stage]?).map fun item =>
    { o.write kTargetTemperatureAddr [item.temperatureStep.toUInt16] with
      run := some ⟨run.stage, .preheating⟩ }
  | .preheating => (o.stages[run.stage]?).map fun item =>
    match profileVerdict item o.data with
    | .skip => o.leave run.stage
    | .soak => { o with run := some ⟨run.stage, .soaking item.stageDuration⟩ }
    | .wait => o
  | .soaking left => some (if left ≤ 0 then { o with run := some ⟨run.stage, .leaving⟩ } else o)
  | .leaving => some (o.leave run.stage)

def process (o : Oven) : Option Oven :=
  match o.run with
  | none => some o
  | some run => o.advance run

/-- A second passes. -/
def pass (o : Oven) : Oven :=
  match o.run with
  | none => o
  | some run => { o with run := some run.pass, elapsed := o.elapsed + 1 }

def read (reading : Option ModbusReading) (o : Oven) : Oven :=
  match reading with
  | none => o
  | some words => { o with data := ReflowProcessController.decodeReading words }

/-- A tick: the commands, the registers, the run, the clock. -/
def tick (tc : Toolchain) (reading : Option ModbusReading) (o : Oven) : Option Oven :=
  (o.dispatch tc).bind fun o => (o.read reading).process.map pass

/-! ## Everything that happens to an oven -/

/-- A recipe is changed, if there is one under the id. -/
def edit (presetId : UInt64) (f : Recipe → Recipe) (o : Oven) : Oven :=
  { o with recipes := Function.update o.recipes presetId ((o.recipes presetId).map f) }

/-- An id that is taken stays with its recipe. -/
def add (presetId : UInt64) (recipe : Recipe) (o : Oven) : Oven :=
  { o with
    recipes := Function.update o.recipes presetId (some ((o.recipes presetId).getD recipe)) }

def apply (tc : Toolchain) (o : Oven) : Operation → Option Oven
  | .addNewPreset presetName => some (o.add (tc.hash presetName) ⟨presetName, []⟩)
  | .setName presetId presetName => some (o.edit presetId fun recipe =>
    { recipe with name := presetName })
  | .addStageItem presetId stageItem => some (o.edit presetId fun recipe =>
    { recipe with stages := recipe.stages ++ [stageItem] })
  | .replaceStageItem presetId stageItemIdx stageItem => some (o.edit presetId fun recipe =>
    { recipe with
      stages :=
        if recipe.stages.length ≤ stageItemIdx then recipe.stages ++ [stageItem]
        else recipe.stages.set stageItemIdx stageItem })
  | .postCommand command => some { o with queue := o.queue ++ [command] }
  | .tick input => o.tick tc input.reading

end Oven

end ReflowTable

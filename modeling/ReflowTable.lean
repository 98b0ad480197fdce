import ReflowTable.Lib.Runs
import ReflowTable.Lib.Outcome
import ReflowTable.Lib.Vec
import ReflowTable.Types
import ReflowTable.Presets
import ReflowTable.Controller
import ReflowTable.Transitions
import ReflowTable.Operations
import ReflowTable.RunInvariant
import ReflowTable.HeaterOff
import ReflowTable.Lib.StagedWalk
import ReflowTable.Profile
import ReflowTable.Draining
import ReflowTable.StageAccess
import ReflowTable.RegulatorRegisters
import ReflowTable.SelectedPreset
import ReflowTable.Json
import ReflowTable.RequestUtils
import ReflowTable.RequestNumbers
import ReflowTable.CommandsParser
import ReflowTable.Handlers
import ReflowTable.RegulatorGuard
import ReflowTable.CachedStage
import ReflowTable.ModbusProxy
import ReflowTable.SwitchOff
import ReflowTable.IioFormatParser
import ReflowTable.IioFormat
import ReflowTable.GetPreset
import ReflowTable.PreheatBand
import ReflowTable.PresetNames
import ReflowTable.Lib.Numerals
import ReflowTable.Lib.Histories
import ReflowTable.PresetIds
import ReflowTable.History
import ReflowTable.Armed
import ReflowTable.StageOrder
import ReflowTable.UpdatedStages
import ReflowTable.Lib.Lockstep
import ReflowTable.FreshRuns
import ReflowTable.RepeatedStart
import ReflowTable.CommandAnswers
import ReflowTable.StageLists
import ReflowTable.DecoderAnswers
import ReflowTable.AtomicUpdate
import ReflowTable.Lib.Retries
import ReflowTable.WriteRetries
import ReflowTable.FormatSafety
import ReflowTable.CommandOrder
import ReflowTable.Lib.UrlEncoding
import ReflowTable.Lib.JsonText
import ReflowTable.PresetNaming
import ReflowTable.Interleavings
import ReflowTable.WithinTick
import ReflowTable.Executor
import ReflowTable.Lib.Abstraction
import ReflowTable.Oven
import ReflowTable.OvenRefinement
import ReflowTable.Lib.Listings
import ReflowTable.Queries
import ReflowTable.OvenService
import ReflowTable.PresetHistory
import ReflowTable.Lib.WalkLength
import ReflowTable.RunEnds
import ReflowTable.Installation
import ReflowTable.ClosedLoop
import ReflowTable.Lib.SignedNumerals
import ReflowTable.Thermometers
import ReflowTable.Orders
import ReflowTable.ApplicationConfig

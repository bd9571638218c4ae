import BlockPilot.Binary64
import BlockPilot.CommandLine.Arguments
import BlockPilot.CommandLine.Host
import BlockPilot.CommandLine.Perform
import BlockPilot.CommandLine.Report
import BlockPilot.CommandLine.Watch
import BlockPilot.Config.Basic
import BlockPilot.Config.Entry
import BlockPilot.Config.Environment
import BlockPilot.Config.Extract
import BlockPilot.Config.Fault
import BlockPilot.Config.Load
import BlockPilot.Config.Setting
import BlockPilot.Config.Toml.Document
import BlockPilot.Config.Toml.Scan
import BlockPilot.Config.Toml.Table
import BlockPilot.Decimal.Layout
import BlockPilot.Decimal.Reading
import BlockPilot.Decimal.Shortest
import BlockPilot.Duration
import BlockPilot.Event.Basic
import BlockPilot.Event.Log
import BlockPilot.Event.Moment
import BlockPilot.Event.Stamped
import BlockPilot.Failure
import BlockPilot.Json.Fault
import BlockPilot.Json.Printer
import BlockPilot.Json.Reader
import BlockPilot.Json.Record
import BlockPilot.Json.Scan
import BlockPilot.Json.Skip
import BlockPilot.Json.Value
import BlockPilot.Keyed
import BlockPilot.Logging.Filter
import BlockPilot.Logging.Format
import BlockPilot.Logging.Level
import BlockPilot.Logging.Line
import BlockPilot.Logging.Options
import BlockPilot.Logging.Rendering
import BlockPilot.Main
import BlockPilot.Program.Basic
import BlockPilot.Program.Chain
import BlockPilot.Program.Examples
import BlockPilot.Program.Field
import BlockPilot.Program.FieldValue
import BlockPilot.Program.Json
import BlockPilot.Program.Meaning
import BlockPilot.Program.NodeFault
import BlockPilot.Program.Slots
import BlockPilot.Proofs.Ownership
import BlockPilot.Proofs.Script
import BlockPilot.Robot.Channel
import BlockPilot.Robot.Command
import BlockPilot.Robot.CommandUrl
import BlockPilot.Run.Call
import BlockPilot.Run.Controller
import BlockPilot.Run.LogLines
import BlockPilot.Run.Session
import BlockPilot.Run.Token
import BlockPilot.Storage.Bytes
import BlockPilot.Storage.FileFault
import BlockPilot.Storage.Files
import BlockPilot.Storage.Tree
import BlockPilot.Text.Blank
import BlockPilot.Text.CodeRun
import BlockPilot.Text.Composed
import BlockPilot.Text.Composed.Table
import BlockPilot.Text.Lowercase
import BlockPilot.Text.Lowercase.Table
import BlockPilot.Text.Quoted
import BlockPilot.Text.Quoted.Table
import BlockPilot.Total
import BlockPilot.Url.Basic
import BlockPilot.Url.Domain
import BlockPilot.Url.Domain.ClassTable
import BlockPilot.Url.Domain.Label
import BlockPilot.Url.Domain.MappingTable
import BlockPilot.Url.Fault
import BlockPilot.Url.Host
import BlockPilot.Url.Ipv4
import BlockPilot.Url.Ipv6
import BlockPilot.Url.Path
import BlockPilot.Url.Percent
import BlockPilot.Url.Punycode
import BlockPilot.Proofs.RunStage
import BlockPilot.Proofs.Floor
import BlockPilot.Proofs.FloorInv
import BlockPilot.Proofs.Ending
import BlockPilot.Proofs.Unstopped
import BlockPilot.Proofs.Interrupted
import BlockPilot.Proofs.LastStop
import BlockPilot.Proofs.SessionTurns
import BlockPilot.Proofs.DeskHistory
import BlockPilot.Proofs.Story
import BlockPilot.Proofs.Succession
import BlockPilot.Proofs.Motion
import BlockPilot.Proofs.Exclusion
import BlockPilot.Proofs.Stretch
import BlockPilot.Proofs.KeyedOrder
import BlockPilot.Proofs.ScalarText
import BlockPilot.Proofs.ValueText
import BlockPilot.Proofs.FiniteNumbers
import BlockPilot.Proofs.ValueRead
import BlockPilot.Proofs.ChainForm
import BlockPilot.Proofs.ProgramText
import BlockPilot.Proofs.Builders
import BlockPilot.Proofs.BlockGrammar
import BlockPilot.Proofs.Dispatches
import BlockPilot.Proofs.Standing
import BlockPilot.Proofs.TreeFiles
import BlockPilot.Proofs.SlotFiles
import BlockPilot.Proofs.SlotStore
import BlockPilot.Proofs.Unwinding
import BlockPilot.Proofs.NormalForm
import BlockPilot.Proofs.ExactValue
import BlockPilot.Proofs.NumberFields
import BlockPilot.Proofs.NearestNumber
import BlockPilot.Proofs.ShortestDecimal
import BlockPilot.Proofs.PlainText
import BlockPilot.Proofs.ShownNumbers
import BlockPilot.Proofs.Spacing
import BlockPilot.Proofs.Listing
import BlockPilot.Proofs.FormPairs
import BlockPilot.Proofs.CommandPairs
import BlockPilot.Proofs.HostText
import BlockPilot.Proofs.AddressParts
import BlockPilot.Proofs.CommandAddress
import BlockPilot.Proofs.LogHistory
import BlockPilot.Proofs.LevelNames
import BlockPilot.Proofs.TableOrder
import BlockPilot.Proofs.Layers
import BlockPilot.Proofs.EntryValues
import BlockPilot.Proofs.VariableNames
import BlockPilot.Proofs.Overrides
import BlockPilot.Proofs.Linking
import BlockPilot.Proofs.StandIn
import BlockPilot.Proofs.Room

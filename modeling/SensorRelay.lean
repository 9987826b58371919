import SensorRelay.Binary64.Basic
import SensorRelay.Binary64.Literal
import SensorRelay.Binary64.Rounding
import SensorRelay.Binary64.Shortest
import SensorRelay.Calendar
import SensorRelay.Device.Source
import SensorRelay.Device.Writer
import SensorRelay.Duration
import SensorRelay.Except
import SensorRelay.Files.Handle
import SensorRelay.Files.System
import SensorRelay.Json.Number
import SensorRelay.Json.Skip
import SensorRelay.Json.Text
import SensorRelay.Json.Value
import SensorRelay.Log.Entry
import SensorRelay.Log.Logger
import SensorRelay.Log.Record
import SensorRelay.Log.Selection
import SensorRelay.Main
import SensorRelay.Monitor
import SensorRelay.Numeral
import SensorRelay.Pattern.Automaton
import SensorRelay.Pattern.Basic
import SensorRelay.Pattern.Bracket
import SensorRelay.Pattern.Escape
import SensorRelay.Pattern.Mode
import SensorRelay.Pattern.Reader
import SensorRelay.Pattern.Size
import SensorRelay.Program
import SensorRelay.Proofs.Backoff
import SensorRelay.Proofs.Binary64.Decimal
import SensorRelay.Proofs.Binary64.Fixed
import SensorRelay.Proofs.Binary64.Literal
import SensorRelay.Proofs.Binary64.Neighbours
import SensorRelay.Proofs.Binary64.Rounding
import SensorRelay.Proofs.Binary64.Shortest
import SensorRelay.Proofs.Binary64.Spelling
import SensorRelay.Proofs.Binary64.Value
import SensorRelay.Proofs.Device.Source
import SensorRelay.Proofs.Duration
import SensorRelay.Proofs.Files.Path
import SensorRelay.Proofs.Files.System
import SensorRelay.Proofs.Json.Number
import SensorRelay.Proofs.Json.Scale
import SensorRelay.Proofs.Json.Value
import SensorRelay.Proofs.Log.Channel
import SensorRelay.Proofs.Log.Record
import SensorRelay.Proofs.Numeral
import SensorRelay.Proofs.Queue.Effect
import SensorRelay.Proofs.Queue.Item
import SensorRelay.Proofs.Reading.Copy
import SensorRelay.Proofs.Reading.Delivery
import SensorRelay.Proofs.Reading.Grammar
import SensorRelay.Proofs.Reading.Json
import SensorRelay.Proofs.Reading.Line
import SensorRelay.Proofs.Reading.LineStorage
import SensorRelay.Proofs.Reading.Lines
import SensorRelay.Proofs.Reading.Record
import SensorRelay.Proofs.Reading.Sink
import SensorRelay.Proofs.Reading.Storage
import SensorRelay.Proofs.Reading.Stream
import SensorRelay.Proofs.Relay.Conclusion
import SensorRelay.Proofs.Relay.Course
import SensorRelay.Proofs.Relay.Downstream
import SensorRelay.Proofs.Relay.Flow
import SensorRelay.Proofs.Relay.Following
import SensorRelay.Proofs.Relay.Intake
import SensorRelay.Proofs.Relay.Interleaving
import SensorRelay.Proofs.Relay.Result
import SensorRelay.Proofs.Relay.Upstream
import SensorRelay.Proofs.Retry
import SensorRelay.Proofs.Settings.CommandLine
import SensorRelay.Proofs.Settings.Layers
import SensorRelay.Proofs.Settings.Paths
import SensorRelay.Proofs.Settings.Precedence
import SensorRelay.Proofs.Utf8
import SensorRelay.Proofs.World.Draining
import SensorRelay.Proofs.World.Finality
import SensorRelay.Proofs.World.Lifecycle
import SensorRelay.Proofs.World.Move
import SensorRelay.Proofs.World.Order
import SensorRelay.Proofs.World.Outcome
import SensorRelay.Proofs.World.Panic
import SensorRelay.Proofs.World.Poison
import SensorRelay.Proofs.World.Pool
import SensorRelay.Proofs.World.Rejection
import SensorRelay.Proofs.World.Settling
import SensorRelay.Proofs.World.Sink
import SensorRelay.Proofs.World.Standing
import SensorRelay.Proofs.World.Stranding
import SensorRelay.Proofs.World.Supply
import SensorRelay.Proofs.World.Task
import SensorRelay.Proofs.World.Turn
import SensorRelay.Proofs.World.Wakeup
import SensorRelay.Queue.Basic
import SensorRelay.Queue.Row
import SensorRelay.Reading.Basic
import SensorRelay.Reading.Json
import SensorRelay.Reading.Line
import SensorRelay.Reading.Reader
import SensorRelay.Reading.Record
import SensorRelay.Reading.Writer
import SensorRelay.Relay.Consumer
import SensorRelay.Relay.Fault
import SensorRelay.Relay.History
import SensorRelay.Relay.Producer
import SensorRelay.Relay.Run
import SensorRelay.Relay.Schedule
import SensorRelay.Relay.Threads
import SensorRelay.Relay.World
import SensorRelay.Retry
import SensorRelay.Scenario.Item
import SensorRelay.Scenario.Session
import SensorRelay.Scenario.Waiters
import SensorRelay.Settings.Basic
import SensorRelay.Settings.CommandLine
import SensorRelay.Settings.ConfigFile
import SensorRelay.Settings.Loading
import SensorRelay.Text.Blank
import SensorRelay.Text.Utf8
import SensorRelay.Toml.Document
import SensorRelay.Toml.Text
import SensorRelay.Toml.Value
import SensorRelay.Unicode.Age
import SensorRelay.Unicode.CaseFolding
import SensorRelay.Unicode.Category
import SensorRelay.Unicode.CharSet
import SensorRelay.Unicode.Derived
import SensorRelay.Unicode.Named
import SensorRelay.Unicode.Property
import SensorRelay.Unicode.Script
import SensorRelay.Unicode.Segmentation

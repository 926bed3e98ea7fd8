import Superstep.Binary64.Basic
import Superstep.Binary64.Shortest
import Superstep.Binary64.Text
import Superstep.Json.Basic
import Superstep.Json.Print
import Superstep.Json.Error
import Superstep.Json.Reader
import Superstep.Value.Basic
import Superstep.Text.Space
import Superstep.Text.Printable
import Superstep.Text.Literal
import Superstep.Wire.Uuid
import Superstep.Wire.Timestamp
import Superstep.Wire.Shape
import Superstep.Wire.Text
import Superstep.Core.Error
import Superstep.Core.Message
import Superstep.Core.Config
import Superstep.Engine.Executor
import Superstep.Text.Upper
import Superstep.Nodes.Standard
import Superstep.Nodes.Script
import Superstep.Core.Event
import Superstep.Engine.Registry
import Superstep.Engine.Graph
import Superstep.Engine.Machine
import Superstep.Engine.Run
import Superstep.Engine.Background
import Superstep.Core.Definition
import Superstep.Engine.Loader
import Superstep.Cli.Console
import Superstep.Cli.Similar
import Superstep.Cli.Args
import Superstep.Cli.Help
import Superstep.Cli.Parse
import Superstep.Cli.Flow
import Superstep.Cli.Demo
import Superstep.Cli.Program
import Superstep.Main
import Superstep.Proofs.Responses
import Superstep.Proofs.Runner
import Superstep.Proofs.World
import Superstep.Proofs.RunState
import Superstep.Proofs.Ledger
import Superstep.Proofs.Correlation
import Superstep.Proofs.Progress
import Superstep.Proofs.Handlers
import Superstep.Proofs.Trace
import Superstep.Proofs.Handle
import Superstep.Proofs.Calendar
import Superstep.Proofs.WireText
import Superstep.Proofs.WireForm
import Superstep.Proofs.Admission
import Superstep.Proofs.Stores
import Superstep.Proofs.Schedule
import Superstep.Proofs.Addressing
import Superstep.Proofs.Limit
import Superstep.Proofs.Reach
import Superstep.Proofs.Registration
import Superstep.Proofs.Validation
import Superstep.Proofs.Loading
import Superstep.Proofs.Exact
import Superstep.Proofs.PlainJson
import Superstep.Proofs.Factories
import Superstep.Proofs.Approval
import Superstep.Proofs.Increment
import Superstep.Proofs.Settle
import Superstep.Proofs.Console
import Superstep.Proofs.Resume

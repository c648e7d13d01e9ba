import Exemplar.Callsite.Json
import Exemplar.Config.Json
import Exemplar.Config.Load
import Exemplar.Proofs.Declaration.Schedule
import Exemplar.Proofs.Identifier.Allocation
import Exemplar.Proofs.Tree.Naming
import Exemplar.Session.Bridges
import Exemplar.Session.Processes
import Exemplar.Text.Blank
import Exemplar.Text.Toml.Document
import Exemplar.TypeName
import Exemplar.Proofs.Bridge.Binding
import Exemplar.Proofs.Bridge.FirstName
import Exemplar.Proofs.Declaration.Growth
import Exemplar.Proofs.Registry.Slots
import Exemplar.Proofs.Registry.History
import Exemplar.Proofs.Registry.Identifiers
import Exemplar.Proofs.Bridge.Running
import Exemplar.Proofs.Report.Summary
import Exemplar.Proofs.Registry.Reports
import Exemplar.Proofs.Declaration.Points
import Exemplar.Proofs.Tree.Placed
import Exemplar.Proofs.Declaration.Views
import Exemplar.Proofs.Bridge.Simulation
import Exemplar.Proofs.Bridge.Calls
import Exemplar.Proofs.Registry.Refusals
import Exemplar.Proofs.Registry.Containment
import Exemplar.Proofs.Registry.Alone
import Exemplar.Proofs.Config.Channels
import Exemplar.Proofs.Bridge.Requests
import Exemplar.Proofs.Config.Separator
import Exemplar.Proofs.Config.Encoding
import Exemplar.Proofs.Identifier.Search
import Exemplar.Proofs.Panic.Attribution
import Exemplar.Proofs.Identifier.Canonical
import Exemplar.Proofs.Identifier.Keeping
import Exemplar.Proofs.Declaration.Leaving
import Exemplar.Proofs.TypeName.Path
import Exemplar.Proofs.Text.Lines
import Exemplar.Proofs.Report.Rendering
import Exemplar.Proofs.Telemetry.Installation
import Exemplar.Proofs.Registry.Events
import Exemplar.Proofs.Registry.CompileOnce

import ExternalRepos.OrderedMap
import ExternalRepos.Text.Unprintable
import ExternalRepos.Text.Printable
import ExternalRepos.Text.Blank
import ExternalRepos.Text.Quoted
import ExternalRepos.Text.Split
import ExternalRepos.Decimal.Binary64
import ExternalRepos.Decimal.Shortest
import ExternalRepos.Decimal.Written
import ExternalRepos.Value.Basic
import ExternalRepos.Value.Equality
import ExternalRepos.Value.Frozen
import ExternalRepos.Value.Written
import ExternalRepos.Location
import ExternalRepos.AttributeType
import ExternalRepos.Error
import ExternalRepos.Name
import ExternalRepos.Package
import ExternalRepos.Mapping
import ExternalRepos.Label.Basic
import ExternalRepos.Label.Parser
import ExternalRepos.Event
import ExternalRepos.RuleClass
import ExternalRepos.Rule
import ExternalRepos.Specification.Basic
import ExternalRepos.Specification.Untyped
import ExternalRepos.Reference
import ExternalRepos.Materializer
import ExternalRepos.Registry
import ExternalRepos.Vendor
import ExternalRepos.Extension
import ExternalRepos.Path
import ExternalRepos.Settings.Basic
import ExternalRepos.Settings.Sources
import ExternalRepos.LogLevel
import ExternalRepos.Version
import ExternalRepos.Session.Table
import ExternalRepos.Session.Term
import ExternalRepos.Context
import ExternalRepos.Session.Store
import ExternalRepos.Session.Step
import ExternalRepos.Session.Run
import ExternalRepos.Text.Escaped
import ExternalRepos.Text.Lower
import ExternalRepos.Text.PictographNames
import ExternalRepos.Text.Pictograph
import ExternalRepos.Text.Style
import ExternalRepos.Text.Markup
import ExternalRepos.Text.CellRanges
import ExternalRepos.Text.Width
import ExternalRepos.Text.Cluster
import ExternalRepos.Text.Wrapped
import ExternalRepos.Text.Echoed
import ExternalRepos.JsonValue.Basic
import ExternalRepos.JsonValue.Written
import ExternalRepos.Grid
import ExternalRepos.CommandLine.Command
import ExternalRepos.CommandLine.Definitions
import ExternalRepos.CommandLine.Files
import ExternalRepos.CommandLine.Evaluations
import ExternalRepos.CommandLine.Run
import ExternalRepos.Main
import ExternalRepos.Proofs.Except
import ExternalRepos.Proofs.FirstFault
import ExternalRepos.Proofs.OrderedMap
import ExternalRepos.Proofs.Registry.Log
import ExternalRepos.Proofs.Session.Operation
import ExternalRepos.Proofs.Session.Log
import ExternalRepos.Proofs.Session.Program
import ExternalRepos.Proofs.Session.Lifecycle
import ExternalRepos.Proofs.Text.Split
import ExternalRepos.Proofs.Text.Printable
import ExternalRepos.Proofs.Label.Grammar
import ExternalRepos.Proofs.Label.RoundTrip
import ExternalRepos.Proofs.RuleClass
import ExternalRepos.Proofs.Value.Frozen
import ExternalRepos.Proofs.Value.Written
import ExternalRepos.Proofs.Specification.Serial
import ExternalRepos.Proofs.JsonValue.Data
import ExternalRepos.Proofs.Materializer.Stored
import ExternalRepos.Proofs.Materializer.Schema
import ExternalRepos.Proofs.Registry.Schema
import ExternalRepos.Proofs.Registry.Stored
import ExternalRepos.Proofs.Session.Declared
import ExternalRepos.Proofs.Session.Stored
import ExternalRepos.Proofs.Session.Alike
import ExternalRepos.Proofs.Session.Residue
import ExternalRepos.Proofs.Extension.CanonicalName
import ExternalRepos.Proofs.Registry.Independent
import ExternalRepos.Proofs.Session.Reordered
import ExternalRepos.Proofs.Materializer.Named
import ExternalRepos.Proofs.Registry.Twins
import ExternalRepos.Proofs.Session.Twins
import ExternalRepos.Proofs.Isolation.Group
import ExternalRepos.Proofs.Isolation.Change
import ExternalRepos.Proofs.Isolation.Store
import ExternalRepos.Proofs.Isolation.Naming
import ExternalRepos.Proofs.Isolation.Step
import ExternalRepos.Proofs.Isolation.Perform
import ExternalRepos.Proofs.Isolation.Run
import ExternalRepos.Proofs.Isolation.Interleaved
import ExternalRepos.Proofs.Materializer.Labels
import ExternalRepos.Proofs.Materializer.Outcome
import ExternalRepos.Proofs.Materializer.Omitted
import ExternalRepos.Proofs.Registry.Outcome
import ExternalRepos.Proofs.Session.Outcome
import ExternalRepos.Proofs.CommandLine.Evaluations
import ExternalRepos.Proofs.Materializer.Enlarged
import ExternalRepos.Proofs.Materializer.Warnings
import ExternalRepos.Proofs.Value.Equality
import ExternalRepos.Proofs.Specification.Equality
import ExternalRepos.Proofs.Registry.Permuted
import ExternalRepos.Proofs.Session.Attempt
import ExternalRepos.Proofs.Session.Told
import ExternalRepos.Proofs.Session.Linked
import ExternalRepos.Proofs.Session.Diagnostics
import ExternalRepos.Proofs.Messages
import ExternalRepos.Proofs.Session.Ways
import ExternalRepos.Proofs.Session.Asked
import ExternalRepos.Proofs.Session.Serial
import ExternalRepos.Proofs.CommandLine.AllOrNothing
import ExternalRepos.Proofs.RuleClass.Representation
import ExternalRepos.Proofs.Vendor.Calls
import ExternalRepos.Proofs.Value.Table
import ExternalRepos.Proofs.Vendor.Listing
import ExternalRepos.Proofs.Extension.Usable
import ExternalRepos.Proofs.Settings.Precedence

import PolicyReconciler.Decimal.Layout
import PolicyReconciler.Decimal.Magnitude
import PolicyReconciler.Decimal.Place
import PolicyReconciler.Decimal.Reading
import PolicyReconciler.Decimal.Shortest
import PolicyReconciler.Fault
import PolicyReconciler.Json.Display
import PolicyReconciler.Json.Order
import PolicyReconciler.Json.Reader
import PolicyReconciler.Json.Table
import PolicyReconciler.Json.Use
import PolicyReconciler.Json.Value
import PolicyReconciler.Json.Writer
import PolicyReconciler.VpcLattice.AuthState
import PolicyReconciler.VpcLattice.Client
import PolicyReconciler.VpcLattice.Resolver
import PolicyReconciler.Limiter
import PolicyReconciler.Main
import PolicyReconciler.Observation.Context
import PolicyReconciler.Observation.Event
import PolicyReconciler.Observation.Log
import PolicyReconciler.Observation.Metric
import PolicyReconciler.Observation.Output
import PolicyReconciler.Observation.Span
import PolicyReconciler.Platform.Backend
import PolicyReconciler.Platform.Basic
import PolicyReconciler.Platform.Summary
import PolicyReconciler.Policy.Basic
import PolicyReconciler.Policy.Finalizer
import PolicyReconciler.Policy.Target
import PolicyReconciler.PolicyStore
import PolicyReconciler.Probe
import PolicyReconciler.Program.Basic
import PolicyReconciler.Program.Effect
import PolicyReconciler.Reconcile.Dispatch
import PolicyReconciler.Reconcile.Run
import PolicyReconciler.Redaction.Members
import PolicyReconciler.Redaction.Message
import PolicyReconciler.Redaction.Recogniser
import PolicyReconciler.Redaction.Rule
import PolicyReconciler.Settings.Connection
import PolicyReconciler.Settings.Environment
import PolicyReconciler.Settings.Startup
import PolicyReconciler.Settings.Tracing
import PolicyReconciler.Settings.Watch
import PolicyReconciler.Text.Blank
import PolicyReconciler.Text.Casing
import PolicyReconciler.Text.CodeRange
import PolicyReconciler.Text.DecimalDigit
import PolicyReconciler.Text.Lowercase
import PolicyReconciler.Text.Printable
import PolicyReconciler.Text.Quoted
import PolicyReconciler.Text.WordCharacter
import PolicyReconciler.TimeScale
import PolicyReconciler.Proofs.Json.Members
import PolicyReconciler.Proofs.Policy.Record
import PolicyReconciler.Proofs.Program.History
import PolicyReconciler.Proofs.Program.Quiet
import PolicyReconciler.Proofs.Program.Replay
import PolicyReconciler.Proofs.VpcLattice.Lookup
import PolicyReconciler.Proofs.VpcLattice.Change
import PolicyReconciler.Proofs.PolicyStore
import PolicyReconciler.Proofs.Reconcile.Course
import PolicyReconciler.Proofs.Reconcile.Calls
import PolicyReconciler.Proofs.Reconcile.Stages
import PolicyReconciler.Proofs.Cluster.Basic
import PolicyReconciler.Proofs.Cluster.Invariant
import PolicyReconciler.Proofs.Cluster.Trace
import PolicyReconciler.Proofs.Cluster.Release
import PolicyReconciler.Proofs.Cluster.Hold
import PolicyReconciler.Proofs.World.Basic
import PolicyReconciler.Proofs.World.Stages
import PolicyReconciler.Proofs.World.Convergence
import PolicyReconciler.Proofs.Cluster.Update
import PolicyReconciler.Proofs.VpcLattice.Pages
import PolicyReconciler.Proofs.Cluster.Service
import PolicyReconciler.Proofs.Cluster.Resurrection
import PolicyReconciler.Proofs.Program.Script
import PolicyReconciler.Proofs.Reconcile.Steady
import PolicyReconciler.Proofs.Turns.Basic
import PolicyReconciler.Proofs.Turns.Part
import PolicyReconciler.Proofs.Turns.Independence
import PolicyReconciler.Proofs.Reconcile.Demand
import PolicyReconciler.Proofs.World.Compliance
import PolicyReconciler.Proofs.World.Single
import PolicyReconciler.Proofs.Cluster.Overlap
import PolicyReconciler.Proofs.Cluster.Agreement
import PolicyReconciler.Proofs.Program.Chronicle
import PolicyReconciler.Proofs.Composition.Faults
import PolicyReconciler.Proofs.Composition.Basic
import PolicyReconciler.Proofs.Composition.Walk
import PolicyReconciler.Proofs.Composition.Calls
import PolicyReconciler.Proofs.Reconcile.Determined
import PolicyReconciler.Proofs.Accounting.Receipts
import PolicyReconciler.Proofs.Accounting.Calls
import PolicyReconciler.Proofs.Accounting.Sessions
import PolicyReconciler.Proofs.Accounting.Story
import PolicyReconciler.Proofs.Accounting.Events
import PolicyReconciler.Proofs.Accounting.Outcomes
import PolicyReconciler.Proofs.Limiter.Turn
import PolicyReconciler.Proofs.Limiter.Workers
import PolicyReconciler.Proofs.Limiter.Orderly
import PolicyReconciler.Proofs.Limiter.Spacing
import PolicyReconciler.Proofs.Disclosure.Alike
import PolicyReconciler.Proofs.Disclosure.Runs
import PolicyReconciler.Proofs.Tracing.Deeds
import PolicyReconciler.Proofs.Tracing.SpanBlind
import PolicyReconciler.Proofs.Tracing.Runs
import PolicyReconciler.Proofs.Redaction.Scan
import PolicyReconciler.Proofs.Redaction.Letters
import PolicyReconciler.Proofs.Redaction.Pattern
import PolicyReconciler.Proofs.Redaction.Origin
import PolicyReconciler.Proofs.Redaction.Credentials
import PolicyReconciler.Proofs.Redaction.Accounts
import PolicyReconciler.Proofs.Redaction.Fields
import PolicyReconciler.Proofs.Redaction.Places
import PolicyReconciler.Proofs.Redaction.Clean
import PolicyReconciler.Proofs.Redaction.Order
import PolicyReconciler.Proofs.Redaction.Framed
import PolicyReconciler.Proofs.Redaction.Values
import PolicyReconciler.Proofs.Redaction.Objects
import PolicyReconciler.Proofs.Redaction.Keys
import PolicyReconciler.Proofs.Program.Supply
import PolicyReconciler.Proofs.Program.Spending
import PolicyReconciler.Proofs.PolicyStore.Attempts
import PolicyReconciler.Proofs.PolicyStore.Reads
import PolicyReconciler.Proofs.VpcLattice.Listings
import PolicyReconciler.Proofs.Policy.RoundTrip
import PolicyReconciler.Proofs.Json.Strings
import PolicyReconciler.Proofs.Json.Documents
import PolicyReconciler.Proofs.Reconcile.Document
import PolicyReconciler.Proofs.Tracing.Blocks
import PolicyReconciler.Proofs.Tracing.Lines
import PolicyReconciler.Proofs.Tracing.Trees
import PolicyReconciler.Proofs.Tracing.Forest
import PolicyReconciler.Proofs.Tracing.Nesting
import PolicyReconciler.Proofs.Policy.Gate
import PolicyReconciler.Proofs.Redaction.Shape
import PolicyReconciler.Proofs.VpcLattice.Naming
import PolicyReconciler.Proofs.Reconcile.Isolation

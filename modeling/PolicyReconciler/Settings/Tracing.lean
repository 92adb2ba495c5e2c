import PolicyReconciler.Program.Basic
import PolicyReconciler.Settings.Environment
import PolicyReconciler.Text.Lowercase

namespace PolicyReconciler

/-!
# Setting up tracing

Spans are sent to a collector unless tracing is turned off.  A collector that
cannot be set up leaves the operator without a tracer, and is only warned of.
-/

/-- The service that spans are reported for. -/
structure TracedService where
  name : String
  version : String
  deriving Repr, DecidableEq

/-- What setting up tracing has brought about. -/
structure TracingSetup where
  /-- The name of the tracer, where there is one. -/
  tracer : Option String
  /-- The address of the collector, where one was asked for. -/
  endpoint : Option String
  /-- The service that spans are reported for, where they are. -/
  service : Option TracedService
  deriving Repr, DecidableEq

namespace TracingSetup

open Program

variable {Time : Type}

/-- No tracer, and nothing that exports spans. -/
def off : TracingSetup := ⟨none, none, none⟩

/-- The name that spans are reported under, where no name is given. -/
def usualName : String := "lattice-auth-operator"

/-- The service name used when none is configured. -/
def unknownService : String := "unknown_service"

/-- The version that the operator's spans name. -/
def operatorVersion : String := "0.1.0"

/-- Where spans are sent when nothing is configured. -/
def usualEndpoint : String := "http://localhost:4317"

/-- Is tracing turned off by its variable? -/
def isTurnedOff (environment : Environment) : Bool :=
  Text.lower (environment.getD "OTEL_TRACES_ENABLED" "true").toList
    == "false".toList

/-- The service that spans are reported for under a name. -/
def serviceNamed (environment : Environment) (name : String) : TracedService where
  name := if name = "" then unknownService else name
  version := environment.getD "OTEL_SERVICE_VERSION" operatorVersion

/-- Set up tracing under a name, where the collector may answer with a fault. -/
def establish
    (environment : Environment)
    (givenName : String)
    (collector : Option Fault) :
    Program Time TracingSetup :=
  if isTurnedOff environment then
    finish off
  else
    let name := environment.getD "OTEL_SERVICE_NAME" givenName
    let endpoint := environment.getD "OTEL_EXPORTER_OTLP_ENDPOINT" usualEndpoint
    match collector with
    | none =>
        finish ⟨some name, some endpoint, some (serviceNamed environment name)⟩
    | some fault => do
        log .warning .tracing ("Failed to initialize tracing: " ++ fault.message)
        finish ⟨none, some endpoint, none⟩

end TracingSetup

end PolicyReconciler

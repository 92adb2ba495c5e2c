import PolicyReconciler.Fault
import PolicyReconciler.Observation.Context
import PolicyReconciler.Observation.Event
import PolicyReconciler.Observation.Metric
import PolicyReconciler.TimeScale

namespace PolicyReconciler

/-!
# Effects

An effect is one thing that the reconciler asks of its surroundings: a call to
a service, the time, a pause, or a note for those who watch it.  Each effect
has a type of replies.
-/

/-- The namespace and the name of a record. -/
structure Address where
  recordNamespace : Json
  name : Json
  deriving Repr

/-- An address as messages show it. -/
def Address.text (address : Address) : String :=
  address.recordNamespace.display ++ "/" ++ address.name.display

/-- A call to a service. -/
inductive Call where
  | readRecord (address : Address) (timeout : Json)
  | replaceRecord (address : Address) (record : Json) (timeout : Json)
  /-- Read a page of a listing; the first page needs no token. -/
  | listPage (kind : ResourceKind) (token : Option Json)
  | setAuthType (kind : ResourceKind) (identifier : Json) (authType : Json)
  | putAuthPolicy (identifier : Json) (document : Json)
  | deleteAuthPolicy (identifier : Json)
  /-- Load the configuration that a cluster gives to programs running in it. -/
  | loadClusterConfiguration
  | loadUserConfiguration
  deriving Repr

/-- The part of the operator that writes a line. -/
inductive LogSource where
  | handler
  | client
  | authState
  | tracing
  | named (name : String)
  deriving Repr, DecidableEq

/-- The level of a logged line: a number, which a truth value may stand for. -/
inductive LogLevel where
  | number (value : Int)
  | flag (value : Bool)
  deriving Repr, DecidableEq

namespace LogLevel

/-- The number by which levels are compared. -/
def value : LogLevel → Int
  | number value => value
  | flag value => if value then 1 else 0

/-- The level that a value gives, a number or a truth value. -/
def ofJson? : Json → Option LogLevel
  | .int value => some (.number value)
  | .bool value => some (.flag value)
  | _ => none

/-- A level as a value. -/
def json : LogLevel → Json
  | number value => .int value
  | flag value => .bool value

/-- A level is read back from its value. -/
theorem ofJson?_json (level : LogLevel) :
    ofJson? level.json = some level := by
  cases level <;> rfl

/-- The level of usual work. -/
def info : LogLevel := .number 20

/-- The level of what calls for attention. -/
def warning : LogLevel := .number 30

/-- The level of a failure. -/
def error : LogLevel := .number 40

end LogLevel

/-- A line of the log with its level and its writer. -/
structure LogRecord where
  level : LogLevel
  source : LogSource
  message : String
  deriving Repr, DecidableEq

/-- One thing that the reconciler asks of its surroundings. -/
inductive Effect (Time : Type) where
  | call (call : Call)
  | readClock
  | pause (length : Pause Time)
  | lastCall (api : Api)
  | noteCall (api : Api) (time : Time)
  | count (counter : Counter)
  | observe (histogram : Histogram) (duration : Time)
  | log (record : LogRecord)
  | emit (event : Event)
  | readContext
  | enterCorrelation (correlation : Json)
  | leaveCorrelation
  | openSpan (name : Json) (attributes : Members)
  | annotateSpan (key : String) (value : Json)
  /-- Close the innermost span, which a fault may be leaving. -/
  | closeSpan (fault : Option Fault)

/-- The replies to an effect. -/
abbrev Effect.Reply {Time : Type} : Effect Time → Type
  | call _ => Except Fault Json
  | readClock => Time
  | lastCall _ => Time
  | readContext => AmbientContext
  | _ => Unit

end PolicyReconciler

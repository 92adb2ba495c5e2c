import PolicyReconciler.Limiter
import PolicyReconciler.Settings.Environment

namespace PolicyReconciler

/-!
# Starting up

At the start the operator sets up its log lines and its tracing, decides where it
keeps what it has to remember, reads its limits and begins to listen for probes
and metrics.  The steps run in order: what a step has set stays set when a later
one fails.
-/

/--
Where the operator keeps what it has to remember about a record between two runs.
-/
inductive RecordStorage where
  /-- In the annotations of the record, so that its status stays untouched. -/
  | annotations
  deriving Repr, DecidableEq

namespace RecordStorage

/-- The storage of how far the work on a record has come. -/
def progressName : RecordStorage → String
  | annotations => "AnnotationsProgressStorage"

/-- The storage of the last record seen, which the next one is compared with. -/
def diffBaseName : RecordStorage → String
  | annotations => "AnnotationsDiffBaseStorage"

end RecordStorage

/-- The service that answers probes and requests for metrics. -/
structure Listener where
  /-- The host that is listened on, empty for all of them. -/
  host : String
  number : Int
  /-- Whether every request is answered on a thread of its own. -/
  threaded : Bool
  /-- Whether the operator may end while the service is running. -/
  daemon : Bool
  deriving Repr, DecidableEq

/-- The settings of a running operator. -/
structure OperatorSettings where
  /-- Whether log lines are written in the operator's own format. -/
  logging : Bool
  /-- Whether tracing has been set up. -/
  tracing : Bool
  /-- Where progress is kept, once that is set. -/
  progress : Option RecordStorage
  /-- Where the last record seen is kept, once that is set. -/
  diffBase : Option RecordStorage
  /-- The least level of lines that are posted as events, once it is set. -/
  postingLevel : Option Int
  /-- The seconds after which a request is given up, once they are set. -/
  requestTimeout : Option Float
  /-- The greatest number of handlers that run at once, once it is set. -/
  maxWorkers : Option Int
  /-- The service for probes and metrics, once it is started. -/
  listener : Option Listener
  deriving Repr

namespace OperatorSettings

/-- The seconds after which a request is given up until they are set. -/
def usualRequestTimeout : Nat := 300

/-- The settings before the first step. -/
def initial : OperatorSettings := ⟨false, false, none, none, none, none, none, none⟩

/-- A step of the start, which may read the environment and fail. -/
abbrev Step := Environment → OperatorSettings → Except Fault OperatorSettings

/-- The step that starts the log. -/
def setUpLogging : Step := fun _ settings =>
  .ok { settings with logging := true }

/-- The step that starts the tracer. -/
def setUpTracing : Step := fun _ settings =>
  .ok { settings with tracing := true }

/-- Keep everything in annotations, and post log lines of every level as events. -/
def keepInAnnotations : Step := fun _ settings =>
  .ok { settings with
    progress := some .annotations
    diffBase := some .annotations
    postingLevel := some 0 }

/-- The step that reads how long a request to the cluster may take. -/
def setRequestTimeout : Step := fun environment settings => do
  let timeout ← environment.number "K8S_REQUEST_TIMEOUT_SECONDS" "30"
  return { settings with requestTimeout := some timeout }

/-- Set the number of handlers that run at once, at least one. -/
def setMaxWorkers : Step := fun environment settings => do
  let workers ← environment.wholeNumber "MAX_WORKERS" "4"
  if workers < 1 then
    throw (.badValue "Can't set thread pool limit lower than 1.")
  return { settings with maxWorkers := some workers }

/-- Start to listen for probes and for requests for metrics. -/
def listen : Step := fun environment settings => do
  let number ← environment.wholeNumber "METRICS_PORT" "8080"
  return { settings with listener := some ⟨"", number, true, true⟩ }

/--
Take steps until one fails; the settings are those that the last good step left.
-/
def takeSteps (environment : Environment) :
    List Step → OperatorSettings → Except Fault Unit × OperatorSettings
  | [], settings => (.ok (), settings)
  | step :: rest, settings =>
      match step environment settings with
      | .ok next => takeSteps environment rest next
      | .error fault => (.error fault, settings)

/-- The steps of the start, in their order. -/
def steps : List Step :=
  [setUpLogging, setUpTracing, keepInAnnotations, setRequestTimeout,
    setMaxWorkers, listen]

/-- Set the operator up for an environment, as far as it can be. -/
def configure (environment : Environment) : Except Fault Unit × OperatorSettings :=
  takeSteps environment steps initial

end OperatorSettings

/-- The rates of calls that an environment gives to the two services. -/
def Rates.ofEnvironment
    (environment : Environment) :
    Except Fault (Rates Float) := do
  let kubernetes ← environment.number "K8S_RATE_LIMIT_PER_SECOND" "10.0"
  let lattice ← environment.number "LATTICE_RATE_LIMIT_PER_SECOND" "5.0"
  return ⟨kubernetes, lattice⟩

/-- The seconds after which a call to the Kubernetes API is given up. -/
def requestTimeoutOf (environment : Environment) : Except Fault Float :=
  environment.number "K8S_REQUEST_TIMEOUT_SECONDS" "30.0"

end PolicyReconciler

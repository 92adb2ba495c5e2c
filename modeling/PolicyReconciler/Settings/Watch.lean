import PolicyReconciler.Observation.Event
import PolicyReconciler.Settings.Environment

namespace PolicyReconciler

/-!
# What is watched

The operator watches the records of one kind, in the named namespaces or in the
whole cluster, and runs on some of their changes and at intervals.
-/

/-- The namespaces that are watched; none are named for the whole cluster. -/
structure WatchScope where
  namespaces : List String
  deriving Repr, DecidableEq

namespace WatchScope

/-- Is the whole cluster watched? -/
def isClusterwide (scope : WatchScope) : Bool :=
  scope.namespaces.isEmpty

/-- The names in a list separated by commas, without blanks around them. -/
def namesIn (text : String) : List String :=
  (((Text.split ',' text.toList).map Text.trim).filter (!·.isEmpty)).map
    String.ofList

/-- The scope that the environment configures. -/
def ofEnvironment (environment : Environment) : WatchScope :=
  ⟨namesIn (environment.getD "WATCH_NAMESPACES" "")⟩

end WatchScope

/-- The group, the version and the kind of the watched records. -/
structure RecordKind where
  group : String
  version : String
  kind : String
  /-- The name of the records in addresses. -/
  plural : String
  deriving Repr, DecidableEq

/-- The records that the operator watches. -/
def RecordKind.authPolicy : RecordKind :=
  ⟨"application-networking.k8s.aws", "v1alpha1", "IAMAuthPolicy", "iamauthpolicies"⟩

/-- What makes the operator run on a record. -/
inductive Trigger where
  | creation
  /-- The operator started while the record existed. -/
  | resumption
  | update
  | deletion
  deriving Repr, DecidableEq

namespace Trigger

/-- Every trigger, in the order of registration. -/
def all : List Trigger :=
  [resumption, creation, update, deletion]

/-- The kind of change, where the trigger is one. -/
def change? : Trigger → Option String
  | creation => some "create"
  | resumption => none
  | update => some "update"
  | deletion => some "delete"

/-- The part of a record whose change a trigger is about, if it is about one. -/
def field? : Trigger → Option String
  | update => some "spec"
  | _ => none

/-- Whether the trigger acts when the record is first seen. -/
def isInitial : Trigger → Bool
  | resumption => true
  | _ => false

/-- Whether a finalizer has to hold the record for the trigger to be seen. -/
def holdsRecord : Trigger → Bool
  | deletion => true
  | _ => false

/-- The name of the handler that runs. -/
def handler : Trigger → String
  | deletion => "handle_iam_auth_policy_delete"
  | _ => "handle_iam_auth_policy"

end Trigger

/-- A handler that runs on a record again and again. -/
structure Timer where
  handler : String
  /-- The seconds between two runs. -/
  interval : Float
  /-- The seconds for which a record has to be unchanged before a run. -/
  idle : Float
  deriving Repr

/-- The timer that restores policies which were changed elsewhere. -/
def Timer.restoring (environment : Environment) : Except Fault Timer := do
  let interval ← environment.number "RESYNC_INTERVAL_SECONDS" "300"
  let idle ← environment.number "RESYNC_INTERVAL_SECONDS" "300"
  return ⟨"resync_iam_auth_policy", interval, idle⟩

/-- The handlers that an operator has registered. -/
structure Registration where
  kind : RecordKind
  triggers : List Trigger
  timers : List Timer
  /-- The names of the handlers that run at the start. -/
  startup : List String
  deriving Repr

/-- What the operator registers in an environment. -/
def Registration.ofEnvironment
    (environment : Environment) :
    Except Fault Registration :=
  (Timer.restoring environment).map fun restoring =>
    ⟨.authPolicy, Trigger.all, [restoring], ["configure"]⟩

end PolicyReconciler

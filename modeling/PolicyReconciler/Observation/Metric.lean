namespace PolicyReconciler

/-!
# Metrics

Counters and duration histograms tell how often the reconciler did what, and
how long it took.  Each is a series of a named metric with labels.
-/

/-- An interface that the operator calls. -/
inductive Api where
  | kubernetes
  | lattice
  deriving Repr, DecidableEq

/-- The name of an interface among the labels of a metric. -/
def Api.label : Api → String
  | kubernetes => "k8s"
  | lattice => "lattice"

/-- The two kinds of Lattice resources that policies are attached to. -/
inductive ResourceKind where
  | serviceNetwork
  | service
  deriving Repr, DecidableEq

/-- The kind's name in messages. -/
def ResourceKind.text : ResourceKind → String
  | serviceNetwork => "ServiceNetwork"
  | service => "Service"

/-- A request to one of the interfaces, as the metrics tell them apart. -/
inductive Operation where
  | readPolicy
  | updatePolicy
  | list (kind : ResourceKind)
  | setAuthType (kind : ResourceKind)
  | putAuthPolicy
  | deleteAuthPolicy
  deriving Repr, DecidableEq

namespace Operation

/-- The interface that an operation belongs to. -/
def api : Operation → Api
  | readPolicy => .kubernetes
  | updatePolicy => .kubernetes
  | _ => .lattice

/-- The name of an operation among the labels of a metric. -/
def label : Operation → String
  | readPolicy => "get_iam_auth_policy"
  | updatePolicy => "update_iam_auth_policy"
  | list .serviceNetwork => "list_service_networks"
  | list .service => "list_services"
  | setAuthType .serviceNetwork => "update_service_network"
  | setAuthType .service => "update_service"
  | putAuthPolicy => "put_auth_policy"
  | deleteAuthPolicy => "delete_auth_policy"

end Operation

/-- A change to what guards a resource. -/
inductive AuthOperation where
  | enableAuth
  | disableAuth
  | putPolicy
  | deletePolicy
  deriving Repr, DecidableEq

/-- The name of a change among the labels of a metric. -/
def AuthOperation.label : AuthOperation → String
  | enableAuth => "enable_auth"
  | disableAuth => "disable_auth"
  | putPolicy => "put_policy"
  | deletePolicy => "delete_policy"

/-- How a call went, as the metrics tell it. -/
inductive CallOutcome where
  | success
  | error
  | notFound
  | conflict
  deriving Repr, DecidableEq

/-- The name of an outcome among the labels of a metric. -/
def CallOutcome.label : CallOutcome → String
  | success => "success"
  | error => "error"
  | notFound => "not_found"
  | conflict => "conflict"

/-- The stages of a reconcile that are counted. -/
inductive ReconcileStage where
  | started
  | success
  | requeued
  | error
  deriving Repr, DecidableEq

/-- The name of a stage among the labels of a metric. -/
def ReconcileStage.label : ReconcileStage → String
  | started => "started"
  | success => "success"
  | requeued => "requeued"
  | error => "error"

/-- Why a reconcile asks to be run again later. -/
inductive RequeueReason where
  | dependencyNotFound
  | unsupportedTarget
  deriving Repr, DecidableEq

namespace RequeueReason

/-- The name of a reason among the labels of a metric. -/
def label : RequeueReason → String
  | dependencyNotFound => "DependencyNotFound"
  | unsupportedTarget => "UnsupportedTarget"

/-- How many seconds later a reconcile is run again. -/
def seconds : RequeueReason → Nat
  | dependencyNotFound => 30
  | unsupportedTarget => 3600

end RequeueReason

/-- A counter of the operator, with the labels it is counted under. -/
inductive Counter where
  | reconciles (kind : String) (stage : ReconcileStage)
  | faults (kind : String) (faultKind : String)
  | requeues (kind : String) (reason : RequeueReason)
  | authOperations (operation : AuthOperation) (outcome : CallOutcome)
  | apiCalls (operation : Operation) (outcome : CallOutcome)
  | rateLimitHits (api : Api)
  deriving Repr, DecidableEq

/-- A distribution of durations, with the labels it is kept under. -/
inductive Histogram where
  | reconcileDuration (kind : String)
  | apiCallDuration (operation : Operation)
  deriving Repr, DecidableEq

/-- A metric with its labels, as it is exposed. -/
structure Series where
  name : String
  labels : List (String × String)
  deriving Repr, DecidableEq

/-- The series that a counter is exposed as. -/
def Counter.series : Counter → Series
  | reconciles kind stage =>
      ⟨"reconcile_total", [("kind", kind), ("result", stage.label)]⟩
  | faults kind faultKind =>
      ⟨"error_total", [("error_type", faultKind), ("kind", kind)]⟩
  | requeues kind reason =>
      ⟨"requeue_total", [("kind", kind), ("reason", reason.label)]⟩
  | authOperations operation outcome =>
      ⟨"auth_policy_operations_total",
        [("operation", operation.label), ("result", outcome.label)]⟩
  | apiCalls operation outcome =>
      ⟨"api_call_total",
        [("api_type", operation.api.label), ("operation", operation.label),
          ("result", outcome.label)]⟩
  | rateLimitHits api => ⟨"rate_limit_hits_total", [("api_type", api.label)]⟩

/-- The series that a distribution is exposed as. -/
def Histogram.series : Histogram → Series
  | reconcileDuration kind => ⟨"reconcile_duration_seconds", [("kind", kind)]⟩
  | apiCallDuration operation =>
      ⟨"api_call_duration_seconds",
        [("api_type", operation.api.label), ("operation", operation.label)]⟩

/--
The inclusive upper bounds of a histogram, in seconds; all durations fall under a
last one.
-/
def Histogram.bounds : Histogram → List Float
  | reconcileDuration _ => [0.1, 0.5, 1.0, 2.5, 5.0, 10.0]
  | apiCallDuration _ => [0.01, 0.05, 0.1, 0.5, 1.0, 2.5, 5.0]

end PolicyReconciler

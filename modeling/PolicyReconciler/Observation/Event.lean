import PolicyReconciler.Json.Display

namespace PolicyReconciler

/-!
# Events

Events on a record tell its owner what the reconciler did with it.
-/

/-- An event on a record, as the cluster lists it. -/
structure Event where
  /-- The name of the record, null if it has none. -/
  subject : Json
  severity : Json
  reason : Json
  message : Json
  deriving Repr

namespace Event

/-- The severity of an event that tells of usual work. -/
def normal : Json := .str "Normal"

/-- The severity of an event that calls for attention. -/
def warning : Json := .str "Warning"

/--
The name of the record that an event is on, null where it has no place for one.
-/
def subjectOf : Json → Json
  | .obj record =>
      match Members.getD record "metadata" .null with
      | .obj metadata => Members.getD metadata "name" .null
      | _ => .null
  | _ => .null

/-- An event on a record. -/
def on (record : Json) (reason message severity : Json) : Event where
  subject := subjectOf record
  severity := severity
  reason := reason
  message := message

/-- The event that opens a reconcile. -/
def reconcileStarted (record : Json) : Event :=
  on record (.str "ReconcileStarted") (.str "Reconciliation started") normal

/-- The event that tells how a reconcile failed. -/
def reconcileFailed (record message : Json) : Event :=
  on record (.str "ReconcileFailed") message warning

/-- The event that tells that a resource carries the policy. -/
def policyApplied (record resource : Json) : Event :=
  on record (.str "AuthPolicyApplied")
    (.str ("IAM auth policy applied to " ++ resource.display)) normal

/-- The event that tells that a resource no longer carries the policy. -/
def policyDeleted (record resource : Json) : Event :=
  on record (.str "AuthPolicyDeleted")
    (.str ("IAM auth policy removed from " ++ resource.display)) normal

/-- The event that tells that the target does not exist yet. -/
def targetNotFound (record message : Json) : Event :=
  on record (.str "TargetNotFound") message normal

/-- The event that tells that the operator does not know the target's kind. -/
def unsupportedTarget (record kind : Json) : Event :=
  on record (.str "UnsupportedTarget")
    (.str ("targetRef kind " ++ kind.display ++ " is not supported")) warning

end Event

end PolicyReconciler

import PolicyReconciler.Fault

namespace PolicyReconciler

/-!
# Targets of policies

A policy is attached to a gateway or to one of two kinds of routes.  The
reference to the target is kept as it was written; only its kind is ever
interpreted.
-/

/-- A kind of target that the operator knows. -/
inductive TargetKind where
  | gateway
  | httpRoute
  | grpcRoute
  deriving Repr, DecidableEq

namespace TargetKind

/-- Every known kind. -/
def all : List TargetKind :=
  [gateway, httpRoute, grpcRoute]

/-- The name of a kind in a target reference. -/
def text : TargetKind → String
  | gateway => "Gateway"
  | httpRoute => "HTTPRoute"
  | grpcRoute => "GRPCRoute"

/-- Is this a kind of route? -/
def isRoute : TargetKind → Bool
  | gateway => false
  | httpRoute => true
  | grpcRoute => true

/-- The kind that a text names. -/
def ofText? (text : String) : Option TargetKind :=
  all.find? (·.text == text)

/-- The kind that a value names. Anything else is an unsupported target. -/
def ofJson (value : Json) : Except Fault TargetKind :=
  match value with
  | .str text =>
      match ofText? text with
      | some kind => .ok kind
      | none => .error (.unsupportedTarget value)
  | _ => .error (.unsupportedTarget value)

/-- A kind is read back from its name. -/
theorem ofText?_text (kind : TargetKind) :
    ofText? kind.text = some kind := by
  cases kind <;> decide

end TargetKind

/-- A reference to the gateway or route a policy is attached to. -/
structure TargetRef where
  kind : Json
  name : Json
  group : Json
  deriving Repr

namespace TargetRef

/-- Read a reference; an absent kind or name is empty. -/
def ofMembers (members : Members) : TargetRef where
  kind := members.getD "kind" (.str "")
  name := members.getD "name" (.str "")
  group := members.getD "group" .null

/--
The target reference that a value describes. What is no object has no members to
read.
-/
def ofJson : Json → Except Fault TargetRef
  | .obj members => .ok (ofMembers members)
  | other => .error (.lacking other "get")

/-- A target as a log line shows it. -/
def logged (target : TargetRef) : Json :=
  .obj [("kind", target.kind), ("name", target.name)]

end TargetRef

end PolicyReconciler

import PolicyReconciler.VpcLattice.Client
import PolicyReconciler.Policy.Target

namespace PolicyReconciler.VpcLattice

/-!
# Resolving targets

A gateway stands for the service network of its name.  A route stands for the
service whose name is made of the names of the route and of its namespace.
-/

/-- How many characters of a route's name are kept. -/
def routeLength : Nat := 20

/-- How many characters of a namespace's name are kept. -/
def namespaceLength : Nat := 18

/-- The beginning of a text or of a list, as it stands in a message. -/
def beginning (length : Nat) : Json → Except Fault String
  | .str text => .ok (String.ofList (text.toList.take length))
  | .arr items => .ok (Json.arr (items.take length)).display
  | .obj _ => .error (.wrongUse "unhashable type: 'slice'")
  | other =>
      .error (.wrongUse ("'" ++ other.kindName ++ "' object is not subscriptable"))

/-- The name of the service that stands for a route. -/
def serviceName (route recordNamespace : Json) : Except Fault String := do
  let front ← beginning routeLength route
  let back ← beginning namespaceLength recordNamespace
  return front ++ "-" ++ back

open Program

variable {Time : Type} [TimeScale Time]

/-- The service network of a gateway's name. -/
def resolveGateway
    (operator : Operator Time)
    (target : TargetRef) :
    Program Time Json :=
  findId operator .serviceNetwork target.name

/-- The service that stands for a route. -/
def resolveRoute
    (operator : Operator Time)
    (target : TargetRef)
    (recordNamespace : Json) :
    Program Time Json := do
  let name ← ofExcept (serviceName target.name recordNamespace)
  findId operator .service (.str name)

/-- The id of the resource for a target of a kind. -/
def resolve (operator : Operator Time) (kind : ResourceKind) (target : TargetRef)
    (recordNamespace : Json) : Program Time Json :=
  match kind with
  | .serviceNetwork => resolveGateway operator target
  | .service => resolveRoute operator target recordNamespace

end PolicyReconciler.VpcLattice

import PolicyReconciler.VpcLattice.Client

namespace PolicyReconciler.VpcLattice

/-!
# The auth state of resources

Each operation sets the auth type of a resource or overwrites or removes its
policy, whatever they were before, so it may be repeated.
-/

/-- The kind of resource that an identifier names. -/
def resourceKindOf : Json → Except Fault ResourceKind
  | .str identifier =>
      let text := identifier.toList
      let unknown :=
        Fault.badValue ("Cannot determine Lattice resource type of " ++ identifier)
      if "arn:".toList.isPrefixOf text then
        if Text.occursIn ":servicenetwork/".toList text then .ok .serviceNetwork
        else if Text.occursIn ":service/".toList text then .ok .service
        else .error unknown
      else if "sn-".toList.isPrefixOf text then .ok .serviceNetwork
      else if "svc-".toList.isPrefixOf text then .ok .service
      else .error unknown
  | other => .error (.lacking other "startswith")

open Program

variable {Time : Type} [TimeScale Time]

/-- A program whose outcome is counted. -/
def counted
    {Result : Type}
    (operation : AuthOperation)
    (program : Program Time Result) :
    Program Time Result :=
  program.followedBy fun
    | .ok result => do
        count (.authOperations operation .success)
        finish result
    | .error fault => do
        count (.authOperations operation .error)
        fail fault

/-- The authentication type of a guarded resource. -/
def signedRequests : Json := .str "AWS_IAM"

/-- The authentication type of an open resource. -/
def noAuth : Json := .str "NONE"

/-- A resource's authentication type set, by the kind that its identifier tells. -/
def changeAuthType (operator : Operator Time) (identifier authType : Json) :
    Program Time Unit := do
  let kind ← ofExcept (resourceKindOf identifier)
  setAuthType operator kind identifier authType

/-- A resource closed to unsigned requests. -/
def enableAuth
    (operator : Operator Time)
    (identifier : Json) :
    Program Time Unit := do
  counted .enableAuth (changeAuthType operator identifier signedRequests)
  log .info .authState ("Enabled IAM auth on " ++ identifier.display)

/-- A resource opened again. -/
def disableAuth
    (operator : Operator Time)
    (identifier : Json) :
    Program Time Unit := do
  counted .disableAuth (changeAuthType operator identifier noAuth)
  log .info .authState ("Disabled IAM auth on " ++ identifier.display)

/-- The state that the answer to attaching a policy reports. -/
def reportedState : Json → Except Fault Json
  | .obj answer => .ok (Members.getD answer "state" .null)
  | other => .error (.lacking other "get")

/-- A policy document put on a resource. -/
def putPolicy
    (operator : Operator Time)
    (identifier document : Json) :
    Program Time Unit := do
  let answer ← counted .putPolicy (putAuthPolicy operator identifier document)
  let state ← ofExcept (reportedState answer)
  log .info .authState
    ("Put auth policy on " ++ identifier.display ++ ", state " ++ state.display)

/-- Remove the policy of a resource; a resource without a policy counts as done. -/
def deletePolicy
    (operator : Operator Time)
    (identifier : Json) :
    Program Time Unit :=
  counted .deletePolicy <|
    (deleteAuthPolicy operator identifier).recover fun fault =>
      if fault.hasServiceCode "ResourceNotFoundException" then
        log .info .authState ("No auth policy attached to " ++ identifier.display)
      else
        fail fault

end PolicyReconciler.VpcLattice

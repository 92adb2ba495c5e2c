import PolicyReconciler.Json.Use
import PolicyReconciler.Limiter

namespace PolicyReconciler

/-!
# The Lattice client

Every call waits for its turn, is counted under its own outcome and is timed.
Listings come in pages, of which each but the last names the next.
-/

/-- What the operator is set up with. -/
structure Operator (Time : Type) where
  rates : Rates Time
  /-- The time after which a call to the Kubernetes API is given up. -/
  requestTimeout : Json
  /-- The greatest number of pages that are read of one listing. -/
  pageLimit : Nat
  /-- The order in which redaction takes the sensitive fields. -/
  redaction : Redaction.FieldOrder

namespace VpcLattice

open Program

variable {Time : Type} [TimeScale Time]

/-- Count and time a call, and note refusals for the rate of calls. -/
def measured
    {Result : Type}
    (operation : Operation)
    (request : Program Time Result) :
    Program Time Result := do
  let start ← readClock
  let counted := request.followedBy fun
    | .ok result => do
        count (.apiCalls operation .success)
        finish result
    | .error fault =>
        if fault.isServiceFault then do
          count (.apiCalls operation .error)
          if fault.hasServiceCode "ThrottlingException" then
            count (.rateLimitHits .lattice)
          fail fault
        else
          fail fault
  counted.ensuring do
    let stop ← readClock
    observe (.apiCallDuration operation) (TimeScale.since stop start)

/-- A request to the service: limited, timed and counted. -/
def invoke (operator : Operator Time) (operation : Operation) (request : Call) :
    Program Time Json :=
  measured operation
    (Limiter.limited operator.rates.lattice .lattice (call request))

/-- Log the fault of a call if it is an error answer of the service. -/
def reporting {Result : Type} (activity : String) (request : Program Time Result) :
    Program Time Result :=
  request.recover fun fault =>
    match fault with
    | .service _ => do
        log .error .client ("Failed to " ++ activity ++ ": " ++ fault.message)
        fail fault
    | _ => fail fault

/-- The items of a page; an absent list has none. -/
def pageItems : Json → Except Fault (List Json)
  | .obj page => (Members.getD page "items" (.arr [])).entries
  | other => .error (.lacking other "get")

/-- The token of the page after a page, if there is one. -/
def nextToken? : Json → Option Json
  | .obj page =>
      let token := Members.getD page "nextToken" .null
      if token.truthy then some token else none
  | _ => none

/-- Read the pages of a listing, from the one with a token on. -/
def listFrom (operator : Operator Time) (kind : ResourceKind) :
    Nat → Option Json → Program Time (List Json)
  | 0, _ => fail (.runtime "listing has too many pages")
  | pages + 1, token => do
      let page ← invoke operator (.list kind) (.listPage kind token)
      let items ← ofExcept (pageItems page)
      match nextToken? page with
      | none => finish items
      | some next => do
          let others ← listFrom operator kind pages (some next)
          finish (items ++ others)

/-- The name of several resources of a kind in messages. -/
def plural : ResourceKind → String
  | .serviceNetwork => "service networks"
  | .service => "services"

/-- Every resource of a kind. -/
def list
    (operator : Operator Time)
    (kind : ResourceKind) :
    Program Time (List Json) :=
  reporting ("list " ++ plural kind)
    (listFrom operator kind operator.pageLimit none)

/-- The id of the first item with a name, if there is one. -/
def firstNamed? (name : Json) : List Json → Except Fault (Option Json)
  | [] => .ok none
  | .obj item :: rest =>
      if (Members.getD item "name" .null).alike name then
        match Members.find? item "id" with
        | some identifier => .ok (some identifier)
        | none => .error (.missingKey (.str "id"))
      else
        firstNamed? name rest
  | other :: _ => .error (.lacking other "get")

/--
The identifier of the first resource with a name. Without one a dependency is
missing.
-/
def findId (operator : Operator Time) (kind : ResourceKind) (name : Json) :
    Program Time Json := do
  let items ← list operator kind
  match firstNamed? name items with
  | .ok (some identifier) => finish identifier
  | .ok none => fail (.dependencyNotFound (.str kind.text) name)
  | .error fault => fail fault

/-- The name of one resource of a kind in messages. -/
def singular : ResourceKind → String
  | .serviceNetwork => "service network"
  | .service => "service"

/-- The authentication type of a resource set. -/
def setAuthType
    (operator : Operator Time)
    (kind : ResourceKind)
    (identifier authType : Json) :
    Program Time Unit :=
  reporting
    ("set auth type " ++ authType.display ++ " on " ++ singular kind ++ " " ++
      identifier.display) do
    let _ ← invoke operator (.setAuthType kind)
        (.setAuthType kind identifier authType)
    finish ()

/-- Attach a policy to a resource, in place of any policy attached before. -/
def putAuthPolicy (operator : Operator Time) (identifier document : Json) :
    Program Time Json :=
  reporting ("put auth policy on " ++ identifier.display)
    (invoke operator .putAuthPolicy (.putAuthPolicy identifier document))

/-- The policy of a resource removed. -/
def deleteAuthPolicy
    (operator : Operator Time)
    (identifier : Json) :
    Program Time Unit :=
  reporting ("delete auth policy on " ++ identifier.display) do
    let _ ← invoke operator .deleteAuthPolicy (.deleteAuthPolicy identifier)
    finish ()

end VpcLattice

end PolicyReconciler

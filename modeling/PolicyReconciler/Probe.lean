namespace PolicyReconciler

/-!
# Probes

Two paths answer whether the operator is alive and ready.  Every other path
belongs to the metrics page.
-/

/-- A question that the platform asks about the running operator. -/
inductive Probe where
  | health
  | readiness
  deriving Repr, DecidableEq

namespace Probe

/-- Every probe, in the order in which paths are compared. -/
def all : List Probe := [health, readiness]

/-- The path at which a probe is answered. -/
def path : Probe → String
  | health => "/healthz"
  | readiness => "/readyz"

/-- The state that the answer to a probe names. -/
def state : Probe → String
  | health => "ok"
  | readiness => "ready"

/-- The answer to a probe, as the text that is sent. -/
def document (probe : Probe) : String :=
  "\x7b\"status\":\"" ++ probe.state ++ "\"\x7d"

/-- The probe at a path, if there is one. -/
def ofPath? (path : String) : Option Probe :=
  all.find? (·.path == path)

/-- A probe is found at its own path. -/
theorem ofPath?_path (probe : Probe) :
    ofPath? probe.path = some probe := by
  cases probe <;> decide

end Probe

/-- The answer to a request for a probe. -/
structure ProbeResponse where
  status : String
  headers : List (String × String)
  body : String
  deriving Repr, DecidableEq

/--
The answer of a probe; a request for the head alone is answered without a body.
-/
def Probe.respond (probe : Probe) (headOnly : Bool) : ProbeResponse where
  status := "200 OK"
  headers :=
    [("Content-Length", toString probe.document.utf8ByteSize),
      ("Content-Type", "application/json")]
  body := if headOnly then "" else probe.document

end PolicyReconciler

import PolicyReconciler.Reconcile.Dispatch

namespace PolicyReconciler.Reconcile

/-!
# Running reconciles

A run announces itself by an event, is counted under its outcome and timed, and
reports a fault other than a scheduled requeue.  All its lines carry one
correlation id.
-/

open Program

variable {Time : Type} [TimeScale Time]

/-- What is told of a failed reconcile: a counter, a line and an event. -/
def reportFailure (order : Redaction.FieldOrder) (kind record metadata : Json)
    (fault : Fault) : Program Time Unit := do
  count (.faults kind.display fault.kind)
  HandlerNote.report
    { metadata := metadata
      message := .str "Reconciliation failed"
      event := none
      reason := some (.str "ReconciliationFailed")
      extra := [] }
    order kind (some fault)
  emit (Event.reconcileFailed record
    (.str ("Reconciliation failed: " ++ fault.redactedMessage order)))
  count (.reconciles kind.display .error)

/-- Go on after the work of a reconcile. -/
def afterWork
    {Result : Type}
    (order : Redaction.FieldOrder)
    (kind record metadata : Json) :
    Except Fault Result → Program Time Result
  | .ok result => do
      count (.reconciles kind.display .success)
      finish result
  | .error fault =>
      match fault with
      | .temporary .. => do
          count (.reconciles kind.display .requeued)
          fail fault
      | _ => do
          reportFailure order kind record metadata fault
          fail fault

/-- The metadata of a record, empty if it has none. -/
def metadataOf : Json → Except Fault Json
  | .obj record => .ok (Members.getD record "metadata" (.obj []))
  | other => .error (.lacking other "get")

/--
Do the work of a reconcile, with its events, counters, timing and error report.
-/
def observed {Result : Type} (order : Redaction.FieldOrder) (kind record : Json)
    (work : Program Time Result) : Program Time Result := do
  let metadata ← ofExcept (metadataOf record)
  emit (Event.reconcileStarted record)
  count (.reconciles kind.display .started)
  let start ← readClock
  (work.followedBy (afterWork order kind record metadata)).ensuring do
    let stop ← readClock
    observe (.reconcileDuration kind.display) (TimeScale.since stop start)

/-- The fault by which the framework is asked to come back later. -/
def requeueFault (address : Address) (seconds : Nat) : Fault :=
  .temporary
    ("IAMAuthPolicy " ++ address.text ++ " requeued in " ++ toString seconds ++ "s")
    (.float (Float.ofNat seconds))

/-- Reconcile, turning a requeue into the fault that asks for it. -/
def reconcileOrRequeue
    (operator : Operator Time)
    (address : Address) :
    Program Time Unit := do
  let result ← reconcile operator address
  match result.requeueAfter with
  | some seconds => fail (requeueFault address seconds)
  | none => finish ()

/--
A delivery handled from the outside: correlation, observation and the reconcile
itself.
-/
def runReconcile (operator : Operator Time) (correlation : Json) (record : Json)
    (address : Address) : Program Time Unit :=
  withCorrelation correlation do
    let members ← ofExcept record.tableMembers
    observed operator.redaction (.str recordKind) (.obj members)
      (reconcileOrRequeue operator address)

end PolicyReconciler.Reconcile

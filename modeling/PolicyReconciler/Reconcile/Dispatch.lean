import PolicyReconciler.VpcLattice.AuthState
import PolicyReconciler.VpcLattice.Resolver
import PolicyReconciler.Observation.Log
import PolicyReconciler.PolicyStore

namespace PolicyReconciler

/-!
# Reconciling one policy

A reconcile reads the record of a policy, resolves its target and brings the
auth state of the resource in line: a live policy is attached, one that is
being deleted is detached.  Only then is the record written back, and with it
the finalizer that holds or releases it.
-/

/-- The outcome of a reconcile: done, or to be run again after a delay. -/
structure ReconcileResult (Delay : Type) where
  requeueAfter : Option Delay
  deriving Repr, DecidableEq

/-- Is the record to be reconciled again later? -/
def ReconcileResult.requeue
    {Delay : Type}
    (result : ReconcileResult Delay) :
    Bool :=
  result.requeueAfter.isSome

namespace Reconcile

open Program

variable {Time : Type} [TimeScale Time]

/-- The kind of the records that the operator reconciles. -/
def recordKind : String := "IAMAuthPolicy"

/-- The annotation that keeps the id of the resource. -/
def resourceAnnotation : String := "application-networking.k8s.aws/resourceId"

/-- The kind of the resource that a kind of target stands for. -/
def resourceKind (kind : TargetKind) : ResourceKind :=
  if kind.isRoute then .service else .serviceNetwork

/--
The resource that a policy's target stands for, looked up inside a span of its
own.
-/
def resolveTarget
    (operator : Operator Time)
    (kind : ResourceKind)
    (policy : Policy) :
    Program Time Json :=
  withSpan (.str "resolve_target") (.str recordKind) [] do
    let identifier ← VpcLattice.resolve operator kind policy.target
        policy.recordNamespace
    annotateSpan "lattice.resource_id" identifier
    finish identifier

/-- Attach a live policy to its resource. -/
def upsert (operator : Operator Time) (kind : ResourceKind) (policy : Policy) :
    Program Time Json := do
  let identifier ← resolveTarget operator kind policy
  VpcLattice.enableAuth operator identifier
  VpcLattice.putPolicy operator identifier (.str policy.document)
  emit (Event.policyApplied (.obj policy.record) identifier)
  finish identifier

/-- Detach a policy that is being deleted from its resource. -/
def delete (operator : Operator Time) (kind : ResourceKind) (policy : Policy) :
    Program Time Json := do
  let identifier ← resolveTarget operator kind policy
  VpcLattice.deletePolicy operator identifier
  VpcLattice.disableAuth operator identifier
  emit (Event.policyDeleted (.obj policy.record) identifier)
  finish identifier

/-- The pipelines: one for each kind of resource and each direction. -/
inductive Pipeline where
  | upsert (kind : ResourceKind)
  | delete (kind : ResourceKind)
  deriving Repr, DecidableEq

/-- The pipeline for a kind of target of a policy that is live or being deleted. -/
def Pipeline.of (kind : TargetKind) (deleting : Bool) : Pipeline :=
  if deleting then .delete (resourceKind kind) else .upsert (resourceKind kind)

/-- The steps of a pipeline, and the resource they ended at. -/
def Pipeline.run
    (pipeline : Pipeline)
    (operator : Operator Time)
    (policy : Policy) :
    Program Time Json :=
  match pipeline with
  | .upsert kind => Reconcile.upsert operator kind policy
  | .delete kind => Reconcile.delete operator kind policy

/-- A line about a policy. -/
def noteOn (policy : Policy) (message reason : String) (event : Option String)
    (extra : Members) : HandlerNote where
  metadata := .obj policy.identity
  message := .str message
  event := event.map .str
  reason := some (.str reason)
  extra := extra

/-- The result of a reconcile that has nothing left to do. -/
def settled : ReconcileResult Nat := ⟨none⟩

/-- A reconcile put off for a reason, and counted. -/
def requeue (reason : RequeueReason) : Program Time (ReconcileResult Nat) := do
  count (.requeues recordKind reason)
  finish ⟨some reason.seconds⟩

/-- A reconcile of a record that is gone: one line, and nothing else to do. -/
def noteMissing (address : Address) : Program Time (ReconcileResult Nat) := do
  HandlerNote.inform
    { metadata :=
      .obj [("name", address.name), ("namespace", address.recordNamespace)]
      message := .str "IAMAuthPolicy no longer exists, nothing to do"
      event := none
      reason := some (.str "NotFound")
      extra := [] }
    (.str recordKind)
  finish settled

/-- Put a policy off whose target is of an unsupported kind. -/
def deferUnsupported
    (order : Redaction.FieldOrder)
    (policy : Policy)
    (fault : Fault) :
    Program Time (ReconcileResult Nat) := do
  (noteOn policy "unsupported targetRef" "UnsupportedTarget" none
    [("kind", policy.target.kind)]).report order (.str recordKind) (some fault)
  emit (Event.unsupportedTarget (.obj policy.record) policy.target.kind)
  requeue .unsupportedTarget

/-- Put a policy off whose target does not exist yet. -/
def deferMissingTarget (policy : Policy) (fault : Fault) :
    Program Time (ReconcileResult Nat) := do
  (noteOn policy ("reconcile error, retry in 30sec: " ++ fault.message)
    "DependencyNotFound"
    none [("target_ref", policy.target.logged)]).inform (.str recordKind)
  emit (Event.targetNotFound (.obj policy.record) (.str fault.message))
  requeue .dependencyNotFound

/-- Write a policy back with the id of its resource. -/
def persist (operator : Operator Time) (policy : Policy) (identifier : Json) :
    Program Time (ReconcileResult Nat) := do
  let _ ← PolicyStore.update operator
      (policy.annotate resourceAnnotation identifier)
  (noteOn policy "reconciled IAM policy" "Reconciled" (some "reconciled")
    [("target_ref", policy.target.logged), ("lattice_resource_id", identifier),
      ("is_deleted", .bool policy.deletionRequested)]).inform (.str recordKind)
  finish settled

/-- The pipeline for a known target, inside the span of the reconcile. -/
def runPipeline (operator : Operator Time) (kind : TargetKind) (policy : Policy) :
    Program Time Json :=
  withSpan (.str "reconcile_iam_auth_policy") (.str recordKind)
    [("policy.name", policy.name), ("target.kind", .str kind.text),
      ("delete", .bool policy.deletionRequested)]
    ((Pipeline.of kind policy.deletionRequested).run operator policy)

/--
The reconcile of a policy whose target is of a known kind. A missing target puts
it off.
-/
def reconcileSupported
    (operator : Operator Time)
    (kind : TargetKind)
    (policy : Policy) :
    Program Time (ReconcileResult Nat) :=
  (runPipeline operator kind policy).followedBy fun
    | .ok identifier => persist operator policy identifier
    | .error fault =>
        match fault with
        | .dependencyNotFound .. => deferMissingTarget policy fault
        | _ => fail fault

/-- Reconcile a policy that was read from its record. -/
def reconcilePolicy (operator : Operator Time) (policy : Policy) :
    Program Time (ReconcileResult Nat) := do
  (noteOn policy "reconcile" "Reconcile" (some "reconcile")
    [("target_ref", policy.target.logged)]).inform (.str recordKind)
  match TargetKind.ofJson policy.target.kind with
  | .error fault => deferUnsupported operator.redaction policy.gate fault
  | .ok kind => reconcileSupported operator kind policy.gate

/-- The reconcile of the record at an address, read afresh. -/
def reconcile (operator : Operator Time) (address : Address) :
    Program Time (ReconcileResult Nat) := do
  match ← PolicyStore.get operator address with
  | none => noteMissing address
  | some policy => reconcilePolicy operator policy

end Reconcile

end PolicyReconciler

import PolicyReconciler.Proofs.Reconcile.Course

namespace PolicyReconciler.Reconcile

/-!
# The stages of a reconcile

The calls of a reconcile come in four stages: reads of its record, list calls for
its target, changes of the one resource that was found, and a single write-back.
A stage begins only when the one before has succeeded, so a failure at any point
leaves the record unwritten and the rest of the plan undone.
-/

open Program VpcLattice PolicyStore

variable {Time : Type} [TimeScale Time]

/--
The stages after a lookup that has found an identifier: some of the planned
changes from the first on and, if each of them was taken, at most one write-back.
-/
def FollowsPlan
    (operator : Operator Time)
    (policy : Policy)
    (identifier : Json)
    (changes writes : History)
    (outcome : Except Fault (ReconcileResult Nat)) : Prop :=
  changes.map (Except.ok ∘ Exchange.call) <+: plan policy identifier ∧
    ∃ changed, Carried operator (plan policy identifier) changes changed ∧
      match changed with
      | .error fault => writes = [] ∧ outcome = pipelineFailure fault
      | .ok _ =>
          (∀ exchange ∈ changes, verdict exchange.call exchange.answer = .ok ()) ∧
            changes.map (Except.ok ∘ Exchange.call) = plan policy identifier ∧
            writes.length ≤ 1 ∧
            ∃ written, WriteBack operator (settledPolicy policy identifier)
              writes written ∧
              outcome = written.map fun _ => settled

/--
The stages after a record of a supported kind was read: list calls of one kind
first.
-/
def FollowsLookup
    (operator : Operator Time)
    (policy : Policy)
    (kind : TargetKind)
    (lookups changes writes : History)
    (outcome : Except Fault (ReconcileResult Nat)) : Prop :=
  (∀ exchange ∈ lookups, Lists (resourceKind kind) exchange.call) ∧
    ∃ found, TargetLookup operator kind policy lookups found ∧
      match found with
      | .error fault => changes ++ writes = [] ∧ outcome = pipelineFailure fault
      | .ok none =>
          changes ++ writes = [] ∧
            outcome = .ok ⟨some RequeueReason.dependencyNotFound.seconds⟩
      | .ok (some identifier) =>
          FollowsPlan operator policy identifier changes writes outcome

/-- The stages of a whole reconcile, each a part of its history, and its outcome. -/
def Staged
    (operator : Operator Time)
    (address : Address)
    (reads lookups changes writes : History)
    (outcome : Except Fault (ReconcileResult Nat)) : Prop :=
  (∀ exchange ∈ reads, exchange.call = readCall operator address) ∧
    ∃ read, Reading operator address readRetries reads read ∧
      match read with
      | .error fault => lookups ++ changes ++ writes = [] ∧ outcome = .error fault
      | .ok none => lookups ++ changes ++ writes = [] ∧ outcome = .ok settled
      | .ok (some policy) =>
          ((∀ kind : TargetKind, policy.target.kind ≠ .str kind.text) ∧
            lookups ++ changes ++ writes = [] ∧
            outcome = .ok ⟨some RequeueReason.unsupportedTarget.seconds⟩) ∨
          ∃ kind : TargetKind, policy.target.kind = .str kind.text ∧
            FollowsLookup operator policy kind lookups changes writes outcome

variable {operator : Operator Time}
variable {address : Address}

/-- A carried plan with its write-back follows the plan. -/
theorem followsPlan_of_carried
    {policy : Policy}
    {identifier : Json}
    {changes writes : History}
    {written : Except Fault Unit}
    (change : Carried operator (plan policy identifier) changes (.ok ()))
    (write : WriteBack operator (settledPolicy policy identifier) writes written) :
    FollowsPlan operator policy identifier changes writes
      (written.map fun _ => settled) := by
  obtain ⟨planned, taken⟩ := Carried.complete_iff.mp change
  have single : writes.length ≤ 1 := by
    cases write with
    | stalled halted =>
        simp
    | answered answer =>
        simp
  exact ⟨change.calls_prefix, .ok (), change, taken, planned.symm, single,
    written, write, rfl⟩

/-- Every course goes through the stages in their order. -/
theorem Course.staged
    {history : History}
    {outcome : Except Fault (ReconcileResult Nat)}
    (course : Course operator address history outcome) :
    ∃ reads lookups changes writes,
      history = reads ++ lookups ++ changes ++ writes ∧
        Staged operator address reads lookups changes writes outcome := by
  cases course with
  | unread read =>
      exact ⟨_, [], [], [], by simp, read.reads, _, read, rfl, rfl⟩
  | missing read =>
      exact ⟨_, [], [], [], by simp, read.reads, _, read, rfl, rfl⟩
  | unsupported read other =>
      exact ⟨_, [], [], [], by simp, read.reads, _, read, .inl ⟨other, rfl, rfl⟩⟩
  | targetMissing read supported lookup =>
      have stages := lookup.lists
      exact ⟨_, _, [], [], by simp, read.reads, _, read,
        .inr ⟨_, supported, stages, _, lookup, rfl, rfl⟩⟩
  | unresolved read supported lookup =>
      have stages := lookup.lists
      exact ⟨_, _, [], [], by simp, read.reads, _, read,
        .inr ⟨_, supported, stages, _, lookup, rfl, rfl⟩⟩
  | halted read supported lookup change =>
      have stages := lookup.lists
      exact ⟨_, _, _, [], by simp, read.reads, _, read,
        .inr ⟨_, supported, stages, _, lookup, change.calls_prefix, _,
          change, rfl, rfl⟩⟩
  | written read supported lookup change write =>
      have stages := lookup.lists
      exact ⟨_, _, _, _, rfl, read.reads, _, read,
        .inr ⟨_, supported, stages, _, lookup, followsPlan_of_carried change write⟩⟩

/--
Every reconcile passes through the stages in order, whatever its record, the
listings and the answers are.  A failure leaves it as the fault of the step that
failed; only a missing target, and a call of the pipeline that itself ends with
the fault of one, ask for another attempt instead.
-/
theorem stages_of_runs
    {history : History}
    {outcome : Except Fault (ReconcileResult Nat)}
    (runs : (reconcile operator address).Runs history outcome) :
    ∃ reads lookups changes writes,
      history = reads ++ lookups ++ changes ++ writes ∧
        Staged operator address reads lookups changes writes outcome := by
  have course : Course operator address ([] ++ history) outcome :=
    (reconcile_meets operator address).of_runs runs
  exact course.staged

/-! ## A policy of a gateway -/

/-- An operator with the usual settings. -/
def gatewayOperator : Operator Rat where
  rates := ⟨8, 4⟩
  requestTimeout := .int 30
  pageLimit := 8
  redaction := .listed

/-- The address of a gateway's policy. -/
def gatewayAddress : Address where
  recordNamespace := .str "shop"
  name := .str "entrance"

/-- The record of the policy, with further members of its metadata. -/
def gatewayRecord (version : String) (marks : Members) : Members :=
  [("metadata", .obj ([("name", gatewayAddress.name),
      ("namespace", gatewayAddress.recordNamespace),
      ("resourceVersion", .str version)] ++ marks)),
    ("spec", .obj
      [("targetRef", .obj [("kind", .str "Gateway"), ("name", .str "front")]),
      ("policy", .str "allow")])]

/-- The service network that stands for the gateway. -/
def gatewayNetwork : Json := .str "sn-1"

/--
The beginning of each reconcile of the policy: its record is read, its target found.
-/
def gatewayLookup (record : Members) : History :=
  [⟨readCall gatewayOperator gatewayAddress, .ok (.obj record)⟩,
    ⟨.listPage .serviceNetwork none,
      .ok (.obj [("items", .arr
        [.obj [("name", .str "front"), ("id", gatewayNetwork)]])])⟩]

/-- The metadata that a reconcile of the live policy adds. -/
def gatewayMarks : Members :=
  [("finalizers", .arr [Policy.operatorFinalizer]),
    ("annotations", .obj [( resourceAnnotation, gatewayNetwork)])]

/-- The changes for the live policy, the second of which is answered as given. -/
def gatewayAttachment (answer : Except Fault Json) : History :=
  [⟨.setAuthType .serviceNetwork gatewayNetwork signedRequests, .ok (.obj [])⟩,
    ⟨.putAuthPolicy gatewayNetwork (.str "allow"), answer⟩]

/-- The exchange in which the gateway's record is written back. -/
def gatewayWrite : Exchange where
  call :=
    .replaceRecord gatewayAddress (.obj (gatewayRecord "1" gatewayMarks)) (.int 30)
  answer := .ok .null

/-- The exchanges of a run that guards the gateway. -/
def gatewayHistory : History :=
  gatewayLookup (gatewayRecord "1" []) ++
    gatewayAttachment (.ok (.obj [])) ++ [gatewayWrite]

set_option maxRecDepth 2048 in
/-- The exchanges are those of a run that settles. -/
theorem gatewayHistory_runs :
    (reconcile gatewayOperator gatewayAddress).Runs gatewayHistory (.ok settled) :=
  leads_of_follow 0 ⟨.null, none⟩ (by with_unfolding_all rfl)

theorem stages_of_gatewayHistory :
    (reconcile gatewayOperator gatewayAddress).Runs gatewayHistory (.ok settled) ∧
      ∃ reads lookups changes writes,
        gatewayHistory = reads ++ lookups ++ changes ++ writes ∧
          Staged gatewayOperator gatewayAddress reads lookups changes writes
            (.ok settled) :=
  ⟨gatewayHistory_runs, stages_of_runs gatewayHistory_runs⟩

/--
Not every failure of a change leaves a reconcile as its fault: attaching the
policy may end with the fault of a missing target, which asks for another attempt.
-/
theorem put_failure_not_always_left :
    ¬ ∀ history outcome fault,
      (reconcile gatewayOperator gatewayAddress).Runs history outcome →
      history = gatewayLookup (gatewayRecord "1" []) ++
        gatewayAttachment (.error fault) →
      outcome = .error fault := by
  intro leaves
  have runs :
      (reconcile gatewayOperator gatewayAddress).Runs
        (gatewayLookup (gatewayRecord "1" []) ++
          gatewayAttachment
            (.error (.dependencyNotFound (.str "Service") (.str "front"))))
        (.ok ⟨some 30⟩) :=
    leads_of_follow 0 ⟨.null, none⟩ (by with_unfolding_all rfl)
  have left := leaves _ _ _ runs rfl
  cases left

end PolicyReconciler.Reconcile

import PolicyReconciler.Platform.Basic
import PolicyReconciler.Proofs.Composition.Basic
import PolicyReconciler.Proofs.Json.Members
import PolicyReconciler.Proofs.Program.Quiet
import PolicyReconciler.Reconcile.Run

namespace PolicyReconciler

/-!
# What the operator's programs are made of

Every program of the operator is put together from the same few parts: calls to the
Lattice service, attempts to read a record, and writes of one.  No call is made
outside of these parts.  A program is taken apart here once, so that a property of
all programs only has to be shown of the parts.
-/

open Program

variable {Time : Type}
variable {parts : Parts Time}
variable {loose : Effect Time → Prop}
variable {order : Redaction.FieldOrder}
variable {Result : Type}

/-! ## Log lines -/

namespace Composed

/-- A note names no span if its fields do not. -/
theorem writeWith
    {fields : Members}
    (note : HandlerNote)
    (kind : Json)
    (level : LogLevel)
    (defaultEvent defaultReason : String)
    (unnamed : ∀ field ∈ fields, field.1 ∉ spanKeys) :
    Composed order parts loose
      (note.writeWith kind level defaultEvent defaultReason fields)
      (note.writeWith kind level defaultEvent defaultReason fields) := by
  unfold HandlerNote.writeWith
  split
  · exact .ended _
  · exact .line rfl unnamed

/-- A handler's line. -/
theorem inform
    {note : HandlerNote}
    (kind : Json)
    (unnamed : ∀ field ∈ note.extra, field.1 ∉ spanKeys) :
    Composed order parts loose (note.inform kind) (note.inform kind) := by
  unfold HandlerNote.inform
  split
  · exact .ended _
  · exact .writeWith note kind _ _ _ fun field inside =>
      unnamed field (List.mem_filter.mp inside).1

/-- A note about a fault holds its kind and its redacted message only. -/
theorem report
    {note : HandlerNote}
    {fault fault' : Fault}
    (kind : Json)
    (unnamed : ∀ field ∈ note.extra, field.1 ∉ spanKeys)
    (alike : fault.Alike order fault') :
    Composed order parts loose (note.report order kind (some fault))
      (note.report order kind (some fault')) := by
  have fields : note.errorFields order (some fault) =
      note.errorFields order (some fault') := by
    simp only [HandlerNote.errorFields, alike.kind_eq, alike.redactedMessage_eq]
  unfold HandlerNote.report
  rw [fields]
  split
  · exact .ended _
  · refine .writeWith note kind _ _ _ fun field inside => ?_
    rcases Members.mem_or_eq_of_mem_set inside with before | rfl
    · rcases Members.mem_or_eq_of_mem_set before with redacted | rfl
      · obtain ⟨original, given, same⟩ :=
          HandlerNote.exists_mem_of_mem_redactMembersWith redacted
        rw [← same]
        exact unnamed original (List.mem_filter.mp given).1
      · simp [spanKeys]
    · simp [spanKeys]

/-- The client's line about an error answer is the one that holds its text. -/
theorem reporting
    {request request' : Program Time Result}
    (activity : String)
    (inner : Composed order parts loose request request') :
    Composed order parts loose (VpcLattice.reporting activity request)
      (VpcLattice.reporting activity request') := by
  refine inner.recover
    (Fault.Alike.handled (Composed order parts loose) _ Program.fail
    ?service ?api ?temporary ?missing ?plain fun _ _ => .fail)
  case service =>
    exact fun _ _ alike => .failure activity alike (.fail alike)
  case api =>
    exact fun _ _ alike => .fail alike
  case temporary | missing =>
    exact fun _ _ => .ended _
  case plain =>
    intro other plain
    cases other <;> first | rfl | exact plain.elim

/-- A change is counted by how it ended. -/
theorem counted
    {first second : Program Time Result}
    (operation : AuthOperation)
    (tallies :
      ∀ operation outcome, loose (.count (.authOperations operation outcome)))
    (inner : Composed order parts loose first second) :
    Composed order parts loose (VpcLattice.counted operation first)
      (VpcLattice.counted operation second) := by
  refine .followedBy inner fun outcome outcome' alike => ?_
  cases alike with
  | ok result =>
      exact .bind (.count (tallies operation .success)) fun _ => .ended _
  | error alike =>
      exact .bind (.count (tallies operation .error)) fun _ => .fail alike

/-- A reconcile that is put off. -/
theorem requeue
    (requeues : ∀ reason, loose (.count (.requeues Reconcile.recordKind reason)))
    (reason : RequeueReason) :
    Composed order parts loose (Reconcile.requeue reason)
      (Reconcile.requeue reason) :=
  .bind (.count (requeues reason)) fun _ => .ended _

end Composed

/-! ## Calls -/

variable [TimeScale Time]
variable {operator : Operator Time}

/-- The programs in which the operator calls a service. -/
inductive OperatorPart (operator : Operator Time) : Parts Time where
  | invoke {operation : Operation} {request : Call}
      (named : request.method = .operation operation)
      (served : operation.api = .lattice) :
      OperatorPart operator Json (VpcLattice.invoke operator operation request)
  | attempt (address : Address) (next : Option (Pause Time)) :
      OperatorPart operator PolicyStore.Attempt
        (PolicyStore.attempt operator address next)
  | update (policy : Policy) :
      OperatorPart operator Json (PolicyStore.update operator policy)

/-- A program that is made of the operator's requests and of loose effects. -/
abbrev Program.OfRequests
    (program : Program Time Result)
    (operator : Operator Time)
    (loose : Effect Time → Prop) :
    Prop :=
  program.MadeOf operator (OperatorPart operator) loose

namespace Composed

/-! ## The Lattice client -/

/-- A listing from some page on. -/
theorem listFrom (kind : ResourceKind) (pages : Nat) (token : Option Json) :
    (VpcLattice.listFrom operator kind pages token).OfRequests operator loose := by
  induction pages generalizing token with
  | zero =>
      exact .ended _
  | succ pages inductionHypothesis =>
      refine .bind (.part (.invoke rfl rfl)) fun page =>
        .bind (.ended _) fun items => ?_
      split
      · exact .ended _
      · exact .bind (inductionHypothesis _) fun others => .ended _

/-- A whole listing. -/
theorem list (kind : ResourceKind) :
    (VpcLattice.list operator kind).OfRequests operator loose :=
  .reporting _ (.listFrom kind operator.pageLimit none)

/-- A lookup by name. -/
theorem findId (kind : ResourceKind) (name : Json) :
    (VpcLattice.findId operator kind name).OfRequests operator loose := by
  refine .bind (.list kind) fun items => ?_
  split <;> exact .ended _

theorem setAuthType (kind : ResourceKind) (identifier authType : Json) :
    (VpcLattice.setAuthType operator kind identifier authType).OfRequests
      operator loose :=
  .reporting _ (.bind (.part (.invoke rfl rfl)) fun _ => .ended _)

theorem putAuthPolicy (identifier document : Json) :
    (VpcLattice.putAuthPolicy operator identifier document).OfRequests
      operator loose :=
  .reporting _ (.part (.invoke rfl rfl))

theorem deleteAuthPolicy (identifier : Json) :
    (VpcLattice.deleteAuthPolicy operator identifier).OfRequests operator loose :=
  .reporting _ (.bind (.part (.invoke rfl rfl)) fun _ => .ended _)

/-- A lookup of a target. -/
theorem resolve
    (kind : ResourceKind)
    (target : TargetRef)
    (recordNamespace : Json) :
    (VpcLattice.resolve operator kind target recordNamespace).OfRequests
      operator loose := by
  cases kind with
  | serviceNetwork =>
      exact .findId _ _
  | service =>
      exact .bind (.ended _) fun name => .findId _ _

/-! ## The store -/

/-- The read of a record. -/
theorem get (address : Address) :
    (PolicyStore.get operator address).OfRequests operator loose := by
  unfold PolicyStore.get
  induction (PolicyStore.readPauses : List (Pause Time)) with
  | nil =>
      refine .bind (.part (.attempt address none)) fun ended => ?_
      cases ended <;> exact .ended _
  | cons pause rest inductionHypothesis =>
      refine .bind (.part (.attempt address (some pause))) fun ended => ?_
      cases ended with
      | found policy =>
          exact .ended _
      | missing =>
          exact .ended _
      | again =>
          exact inductionHypothesis

/-! ## The auth state -/

/-- A change of the authentication type, by the identifier alone. -/
theorem changeAuthType (identifier authType : Json) :
    (VpcLattice.changeAuthType operator identifier authType).OfRequests
      operator loose :=
  .bind (.ended _) fun _ => .setAuthType _ _ _

/-- A policy that is no longer attached counts as removed. -/
theorem removePolicy (identifier : Json) :
    ((VpcLattice.deleteAuthPolicy operator identifier).recover fun fault =>
      if fault.hasServiceCode "ResourceNotFoundException" then
        Program.log .info .authState
          ("No auth policy attached to " ++ identifier.display)
      else
        Program.fail fault).OfRequests operator loose := by
  refine .recover (.deleteAuthPolicy identifier) fun fault fault' alike => ?_
  rw [alike.hasServiceCode_eq]
  split
  · exact .log _ _ (by decide)
  · exact .fail alike

section AuthState

variable (tallies :
  ∀ operation outcome, loose (.count (.authOperations operation outcome)))
include tallies

/-- Closing a resource. -/
theorem enableAuth (identifier : Json) :
    (VpcLattice.enableAuth operator identifier).OfRequests operator loose :=
  .bind (.counted _ tallies (.changeAuthType _ _)) fun _ => .log _ _ (by decide)

/-- Opening a resource. -/
theorem disableAuth (identifier : Json) :
    (VpcLattice.disableAuth operator identifier).OfRequests operator loose :=
  .bind (.counted _ tallies (.changeAuthType _ _)) fun _ => .log _ _ (by decide)

/-- Putting a policy on a resource. -/
theorem putPolicy (identifier document : Json) :
    (VpcLattice.putPolicy operator identifier document).OfRequests operator loose :=
  .bind (.counted _ tallies (.putAuthPolicy _ _)) fun _ =>
    .bind (.ended _) fun _ => .log _ _ (by decide)

/-- Taking a policy off a resource. -/
theorem deletePolicy (identifier : Json) :
    (VpcLattice.deletePolicy operator identifier).OfRequests operator loose :=
  .counted _ tallies (.removePolicy identifier)

end AuthState

/-! ## Reconciles -/

theorem resolveTarget (kind : ResourceKind) (policy : Policy) :
    (Reconcile.resolveTarget operator kind policy).OfRequests operator loose :=
  .withSpan _ _ _ <|
    .bind (.resolve kind policy.target policy.recordNamespace) fun _ =>
      .bind (.single (.inl trivial) fun _ => ⟨_, rfl⟩) fun _ => .ended _

/-- Writing a record back. -/
theorem persist (policy : Policy) (identifier : Json) :
    (Reconcile.persist operator policy identifier).OfRequests operator loose :=
  .bind (.part (.update _)) fun _ =>
    .bind (.inform _ (by simp [Reconcile.noteOn, spanKeys])) fun _ => .ended _

section Whole

variable (tallies :
  ∀ operation outcome, loose (.count (.authOperations operation outcome)))
variable (emits : ∀ event, loose (.emit event))
include tallies emits

/-- The pipeline of a live record. -/
theorem upsert (kind : ResourceKind) (policy : Policy) :
    (Reconcile.upsert operator kind policy).OfRequests operator loose :=
  .bind (.resolveTarget kind policy) fun identifier =>
    .bind (.enableAuth tallies identifier) fun _ =>
    .bind (.putPolicy tallies identifier _) fun _ =>
    .bind (.emit (emits _)) fun _ => .ended _

/-- The pipeline of a deleted record. -/
theorem delete (kind : ResourceKind) (policy : Policy) :
    (Reconcile.delete operator kind policy).OfRequests operator loose :=
  .bind (.resolveTarget kind policy) fun identifier =>
    .bind (.deletePolicy tallies identifier) fun _ =>
    .bind (.disableAuth tallies identifier) fun _ =>
    .bind (.emit (emits _)) fun _ => .ended _

/-- Either pipeline, for a target of a known kind. -/
theorem runPipeline (kind : TargetKind) (policy : Policy) :
    (Reconcile.runPipeline operator kind policy).OfRequests operator loose := by
  refine .withSpan _ _ _ ?_
  cases Reconcile.Pipeline.of kind policy.deletionRequested with
  | upsert resource =>
      exact .upsert tallies emits resource policy
  | delete resource =>
      exact .delete tallies emits resource policy

variable (requeues :
  ∀ reason, loose (.count (.requeues Reconcile.recordKind reason)))
include requeues

omit tallies in
/-- What is told of an unsupported target. -/
theorem deferUnsupported (policy : Policy) (fault : Fault) :
    (Reconcile.deferUnsupported operator.redaction policy fault).OfRequests
      operator loose :=
  .bind (.report _ (by simp [Reconcile.noteOn, spanKeys]) (.same fault)) fun _ =>
    .bind (.emit (emits _)) fun _ => .requeue requeues _

omit tallies in
/-- What is told of a missing target. -/
theorem deferMissingTarget (policy : Policy) (fault : Fault) :
    (Reconcile.deferMissingTarget policy fault).OfRequests operator loose :=
  .bind (.inform _ (by simp [Reconcile.noteOn, spanKeys])) fun _ =>
    .bind (.emit (emits _)) fun _ => .requeue requeues _

/-- The reconcile of a policy with a target of a known kind. -/
theorem reconcileSupported (kind : TargetKind) (policy : Policy) :
    (Reconcile.reconcileSupported operator kind policy).OfRequests
      operator loose := by
  refine .followedBy (.runPipeline tallies emits kind policy)
    fun outcome outcome' alike => ?_
  cases alike with
  | ok identifier =>
      exact .persist policy identifier
  | @error fault fault' alike =>
      -- Only the fault of a missing target puts the policy off.
      revert fault fault'
      apply Fault.Alike.handled (Composed _ _ loose) _ Program.fail ?service ?api
        ?temporary ?missing ?plain fun _ _ => .fail
      case service | api =>
        exact fun _ _ alike => .fail alike
      case temporary =>
        exact fun _ _ => .ended _
      case missing =>
        exact fun _ _ => .deferMissingTarget emits requeues policy _
      case plain =>
        intro other plain
        cases other <;> first | rfl | exact plain.elim

/-- A whole reconcile. -/
theorem reconcile (address : Address) :
    (Reconcile.reconcile operator address).OfRequests operator loose := by
  refine .bind (.get address) fun found => ?_
  cases found with
  | none =>
      exact .bind (.inform _ (by simp)) fun _ => .ended _
  | some policy =>
      refine .bind (.inform _ (by simp [Reconcile.noteOn, spanKeys])) fun _ => ?_
      cases TargetKind.ofJson policy.target.kind with
      | error fault =>
          exact .deferUnsupported emits requeues policy.gate fault
      | ok kind =>
          exact .reconcileSupported tallies emits requeues kind policy.gate

/-! ## Runs -/

/-- A reconcile with its request to come back. -/
theorem reconcileOrRequeue (address : Address) :
    (Reconcile.reconcileOrRequeue operator address).OfRequests operator loose := by
  refine .bind (.reconcile tallies emits requeues address) fun result => ?_
  split <;> exact .ended _

variable (clocks : loose .readClock)
variable (stages : ∀ kind stage, loose (.count (.reconciles kind stage)))
variable (faults : ∀ kind faultKind, loose (.count (.faults kind faultKind)))
variable (durations :
  ∀ kind length, loose (.observe (.reconcileDuration kind) length))
include clocks stages faults durations

omit tallies requeues clocks durations [TimeScale Time] in
/-- What is told of a failure. Faults that are alike are told alike. -/
theorem reportFailure
    {fault fault' : Fault}
    (kind record metadata : Json)
    (alike : fault.Alike order fault') :
    Composed order parts loose
      (Reconcile.reportFailure order kind record metadata fault)
      (Reconcile.reportFailure order kind record metadata fault') := by
  unfold Reconcile.reportFailure
  rw [alike.kind_eq, alike.redactedMessage_eq]
  exact .bind (.count (faults _ _)) fun _ =>
    .bind (.report _ (by simp) alike) fun _ =>
    .bind (.emit (emits _)) fun _ => .count (stages _ _)

omit tallies requeues clocks durations [TimeScale Time] in
/-- What follows the work of a handler. -/
theorem afterWork
    {outcome outcome' : Except Fault Result}
    (kind record metadata : Json)
    (alike : AlikeOutcomes order outcome outcome') :
    Composed order parts loose
      (Reconcile.afterWork order kind record metadata outcome)
      (Reconcile.afterWork order kind record metadata outcome') := by
  cases alike with
  | ok result =>
      exact .bind (.count (stages _ _)) fun _ => .ended _
  | error alike =>
      have reported : ∀ first second : Fault, first.Alike order second →
          Composed order parts loose
            (Reconcile.reportFailure order kind record metadata first >>= fun _ =>
              Program.fail first : Program Time Result)
            (Reconcile.reportFailure order kind record metadata second >>= fun _ =>
              Program.fail second) :=
        fun _ _ alike =>
          .bind (.reportFailure emits stages faults _ _ _ alike) fun _ =>
            .fail alike
      refine Fault.Alike.handled (Composed order parts loose)
        (fun fault =>
          Reconcile.afterWork order kind record metadata (.error fault)) _
        ?service ?api ?temporary ?missing ?plain reported _ _ alike
      case service | api =>
        exact fun _ _ alike => reported _ _ alike
      case temporary =>
        exact fun _ _ => .bind (.count (stages _ _)) fun _ => .ended _
      case missing =>
        exact fun _ _ => reported _ _ (.same _)
      case plain =>
        intro other plain
        cases other <;> first | rfl | exact plain.elim

/-- Every run is made of the parts that make the calls, and of loose effects. -/
theorem runReconcile (correlation record : Json) (address : Address) :
    (Reconcile.runReconcile operator correlation record address).OfRequests operator
      loose := by
  refine .withCorrelation correlation <| .bind (.ended _) fun members =>
    .bind (.ended _) fun metadata => .bind (.emit (emits _)) fun _ =>
    .bind (.count (stages _ _)) fun _ =>
    .bind (.readClock clocks) fun start => .ensuring ?_ ?_
  · exact .followedBy (.reconcileOrRequeue tallies emits requeues address)
      fun outcome outcome' alike => .afterWork emits stages faults _ _ _ alike
  · exact .bind (.readClock clocks) fun stop => .observe (durations _ _)

end Whole

end Composed

end PolicyReconciler

import PolicyReconciler.Proofs.Accounting.Receipts
import PolicyReconciler.Proofs.Reconcile.Course

namespace PolicyReconciler

/-!
# The story of a reconcile

Events on the record, and the counters and durations of reconciles, are the notices
that a run gives of itself.  The calls in between give none.  `Reconcile.Story`
lists the ways in which a reconcile can end, as its courses do, each with the
notices that it gives.
-/

open Program VpcLattice PolicyStore

/-! ## Notices -/

/-- Whether a counter tells of reconciles. -/
def Counter.tellsOfReconciles : Counter → Bool
  | .reconciles .. => true
  | .faults .. => true
  | .requeues .. => true
  | _ => false

/-- Whether a counter tells of a fault that a run has failed with. -/
def Counter.tellsOfFault : Counter → Bool
  | .faults .. => true
  | _ => false

/-- Whether a histogram is of the durations of reconciles. -/
def Histogram.isOfReconciles : Histogram → Bool
  | .reconcileDuration _ => true
  | _ => false

/-- Whether a mark is a notice that a run gives of itself. -/
def Mark.isNotice : Mark → Bool
  | emitted _ => true
  | counted counter => counter.tellsOfReconciles
  | timed histogram => histogram.isOfReconciles
  | _ => false

/-- The notices in a chronicle. -/
abbrev Chronicle.notices (chronicle : Chronicle) : Chronicle :=
  chronicle.filter Mark.isNotice

/-- Whether a chronicle has no notices. -/
def Unnoticed (chronicle : Chronicle) : Prop :=
  Chronicle.notices chronicle = []

/-- The notices of joined chronicles are the joined notices. -/
theorem Chronicle.notices_append (first second : Chronicle) :
    notices (first ++ second) = notices first ++ notices second :=
  List.filter_append first second

/--
A view of the notices keeps the items of a view of all marks that belong to notices.
-/
theorem Chronicle.filterMap_notices
    {Item : Type}
    {view : Mark → Option Item}
    {keep : Item → Bool}
    (chronicle : Chronicle)
    (kept : ∀ mark, (if mark.isNotice then view mark else none) =
      (view mark).filter keep) :
    (notices chronicle).filterMap view =
      (chronicle.filterMap view).filter keep := by
  rw [notices, List.filterMap_filter, List.filter_filterMap]
  exact List.filterMap_congr fun mark _ => kept mark

/-- Every event is noticed. -/
theorem Chronicle.events_notices (chronicle : Chronicle) :
    events (notices chronicle) = events chronicle := by
  have whole : (events chronicle).filter (fun _ => true) = events chronicle :=
    List.filter_true _
  rw [← whole]
  refine filterMap_notices chronicle fun mark => ?_
  cases mark with
  | emitted event =>
      rfl
  | exchanged | counted | timed | logged =>
      exact ite_self none

/-- The noticed counters are those that tell of reconciles. -/
theorem Chronicle.counters_notices (chronicle : Chronicle) :
    counters (notices chronicle) =
      (counters chronicle).filter Counter.tellsOfReconciles := by
  refine filterMap_notices chronicle fun mark => ?_
  cases mark with
  | counted counter =>
      rw [Mark.counter?, Option.filter_some, Mark.isNotice]
  | exchanged | timed | logged | emitted =>
      exact ite_self none

/-- The noticed timings are those of reconciles. -/
theorem Chronicle.timings_notices (chronicle : Chronicle) :
    timings (notices chronicle) =
      (timings chronicle).filter Histogram.isOfReconciles := by
  refine filterMap_notices chronicle fun mark => ?_
  cases mark with
  | timed histogram =>
      rw [Mark.histogram?, Option.filter_some, Mark.isNotice]
  | exchanged | counted | logged | emitted =>
      exact ite_self none

/-- Unnoticed chronicles stay unnoticed when they are joined. -/
theorem unnoticed_additive : Additive Unnoticed where
  nil := rfl
  append := by
    intro first second quiet quiet'
    unfold Unnoticed at *
    rw [Chronicle.notices_append, quiet, quiet', List.nil_append]

/-- A counter of calls does not tell of reconciles. -/
theorem Counter.not_tellsOfReconciles
    {counter : Counter}
    (tells : counter.tellsOfCalls = true) :
    counter.tellsOfReconciles = false := by
  cases counter <;> first | rfl | cases tells

/-- The receipt of an exchange goes unnoticed. -/
theorem unnoticed_receipt (exchange : Exchange) :
    Unnoticed (.exchanged exchange :: exchange.receipt) := by
  rw [Unnoticed, Chronicle.notices, List.filter_eq_nil_iff]
  intro mark inside
  rcases List.mem_cons.mp inside with rfl | later
  · exact Bool.false_ne_true
  · rcases Exchange.mem_receipt later with ⟨counter, tells, rfl⟩ | ⟨operation, rfl⟩
    · simp [Mark.isNotice, Counter.not_tellsOfReconciles tells]
    · exact Bool.false_ne_true

variable {Time Result : Type}

/-- Whether an effect leaves no notice. -/
def Effect.Unnoticed (effect : Effect Time) : Prop :=
  ∀ reply, PolicyReconciler.Unnoticed (effect.marks reply)

/-- Lines and attributes go unnoticed. -/
theorem Effect.Describes.unnoticed
    {effect : Effect Time}
    (describes : effect.Describes) :
    effect.Unnoticed := by
  intro reply
  cases effect <;> first | exact describes.elim | rfl

/-- The count of a change of a resource goes unnoticed. -/
theorem Effect.unnoticed_authOperations
    (operation : AuthOperation)
    (outcome : CallOutcome) :
    (Effect.count (.authOperations operation outcome) : Effect Time).Unnoticed :=
  fun _ => rfl

variable [TimeScale Time]
variable {operator : Operator Time}

/-- What is made of requests and of effects without notices gives no notice. -/
theorem Composed.unnoticed
    {program : Program Time Result}
    (composed : program.OfRequests operator Effect.Unnoticed) :
    program.Obeys Unnoticed :=
  composed.obeys unnoticed_additive unnoticed_receipt (.inr fun _ => rfl)
    fun _ allowed => allowed.elim Effect.Describes.unnoticed id

/-! ## Runs of parts -/

namespace Program

omit [TimeScale Time]

/-- A quiet program calls nothing and ends as told. -/
theorem Quietly.leaves_inv
    {program : Program Time Result}
    {outcome reached : Except Fault Result}
    {chronicle : Chronicle}
    (quiet : program.Quietly outcome)
    (leaves : program.Leaves chronicle reached) :
    Chronicle.exchanges chronicle = [] ∧ reached = outcome :=
  (quiet (fun _ _ => True) []).of_runs leaves.runs

/-- A span leaves no mark of its own. -/
theorem Leaves.withSpan_inv
    {name kind : Json}
    {attributes : Members}
    {program : Program Time Result}
    {chronicle : Chronicle}
    {outcome : Except Fault Result}
    (leaves : (withSpan name kind attributes program).Leaves chronicle outcome) :
    program.Leaves chronicle outcome := by
  obtain ⟨_, opened, rfl, inner⟩ := leaves.perform_inv
  obtain ⟨first, reached, last, rfl, before, after⟩ := inner.followedBy_inv
  have closing : last = [] ∧ outcome = reached := by
    cases reached with
    | ok result =>
        obtain ⟨_, _, rfl, ended⟩ := after.perform_inv
        obtain ⟨rfl, rfl⟩ := ended.done_inv
        exact ⟨rfl, rfl⟩
    | error fault =>
        obtain ⟨_, _, rfl, ended⟩ := after.perform_inv
        obtain ⟨rfl, rfl⟩ := ended.done_inv
        exact ⟨rfl, rfl⟩
  obtain ⟨rfl, rfl⟩ := closing
  simpa [Effect.marks] using before

end Program

namespace VpcLattice

/--
A run of a step makes its one call, unless something keeps it from being made.
-/
theorem carriesOut_leaves
    {step : Except Fault Call}
    {program : Program Time Unit}
    {chronicle : Chronicle}
    {outcome : Except Fault Unit}
    (carries : CarriesOut operator step program)
    (leaves : program.Leaves chronicle outcome) :
    (∃ fault, step = .error fault ∧ Chronicle.exchanges chronicle = [] ∧
        outcome = .error fault) ∨
      (∃ call fault, step = .ok call ∧
        Limiter.turn operator.rates.lattice = .error fault ∧
        Chronicle.exchanges chronicle = [] ∧ outcome = .error fault) ∨
      ∃ call answer, step = .ok call ∧
        Chronicle.exchanges chronicle = [⟨call, answer⟩] ∧
          outcome = verdict call answer := by
  have meets := carries (fun _ _ => True)
    (fun after reached =>
      (∃ fault, step = .error fault ∧ after = [] ∧ reached = .error fault) ∨
      (∃ call fault, step = .ok call ∧
        Limiter.turn operator.rates.lattice = .error fault ∧
        after = [] ∧ reached = .error fault) ∨
      ∃ call answer, step = .ok call ∧ after = [⟨call, answer⟩] ∧
        reached = verdict call answer) []
    (fun fault impossible => .inl ⟨fault, impossible, rfl, rfl⟩)
    (fun call fault made halted =>
      .inr (.inl ⟨call, fault, made, halted, rfl, rfl⟩))
    (fun _ _ => trivial)
    (fun call answer made => .inr (.inr ⟨call, answer, made, rfl, rfl⟩))
  exact meets.of_runs leaves.runs

/--
Steps without notices carry out their plan, and what follows gives the only notices.
-/
theorem inSequence_leaves
    {plan : Plan}
    {programs : List (Program Time Unit)}
    {last : Program Time Result}
    {chronicle : Chronicle}
    {outcome : Except Fault Result}
    (steps : List.Forall₂ (CarriesOut operator) plan programs)
    (quiet : ∀ program ∈ programs, program.Obeys Unnoticed)
    (leaves : (inSequence programs last).Leaves chronicle outcome) :
    (∃ fault, Carried operator plan (Chronicle.exchanges chronicle) (.error fault) ∧
        Unnoticed chronicle ∧ outcome = .error fault) ∨
      ∃ first second, chronicle = first ++ second ∧
        Carried operator plan (Chronicle.exchanges first) (.ok ()) ∧
          Unnoticed first ∧
        last.Leaves second outcome := by
  induction steps generalizing chronicle with
  | nil =>
      exact .inr ⟨[], chronicle, rfl, .complete, rfl, leaves⟩
  | @cons step program rest programs carries _ inductionHypothesis =>
      obtain ⟨silent, others⟩ := List.forall_mem_cons.mp quiet
      rcases leaves.bind_inv with
        ⟨fault, failed, rfl⟩ | ⟨made, _, later, rfl, done, after⟩
      · refine .inl ⟨fault, ?_, silent _ _ failed, rfl⟩
        rcases carriesOut_leaves carries failed with
          ⟨_, rfl, none, ⟨⟩⟩ | ⟨call, _, rfl, halted, none, ⟨⟩⟩ |
            ⟨call, answer, rfl, one, refused⟩
        · rw [none]
          exact .impossible
        · rw [none]
          exact .stalled halted
        · rw [one]
          exact .failed refused.symm
      · rcases carriesOut_leaves carries done with
          ⟨_, _, _, ⟨⟩⟩ | ⟨_, _, _, _, _, ⟨⟩⟩ | ⟨call, answer, rfl, one, taken⟩
        have quietly := silent _ _ done
        rcases inductionHypothesis others after with
          ⟨fault, carried, quiet', rfl⟩ |
            ⟨first, second, rfl, carried, quiet', ended⟩
        · refine .inl ⟨fault, ?_, unnoticed_additive.append quietly quiet', rfl⟩
          rw [Chronicle.exchanges_append, one]
          exact .onward taken.symm carried
        · refine .inr ⟨made ++ first, second, by rw [List.append_assoc], ?_,
            unnoticed_additive.append quietly quiet', ended⟩
          rw [Chronicle.exchanges_append, one]
          exact .onward taken.symm carried

end VpcLattice

namespace Reconcile

variable {address : Address}
variable {policy : Policy}
variable {chronicle : Chronicle}

/-- Reading a policy goes unnoticed. -/
theorem get_leaves
    {outcome : Except Fault (Option Policy)}
    (leaves : (PolicyStore.get operator address).Leaves chronicle outcome) :
    Reading operator address readRetries (Chronicle.exchanges chronicle) outcome ∧
      Unnoticed chronicle := by
  have meets : (PolicyStore.get operator address).Meets (fun _ _ => True)
      (Reading operator address readRetries) [] :=
    get_meets (fun _ _ => trivial) fun calls result reading => reading
  exact ⟨meets.of_runs leaves.runs, (Composed.get address).unnoticed _ _ leaves⟩

/--
How a lookup ends: with an id, with the fault of a missing target, or with another
fault.
-/
theorem resolveTarget_leaves
    {kind : TargetKind}
    {outcome : Except Fault Json}
    (leaves : (resolveTarget operator (resourceKind kind) policy).Leaves
      chronicle outcome) :
    Unnoticed chronicle ∧
      ((∃ identifier, outcome = .ok identifier ∧
          TargetLookup operator kind policy (Chronicle.exchanges chronicle)
            (.ok (some identifier))) ∨
        (∃ name, outcome =
            .error (.dependencyNotFound (.str (resourceKind kind).text) name) ∧
          TargetLookup operator kind policy
            (Chronicle.exchanges chronicle) (.ok none)) ∨
        ∃ fault, outcome = .error fault ∧
          TargetLookup operator kind policy (Chronicle.exchanges chronicle)
            (.error fault)) := by
  have meets :
      (resolveTarget operator (resourceKind kind) policy).Meets (fun _ _ => True)
      (fun after reached =>
        (∃ identifier, reached = .ok identifier ∧
          TargetLookup operator kind policy after (.ok (some identifier))) ∨
        (∃ name, reached =
            .error (.dependencyNotFound (.str (resourceKind kind).text) name) ∧
          TargetLookup operator kind policy after (.ok none)) ∨
        ∃ fault, reached = .error fault ∧
          TargetLookup operator kind policy after (.error fault)) [] :=
    resolveTarget_meets (fun _ _ _ => trivial)
      (fun calls identifier lookup => .inl ⟨identifier, rfl, lookup⟩)
      (fun calls name lookup => .inr (.inl ⟨name, rfl, lookup⟩))
      (fun calls fault lookup => .inr (.inr ⟨fault, rfl, lookup⟩))
  exact ⟨(Composed.resolveTarget _ _).unnoticed _ _ leaves,
    meets.of_runs leaves.runs⟩

/-- The event for a policy whose changes have all been made. -/
def changeEvent (policy : Policy) (identifier : Json) : Event :=
  if policy.deletionRequested then
    Event.policyDeleted (.obj policy.record) identifier
  else
    Event.policyApplied (.obj policy.record) identifier

/-- How a pipeline ends, with the only notice that it may give. -/
inductive Piped (operator : Operator Time) (kind : TargetKind) (policy : Policy) :
    History → Chronicle → Except Fault Json → Prop where
  | targetMissing {lookups : History} (name : Json)
      (lookup : TargetLookup operator kind policy lookups (.ok none)) :
      Piped operator kind policy lookups []
        (.error (.dependencyNotFound (.str (resourceKind kind).text) name))
  | unresolved {lookups : History} {fault : Fault}
      (lookup : TargetLookup operator kind policy lookups (.error fault)) :
      Piped operator kind policy lookups [] (.error fault)
  | halted {lookups changes : History} {identifier : Json} {fault : Fault}
      (lookup : TargetLookup operator kind policy lookups (.ok (some identifier)))
      (change : Carried operator (plan policy identifier) changes (.error fault)) :
      Piped operator kind policy (lookups ++ changes) [] (.error fault)
  | changed {lookups changes : History} {identifier : Json}
      (lookup : TargetLookup operator kind policy lookups (.ok (some identifier)))
      (change : Carried operator (plan policy identifier) changes (.ok ())) :
      Piped operator kind policy (lookups ++ changes)
        [.emitted (changeEvent policy identifier)] (.ok identifier)

/--
Steps that carry out the plan of a policy, made after the lookup of its target.
-/
theorem lookup_inSequence_leaves
    {kind : TargetKind}
    {steps : Json → List (Program Time Unit)}
    {outcome : Except Fault Json}
    (carries : ∀ identifier,
      List.Forall₂ (CarriesOut operator) (plan policy identifier)
        (steps identifier))
    (quiet : ∀ identifier, ∀ program ∈ steps identifier, program.Obeys Unnoticed)
    (leaves :
      (resolveTarget operator (resourceKind kind) policy >>= fun identifier =>
      inSequence (steps identifier)
        (emit (changeEvent policy identifier) >>= fun _ =>
          finish identifier)).Leaves
          chronicle outcome) :
    Piped operator kind policy (Chronicle.exchanges chronicle)
      (Chronicle.notices chronicle)
      outcome := by
  rcases leaves.bind_inv with
    ⟨fault, failed, rfl⟩ | ⟨first, identifier, rest, rfl, found, after⟩
  · obtain ⟨quietly, ended⟩ := resolveTarget_leaves failed
    rw [Unnoticed] at quietly
    rw [quietly]
    rcases ended with ⟨_, ⟨⟩, _⟩ | ⟨name, ⟨⟩, lookup⟩ | ⟨fault, ⟨⟩, lookup⟩
    · exact .targetMissing name lookup
    · exact .unresolved lookup
  · obtain ⟨quietly, ended⟩ := resolveTarget_leaves found
    rw [Unnoticed] at quietly
    rw [Chronicle.exchanges_append, Chronicle.notices_append, quietly,
      List.nil_append]
    rcases ended with ⟨_, ⟨⟩, lookup⟩ | ⟨_, ⟨⟩, _⟩ | ⟨_, ⟨⟩, _⟩
    rcases inSequence_leaves (carries identifier) (quiet identifier) after with
      ⟨fault, change, quietly', rfl⟩ |
        ⟨changes, last, rfl, change, quietly', closing⟩
    · rw [Unnoticed] at quietly'
      rw [quietly']
      exact .halted lookup change
    · rw [Unnoticed] at quietly'
      obtain ⟨_, rfl, closed⟩ := (Always.emit _).bind_inv closing
      obtain ⟨rfl, rfl⟩ := closed.done_inv
      have silent :
          Chronicle.exchanges [.emitted (changeEvent policy identifier)] = [] := rfl
      rw [List.append_nil, Chronicle.exchanges_append, Chronicle.notices_append,
        quietly', silent, List.append_nil]
      exact .changed lookup change

/-- The pipeline leaves one of its courses, with what is told of it. -/
theorem runPipeline_leaves
    {kind : TargetKind}
    {outcome : Except Fault Json}
    (leaves : (runPipeline operator kind policy).Leaves chronicle outcome) :
    Piped operator kind policy (Chronicle.exchanges chronicle)
      (Chronicle.notices chronicle)
      outcome := by
  have inner := Leaves.withSpan_inv leaves
  have tallies : ∀ operation outcome,
      (Effect.count (.authOperations operation outcome) : Effect Time).Unnoticed :=
    Effect.unnoticed_authOperations
  by_cases deleting : policy.deletionRequested = true
  · have carries :
        ∀ identifier, List.Forall₂ (CarriesOut operator) (plan policy identifier)
        [deletePolicy operator identifier, disableAuth operator identifier] := by
      intro identifier
      rw [plan, if_pos deleting]
      exact .cons (deletePolicy_carriesOut identifier)
        (.cons (disableAuth_carriesOut identifier) .nil)
    rw [Pipeline.of, if_pos deleting] at inner
    apply lookup_inSequence_leaves carries
    · intro identifier
      simp only [List.forall_mem_cons, List.not_mem_nil, false_imp_iff,
        implies_true, and_true]
      exact ⟨(Composed.deletePolicy tallies identifier).unnoticed,
        (Composed.disableAuth tallies identifier).unnoticed⟩
    · simp only [changeEvent, if_pos deleting]
      exact inner
  · have carries :
        ∀ identifier, List.Forall₂ (CarriesOut operator) (plan policy identifier)
        [enableAuth operator identifier,
          putPolicy operator identifier (.str policy.document)] := by
      intro identifier
      rw [plan, if_neg deleting]
      exact .cons (enableAuth_carriesOut identifier)
        (.cons (putPolicy_carriesOut identifier (.str policy.document)) .nil)
    rw [Pipeline.of, if_neg deleting] at inner
    apply lookup_inSequence_leaves carries
    · intro identifier
      simp only [List.forall_mem_cons, List.not_mem_nil, false_imp_iff,
        implies_true, and_true]
      exact ⟨(Composed.enableAuth tallies identifier).unnoticed,
        (Composed.putPolicy tallies identifier _).unnoticed⟩
    · simp only [changeEvent, if_neg deleting]
      exact inner

/-! ## Whole reconciles -/

/-- The notices for a policy that is put off, for a reason that an event gives. -/
def requeueNotices (event : Event) (reason : RequeueReason) : Chronicle :=
  [.emitted event, .counted (.requeues recordKind reason)]

/-- The notices for a policy whose target does not exist yet. -/
def missingTargetNotices (policy : Policy) (fault : Fault) : Chronicle :=
  requeueNotices (Event.targetNotFound (.obj policy.record) (.str fault.message))
    .dependencyNotFound

/-- The notices for a policy whose target is of an unsupported kind. -/
def unsupportedNotices (policy : Policy) : Chronicle :=
  requeueNotices (Event.unsupportedTarget (.obj policy.record) policy.target.kind)
    .unsupportedTarget

/--
The notices for a fault of a pipeline: none, unless it stands for a missing target.
-/
def pipelineNotices (policy : Policy) : Fault → Chronicle
  | .dependencyNotFound resource name =>
      missingTargetNotices policy (.dependencyNotFound resource name)
  | _ => []

/--
The exchanges of a reconcile that has ended, the notices that it gave, and its
outcome.
-/
inductive Story (operator : Operator Time) (address : Address) :
    History → Chronicle → Except Fault (ReconcileResult Nat) → Prop where
  | unread {reads : History} {fault : Fault}
      (read : Reading operator address readRetries reads (.error fault)) :
      Story operator address reads [] (.error fault)
  | missing {reads : History}
      (read : Reading operator address readRetries reads (.ok none)) :
      Story operator address reads [] (.ok settled)
  | unsupported {reads : History} {policy : Policy}
      (read : Reading operator address readRetries reads (.ok (some policy)))
      (other : ∀ kind : TargetKind, policy.target.kind ≠ .str kind.text) :
      Story operator address reads (unsupportedNotices policy)
        (.ok ⟨some RequeueReason.unsupportedTarget.seconds⟩)
  | targetMissing {reads lookups : History} {policy : Policy} {kind : TargetKind}
      (fault : Fault)
      (read : Reading operator address readRetries reads (.ok (some policy)))
      (supported : policy.target.kind = .str kind.text)
      (lookup : TargetLookup operator kind policy lookups (.ok none)) :
      Story operator address (reads ++ lookups) (missingTargetNotices policy fault)
        (.ok ⟨some RequeueReason.dependencyNotFound.seconds⟩)
  | unresolved {reads lookups : History} {policy : Policy}
        {kind : TargetKind} {fault : Fault}
      (read : Reading operator address readRetries reads (.ok (some policy)))
      (supported : policy.target.kind = .str kind.text)
      (lookup : TargetLookup operator kind policy lookups (.error fault)) :
      Story operator address (reads ++ lookups) (pipelineNotices policy fault)
        (pipelineFailure fault)
  | halted {reads lookups changes : History} {policy : Policy} {kind : TargetKind}
      {identifier : Json} {fault : Fault}
      (read : Reading operator address readRetries reads (.ok (some policy)))
      (supported : policy.target.kind = .str kind.text)
      (lookup : TargetLookup operator kind policy lookups (.ok (some identifier)))
      (change : Carried operator (plan policy identifier) changes (.error fault)) :
      Story operator address (reads ++ lookups ++ changes)
        (pipelineNotices policy fault)
        (pipelineFailure fault)
  | written {reads lookups changes writes : History} {policy : Policy}
        {kind : TargetKind}
      {identifier : Json} {result : Except Fault Unit}
      (read : Reading operator address readRetries reads (.ok (some policy)))
      (supported : policy.target.kind = .str kind.text)
      (lookup : TargetLookup operator kind policy lookups (.ok (some identifier)))
      (change : Carried operator (plan policy identifier) changes (.ok ()))
      (write : WriteBack operator (settledPolicy policy identifier) writes result) :
      Story operator address (reads ++ lookups ++ changes ++ writes)
        [.emitted (changeEvent policy identifier)] (result.map fun _ => settled)

/-- Writing a policy back goes unnoticed. -/
theorem persist_leaves
    {identifier : Json}
    {outcome : Except Fault (ReconcileResult Nat)}
    (leaves : (persist operator policy identifier).Leaves chronicle outcome) :
    Unnoticed chronicle ∧ ∃ result,
      WriteBack operator (policy.annotate resourceAnnotation identifier)
        (Chronicle.exchanges chronicle) result ∧ outcome = result.map fun _ =>
          settled := by
  have meets : (persist operator policy identifier).Meets (fun _ _ => True)
      (fun after reached => ∃ result,
        WriteBack operator (policy.annotate resourceAnnotation identifier) after
          result ∧
          reached = result.map fun _ => settled) [] :=
    persist_meets trivial fun calls result write => ⟨result, write, rfl⟩
  exact ⟨(Composed.persist policy identifier).unnoticed _ _ leaves,
    meets.of_runs leaves.runs⟩

omit [TimeScale Time] in
/-- Requeuing tells an event and counts its reason. -/
theorem requeue_leaves
    {event : Event}
    {reason : RequeueReason}
    {outcome : Except Fault (ReconcileResult Nat)}
    (leaves :
      (emit event >>= fun _ => requeue reason : Program Time _).Leaves chronicle
      outcome) :
    chronicle = requeueNotices event reason := by
  obtain ⟨_, rfl, counted⟩ := (Always.emit _).bind_inv leaves
  obtain ⟨_, rfl, ended⟩ := (Always.count _).bind_inv counted
  obtain ⟨rfl, -⟩ := ended.done_inv
  rfl

/-- A line that only describes the work comes before the notices of what follows. -/
theorem described_leaves
    {line : Program Time Unit}
    {next : Program Time Result}
    {outcome : Except Fault Result}
    (operator : Operator Time)
    (composed : line.OfRequests operator Effect.Unnoticed)
    (quiet : line.Quietly (.ok ()))
    (leaves : (line >>= fun _ => next).Leaves chronicle outcome) :
    ∃ later, next.Leaves later outcome ∧
      Chronicle.exchanges chronicle = Chronicle.exchanges later ∧
      Chronicle.notices chronicle = Chronicle.notices later := by
  obtain ⟨first, reached, later, rfl, before, after⟩ := leaves.followedBy_inv
  obtain ⟨silent, rfl⟩ := quiet.leaves_inv before
  refine ⟨later, after, ?_, ?_⟩
  · rw [Chronicle.exchanges_append, silent, List.nil_append]
  · have hushed : Chronicle.notices first = [] := composed.unnoticed _ _ before
    rw [Chronicle.notices_append, hushed, List.nil_append]

/-- An unsupported target calls nothing, is told once and put off. -/
theorem deferUnsupported_leaves
    {fault : Fault}
    {outcome : Except Fault (ReconcileResult Nat)}
    (operator : Operator Time)
    (leaves :
      (deferUnsupported operator.redaction policy fault : Program Time _).Leaves
        chronicle outcome) :
    Chronicle.exchanges chronicle = [] ∧
      Chronicle.notices chronicle = unsupportedNotices policy ∧
      outcome = .ok ⟨some RequeueReason.unsupportedTarget.seconds⟩ := by
  obtain ⟨silent, ended⟩ :=
    (deferUnsupported_quietly _ policy fault).leaves_inv leaves
  have quiet : ((noteOn policy "unsupported targetRef" "UnsupportedTarget" none
      [("kind", policy.target.kind)]).report operator.redaction
        (.str recordKind) (some fault) :
        Program Time Unit).Quietly (.ok ()) :=
    HandlerNote.report_quietly operator.redaction (.str recordKind)
      fault rfl rfl rfl
      (by
        simp [noteOn, HandlerNote.lineNames, LogEntry.reservedNames,
          LogEntry.fieldNames])
  obtain ⟨later, after, _, notices⟩ :=
    described_leaves operator
      (.report _ (by simp [noteOn, spanKeys]) (.same fault)) quiet leaves
  obtain rfl := requeue_leaves after
  exact ⟨silent, notices, ended⟩

/-- A missing target calls nothing more, is told once and put off. -/
theorem deferMissingTarget_leaves
    {fault : Fault}
    {outcome : Except Fault (ReconcileResult Nat)}
    (operator : Operator Time)
    (leaves :
      (deferMissingTarget policy fault : Program Time _).Leaves chronicle outcome) :
    Chronicle.exchanges chronicle = [] ∧
      Chronicle.notices chronicle = missingTargetNotices policy fault ∧
      outcome = .ok ⟨some RequeueReason.dependencyNotFound.seconds⟩ := by
  obtain ⟨silent, ended⟩ :=
    (deferMissingTarget_quietly policy fault).leaves_inv leaves
  have quiet :
      ((noteOn policy ("reconcile error, retry in 30sec: " ++ fault.message)
      "DependencyNotFound" none [("target_ref", policy.target.logged)]).inform
        (.str recordKind) : Program Time Unit).Quietly (.ok ()) :=
    noteOn_inform_quietly policy _ _ _ _ rfl
      (by simp [HandlerNote.lineNames, LogEntry.reservedNames, LogEntry.fieldNames])
  obtain ⟨later, after, _, notices⟩ :=
    described_leaves operator (.inform _ (by simp [noteOn, spanKeys])) quiet leaves
  obtain rfl := requeue_leaves after
  exact ⟨silent, notices, ended⟩

/--
A pipeline that fails gives the notices and the outcome that its fault calls for.
-/
theorem pipelineFailure_leaves
    {fault : Fault}
    {outcome : Except Fault (ReconcileResult Nat)}
    (operator : Operator Time)
    (leaves : (match fault with
      | .dependencyNotFound .. => deferMissingTarget policy fault
      | _ =>
          fail fault :
            Program Time (ReconcileResult Nat)).Leaves chronicle outcome) :
    Chronicle.exchanges chronicle = [] ∧
      Chronicle.notices chronicle = pipelineNotices policy fault ∧
      outcome = pipelineFailure fault := by
  cases fault with
  | dependencyNotFound =>
      exact deferMissingTarget_leaves operator leaves
  | _ =>
      obtain ⟨rfl, rfl⟩ := leaves.done_inv
      exact ⟨rfl, rfl, rfl⟩

/-- The gate changes nothing that the pipeline looks at. -/
theorem Piped.of_gate
    {kind : TargetKind}
    {history : History}
    {notices : Chronicle}
    {outcome : Except Fault Json}
    (piped : Piped operator kind policy.gate history notices outcome) :
    Piped operator kind policy history notices outcome := by
  have events : changeEvent policy.gate = changeEvent policy := by
    funext identifier
    simp only [changeEvent, gate_deletionRequested, gate_record]
  have lookups : TargetLookup operator kind policy.gate =
      TargetLookup operator kind policy := by
    unfold TargetLookup
    rw [gate_target, gate_recordNamespace]
  cases piped with
  | targetMissing name lookup =>
      rw [lookups] at lookup
      exact .targetMissing name lookup
  | unresolved lookup =>
      rw [lookups] at lookup
      exact .unresolved lookup
  | halted lookup change =>
      rw [lookups] at lookup
      rw [plan_gate] at change
      exact .halted lookup change
  | changed lookup change =>
      rw [lookups] at lookup
      rw [plan_gate] at change
      rw [events]
      exact .changed lookup change

/-- What a reconcile of a supported policy tells after its record was read. -/
theorem reconcileSupported_leaves
    {reads : History}
    {kind : TargetKind}
    {outcome : Except Fault (ReconcileResult Nat)}
    (read : Reading operator address readRetries reads (.ok (some policy)))
    (supported : policy.target.kind = .str kind.text)
    (leaves :
      (reconcileSupported operator kind policy.gate).Leaves chronicle outcome) :
    Story operator address (reads ++ Chronicle.exchanges chronicle)
      (Chronicle.notices chronicle) outcome := by
  obtain ⟨first, reached, last, rfl, before, after⟩ := leaves.followedBy_inv
  have piped := (runPipeline_leaves before).of_gate
  have putOff : ∀ fault, missingTargetNotices policy.gate fault =
      missingTargetNotices policy fault := by
    intro fault
    simp only [missingTargetNotices, gate_record]
  have failing : ∀ fault, pipelineNotices policy.gate fault =
      pipelineNotices policy fault := by
    intro fault
    cases fault <;> simp only [pipelineNotices, putOff]
  rw [Chronicle.exchanges_append, Chronicle.notices_append]
  generalize Chronicle.exchanges first = exchanged at piped ⊢
  generalize Chronicle.notices first = noticed at piped ⊢
  cases piped with
  | targetMissing name lookup =>
      obtain ⟨silent, notices, rfl⟩ := deferMissingTarget_leaves operator after
      rw [silent, notices, putOff, List.append_nil, List.nil_append]
      exact .targetMissing _ read supported lookup
  | unresolved lookup =>
      obtain ⟨silent, notices, rfl⟩ := pipelineFailure_leaves operator after
      rw [silent, notices, failing, List.append_nil, List.nil_append]
      exact .unresolved read supported lookup
  | halted lookup change =>
      obtain ⟨silent, notices, rfl⟩ := pipelineFailure_leaves operator after
      rw [silent, notices, failing, List.append_nil, List.nil_append,
        ← List.append_assoc]
      exact .halted read supported lookup change
  | changed lookup change =>
      obtain ⟨quietly, result, write, rfl⟩ := persist_leaves after
      rw [Unnoticed] at quietly
      rw [quietly, List.append_nil, ← List.append_assoc, ← List.append_assoc]
      exact .written read supported lookup change write

/-- Every reconcile tells one of the stories. -/
theorem reconcile_leaves
    {outcome : Except Fault (ReconcileResult Nat)}
    (leaves : (reconcile operator address).Leaves chronicle outcome) :
    Story operator address (Chronicle.exchanges chronicle)
      (Chronicle.notices chronicle)
      outcome := by
  rcases leaves.bind_inv with
    ⟨fault, failed, rfl⟩ | ⟨first, found, rest, rfl, got, after⟩
  · obtain ⟨read, quietly⟩ := get_leaves failed
    rw [Unnoticed] at quietly
    rw [quietly]
    exact .unread read
  obtain ⟨read, quietly⟩ := get_leaves got
  rw [Unnoticed] at quietly
  rw [Chronicle.exchanges_append, Chronicle.notices_append, quietly,
    List.nil_append]
  cases found with
  | none =>
      obtain ⟨silent, rfl⟩ := (noteMissing_quietly address).leaves_inv after
      have unnoticed : Chronicle.notices rest = [] := by
        have composed : (noteMissing address).OfRequests operator
            Effect.Unnoticed :=
          .bind (.inform _ (by simp)) fun _ => .ended _
        exact composed.unnoticed _ _ after
      rw [silent, unnoticed, List.append_nil]
      exact .missing read
  | some policy =>
      have quiet : ((noteOn policy "reconcile" "Reconcile" (some "reconcile")
          [("target_ref", policy.target.logged)]).inform (.str recordKind) :
            Program Time Unit).Quietly (.ok ()) :=
        noteOn_inform_quietly policy _ _ _ _ rfl
          (by
            simp [HandlerNote.lineNames, LogEntry.reservedNames,
              LogEntry.fieldNames])
      obtain ⟨later, work, exchanged, noticed⟩ :=
        described_leaves operator
          (.inform _ (by simp [noteOn, spanKeys])) quiet after
      rw [exchanged, noticed]
      cases named : TargetKind.ofJson policy.target.kind with
      | error fault =>
          rw [named] at work
          obtain ⟨silent, notices, rfl⟩ := deferUnsupported_leaves operator work
          rw [silent, notices, List.append_nil]
          have same :
              unsupportedNotices policy.gate = unsupportedNotices policy := by
            simp [unsupportedNotices]
          rw [same]
          exact .unsupported read (ne_text_of_ofJson_error named)
      | ok kind =>
          rw [named] at work
          exact reconcileSupported_leaves read (eq_text_of_ofJson_ok named) work

end Reconcile

end PolicyReconciler

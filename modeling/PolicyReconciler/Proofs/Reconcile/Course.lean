import PolicyReconciler.Proofs.VpcLattice.Change
import PolicyReconciler.Proofs.PolicyStore
import PolicyReconciler.Reconcile.Dispatch

namespace PolicyReconciler.Reconcile

/-!
# The course of a reconcile

A reconcile reads its record, looks up the target, changes the resource and
writes the record back, and stops where one of these fails.  `Course` lists the
ways in which it can come to an end, each with all its exchanges and its
outcome.  `Underway` says which call may come next while it has not ended.
-/

open Program VpcLattice PolicyStore

variable {Time : Type} [TimeScale Time]

/-- The changes that a policy calls for on the resource of its target. -/
def plan (policy : Policy) (identifier : Json) : Plan :=
  if policy.deletionRequested then
    detachment identifier
  else
    attachment identifier (.str policy.document)

/-- A policy as it is written back after its changes. -/
def settledPolicy (policy : Policy) (identifier : Json) : Policy :=
  policy.gate.annotate resourceAnnotation identifier

/-- What resolving the target of a policy exchanges and finds. -/
abbrev TargetLookup
    (operator : Operator Time)
    (kind : TargetKind)
    (policy : Policy) :
    History → Except Fault (Option Json) → Prop :=
  Resolution operator (resourceKind kind) policy.target policy.recordNamespace

/--
The outcome of a reconcile whose pipeline fails.  The fault leaves it unchanged,
unless it is the one that stands for a target which does not exist yet.
-/
def pipelineFailure : Fault → Except Fault (ReconcileResult Nat)
  | .dependencyNotFound .. => .ok ⟨some RequeueReason.dependencyNotFound.seconds⟩
  | fault => .error fault

/-- The exchanges of a reconcile that has ended, and its outcome. -/
inductive Course (operator : Operator Time) (address : Address) :
    History → Except Fault (ReconcileResult Nat) → Prop where
  | unread {reads : History} {fault : Fault}
      (read : Reading operator address readRetries reads (.error fault)) :
      Course operator address reads (.error fault)
  | missing {reads : History}
      (read : Reading operator address readRetries reads (.ok none)) :
      Course operator address reads (.ok settled)
  | unsupported {reads : History} {policy : Policy}
      (read : Reading operator address readRetries reads (.ok (some policy)))
      (other : ∀ kind : TargetKind, policy.target.kind ≠ .str kind.text) :
      Course operator address reads
        (.ok ⟨some RequeueReason.unsupportedTarget.seconds⟩)
  | targetMissing {reads lookups : History} {policy : Policy} {kind : TargetKind}
      (read : Reading operator address readRetries reads (.ok (some policy)))
      (supported : policy.target.kind = .str kind.text)
      (lookup : TargetLookup operator kind policy lookups (.ok none)) :
      Course operator address (reads ++ lookups)
        (.ok ⟨some RequeueReason.dependencyNotFound.seconds⟩)
  | unresolved {reads lookups : History} {policy : Policy}
        {kind : TargetKind} {fault : Fault}
      (read : Reading operator address readRetries reads (.ok (some policy)))
      (supported : policy.target.kind = .str kind.text)
      (lookup : TargetLookup operator kind policy lookups (.error fault)) :
      Course operator address (reads ++ lookups) (pipelineFailure fault)
  | halted {reads lookups changes : History} {policy : Policy} {kind : TargetKind}
      {identifier : Json} {fault : Fault}
      (read : Reading operator address readRetries reads (.ok (some policy)))
      (supported : policy.target.kind = .str kind.text)
      (lookup : TargetLookup operator kind policy lookups (.ok (some identifier)))
      (change : Carried operator (plan policy identifier) changes (.error fault)) :
      Course operator address (reads ++ lookups ++ changes) (pipelineFailure fault)
  | written {reads lookups changes writes : History} {policy : Policy}
        {kind : TargetKind}
      {identifier : Json} {result : Except Fault Unit}
      (read : Reading operator address readRetries reads (.ok (some policy)))
      (supported : policy.target.kind = .str kind.text)
      (lookup : TargetLookup operator kind policy lookups (.ok (some identifier)))
      (change : Carried operator (plan policy identifier) changes (.ok ()))
      (write : WriteBack operator (settledPolicy policy identifier) writes result) :
      Course operator address (reads ++ lookups ++ changes ++ writes)
        (result.map fun _ => settled)

/-- The call that a reconcile may make after the exchanges it has made. -/
inductive Underway (operator : Operator Time) (address : Address) :
    History → Call → Prop where
  | reading {reads : History}
      (reading : ∀ exchange ∈ reads, exchange.call = readCall operator address) :
      Underway operator address reads (readCall operator address)
  | listing {reads lookups : History} {policy : Policy} {kind : TargetKind}
      (token : Option Json)
      (read : Reading operator address readRetries reads (.ok (some policy)))
      (supported : policy.target.kind = .str kind.text)
      (lists : ∀ exchange ∈ lookups, Lists (resourceKind kind) exchange.call) :
      Underway operator address (reads ++ lookups)
        (.listPage (resourceKind kind) token)
  | changing {reads lookups changes : History} {policy : Policy} {kind : TargetKind}
      {identifier : Json} {made rest : Plan} {call : Call}
      (read : Reading operator address readRetries reads (.ok (some policy)))
      (supported : policy.target.kind = .str kind.text)
      (lookup : TargetLookup operator kind policy lookups (.ok (some identifier)))
      (planned : plan policy identifier = made ++ .ok call :: rest)
      (change : Carried operator made changes (.ok ())) :
      Underway operator address (reads ++ lookups ++ changes) call
  | writing {reads lookups changes : History} {policy : Policy} {kind : TargetKind}
      {identifier : Json}
      (read : Reading operator address readRetries reads (.ok (some policy)))
      (supported : policy.target.kind = .str kind.text)
      (lookup : TargetLookup operator kind policy lookups (.ok (some identifier)))
      (change : Carried operator (plan policy identifier) changes (.ok ())) :
      Underway operator address (reads ++ lookups ++ changes)
        (writeCall operator (settledPolicy policy identifier))

/-! ## Policies behind the gate -/

section Gate

variable (policy : Policy)

@[simp] theorem gate_name : policy.gate.name = policy.name := by
  unfold Policy.gate Policy.addFinalizer
  split_ifs <;> rfl

@[simp] theorem gate_recordNamespace :
    policy.gate.recordNamespace = policy.recordNamespace := by
  unfold Policy.gate Policy.addFinalizer
  split_ifs <;> rfl

@[simp] theorem gate_target : policy.gate.target = policy.target := by
  unfold Policy.gate Policy.addFinalizer
  split_ifs <;> rfl

@[simp] theorem gate_document : policy.gate.document = policy.document := by
  unfold Policy.gate Policy.addFinalizer
  split_ifs <;> rfl

@[simp] theorem gate_deletionRequested :
    policy.gate.deletionRequested = policy.deletionRequested := by
  unfold Policy.gate Policy.addFinalizer
  split_ifs <;> rfl

@[simp] theorem gate_annotations :
    policy.gate.annotations = policy.annotations := by
  unfold Policy.gate Policy.addFinalizer
  split_ifs <;> rfl

@[simp] theorem gate_version : policy.gate.version = policy.version := by
  unfold Policy.gate Policy.addFinalizer
  split_ifs <;> rfl

@[simp] theorem gate_record : policy.gate.record = policy.record := by
  unfold Policy.gate Policy.addFinalizer
  split_ifs <;> rfl

/-- The gate leaves the plan as it is. -/
theorem plan_gate
    (identifier : Json) :
    plan policy.gate identifier = plan policy identifier := by
  simp only [plan, gate_deletionRequested, gate_document]

end Gate

/-! ## Kinds of targets -/

/-- A value that names a kind is the written form of that kind. -/
theorem eq_text_of_ofJson_ok
    {value : Json}
    {kind : TargetKind}
    (named : TargetKind.ofJson value = .ok kind) :
    value = .str kind.text := by
  cases value with
  | str text =>
      unfold TargetKind.ofJson at named
      cases found : TargetKind.ofText? text with
      | none =>
          simp only [found] at named
          cases named
      | some kind' =>
          simp only [found] at named
          cases named
          have same := List.find?_some found
          rw [beq_iff_eq] at same
          rw [same]
  | null | bool | int | float | arr | obj =>
      cases named

/-- What names no kind is the name of none. -/
theorem ne_text_of_ofJson_error
    {value : Json}
    {fault : Fault}
    (unnamed : TargetKind.ofJson value = .error fault)
    (kind : TargetKind) :
    value ≠ .str kind.text := by
  rintro rfl
  simp only [TargetKind.ofJson, TargetKind.ofText?_text] at unnamed
  cases unnamed

/-- A name names one kind. -/
theorem eq_of_text
    {value : Json}
    {first second : TargetKind}
    (isFirst : value = .str first.text)
    (isSecond : value = .str second.text) :
    first = second := by
  rw [isFirst] at isSecond
  injection isSecond with same
  have read := TargetKind.ofText?_text first
  rw [same, TargetKind.ofText?_text] at read
  injection read with read
  exact read.symm

/-! ## Pipelines -/

variable {operator : Operator Time}
variable {permits : History → Call → Prop}
variable {past : History}

/-- What a lookup of a target can come to. -/
theorem resolveTarget_meets
    {kind : ResourceKind}
    {policy : Policy}
    {ends : History → Except Fault Json → Prop}
    (permitted : ∀ calls token, (∀ exchange ∈ calls, Lists kind exchange.call) →
      permits (past ++ calls) (.listPage kind token))
    (found : ∀ calls identifier,
      Resolution operator kind policy.target policy.recordNamespace calls
        (.ok (some identifier)) →
      ends (past ++ calls) (.ok identifier))
    (missing : ∀ calls name,
      Resolution operator kind policy.target policy.recordNamespace
        calls (.ok none) →
      ends (past ++ calls) (.error (.dependencyNotFound (.str kind.text) name)))
    (failed : ∀ calls fault,
      Resolution operator kind policy.target policy.recordNamespace calls
        (.error fault) →
      ends (past ++ calls) (.error fault)) :
    (resolveTarget operator kind policy).Meets permits ends past := by
  apply Meets.withSpan
  apply Meets.followedBy
  apply resolve_meets permitted
  · intro calls identifier lookup
    exact (Quietly.annotateSpan _ _).meets_bind
      ((Quietly.finish identifier).meets (found calls identifier lookup))
  · intro calls name lookup
    exact (Quietly.fail _).meets (missing calls name lookup)
  · intro calls fault lookup
    exact (Quietly.fail fault).meets (failed calls fault lookup)

/--
Steps that carry out the plan of a policy, made after the lookup of its target.
-/
theorem lookup_inSequence_meets
    {kind : TargetKind}
    {policy : Policy}
    {steps : Json → List (Program Time Unit)}
    {last : Json → Program Time Json}
    {ends : History → Except Fault Json → Prop}
    (carries : ∀ identifier,
      List.Forall₂ (CarriesOut operator) (plan policy identifier)
        (steps identifier))
    (closing : ∀ identifier, (last identifier).Quietly (.ok identifier))
    (listing : ∀ lookups token,
      (∀ exchange ∈ lookups, Lists (resourceKind kind) exchange.call) →
      permits (past ++ lookups) (.listPage (resourceKind kind) token))
    (changing : ∀ lookups identifier made call rest changes,
      TargetLookup operator kind policy lookups (.ok (some identifier)) →
      plan policy identifier = made ++ .ok call :: rest →
      Carried operator made changes (.ok ()) →
      permits (past ++ lookups ++ changes) call)
    (missing : ∀ lookups name,
      TargetLookup operator kind policy lookups (.ok none) →
      ends (past ++ lookups)
        (.error (.dependencyNotFound (.str (resourceKind kind).text) name)))
    (unresolved : ∀ lookups fault,
      TargetLookup operator kind policy lookups (.error fault) →
      ends (past ++ lookups) (.error fault))
    (changed : ∀ lookups identifier changes outcome,
      TargetLookup operator kind policy lookups (.ok (some identifier)) →
      Carried operator (plan policy identifier) changes outcome →
      ends (past ++ lookups ++ changes) (outcome.map fun _ => identifier)) :
    (resolveTarget operator (resourceKind kind) policy >>= fun identifier =>
      inSequence (steps identifier) (last identifier)).Meets permits ends past := by
  apply Meets.followedBy
  apply resolveTarget_meets listing
  · intro lookups identifier lookup
    apply inSequence_meets (carries identifier) (closing identifier)
    · intro made call rest changes planned
      exact changing lookups identifier made call rest changes lookup planned
    · intro changes outcome carried
      exact changed lookups identifier changes outcome lookup carried
  · intro lookups name lookup
    exact (Quietly.fail _).meets (missing lookups name lookup)
  · intro lookups fault lookup
    exact (Quietly.fail fault).meets (unresolved lookups fault lookup)

/-- Running a pipeline meets what all its lookups and changes agree with. -/
theorem runPipeline_meets
    {kind : TargetKind}
    {policy : Policy}
    {ends : History → Except Fault Json → Prop}
    (listing : ∀ lookups token,
      (∀ exchange ∈ lookups, Lists (resourceKind kind) exchange.call) →
      permits (past ++ lookups) (.listPage (resourceKind kind) token))
    (changing : ∀ lookups identifier made call rest changes,
      TargetLookup operator kind policy lookups (.ok (some identifier)) →
      plan policy identifier = made ++ .ok call :: rest →
      Carried operator made changes (.ok ()) →
      permits (past ++ lookups ++ changes) call)
    (missing : ∀ lookups name,
      TargetLookup operator kind policy lookups (.ok none) →
      ends (past ++ lookups)
        (.error (.dependencyNotFound (.str (resourceKind kind).text) name)))
    (unresolved : ∀ lookups fault,
      TargetLookup operator kind policy lookups (.error fault) →
      ends (past ++ lookups) (.error fault))
    (changed : ∀ lookups identifier changes outcome,
      TargetLookup operator kind policy lookups (.ok (some identifier)) →
      Carried operator (plan policy identifier) changes outcome →
      ends (past ++ lookups ++ changes) (outcome.map fun _ => identifier)) :
    (runPipeline operator kind policy).Meets permits ends past := by
  apply Meets.withSpan
  by_cases deleting : policy.deletionRequested = true
  · have carries :
        ∀ identifier, List.Forall₂ (CarriesOut operator) (plan policy identifier)
        [deletePolicy operator identifier, disableAuth operator identifier] := by
      intro identifier
      rw [plan, if_pos deleting]
      exact .cons (deletePolicy_carriesOut identifier)
        (.cons (disableAuth_carriesOut identifier) .nil)
    rw [Pipeline.of, if_pos deleting]
    exact lookup_inSequence_meets carries
      (fun identifier => (Quietly.emit _).bind (Quietly.finish identifier))
      listing changing missing unresolved changed
  · have carries :
        ∀ identifier, List.Forall₂ (CarriesOut operator) (plan policy identifier)
        [enableAuth operator identifier,
          putPolicy operator identifier (.str policy.document)] := by
      intro identifier
      rw [plan, if_neg deleting]
      exact .cons (enableAuth_carriesOut identifier)
        (.cons (putPolicy_carriesOut identifier (.str policy.document)) .nil)
    rw [Pipeline.of, if_neg deleting]
    exact lookup_inSequence_meets carries
      (fun identifier => (Quietly.emit _).bind (Quietly.finish identifier))
      listing changing missing unresolved changed

/-! ## Notes -/

omit [TimeScale Time] in
/-- A line about a policy is quiet. -/
theorem noteOn_inform_quietly
    (policy : Policy)
    (message reason : String)
    (event : Option String)
    (extra : Members)
    (unreserved : (noteOn policy message reason event extra).clashes = false)
    (distinct : ∀ field ∈ extra, field.1 ∉ HandlerNote.lineNames) :
    ((noteOn policy message reason event extra).inform (.str recordKind) :
      Program Time Unit).Quietly (.ok ()) :=
  HandlerNote.inform_quietly (.str recordKind) rfl unreserved distinct

omit [TimeScale Time] in
/-- The line about a missing record is quiet. -/
theorem noteMissing_quietly (address : Address) :
    (noteMissing address : Program Time (ReconcileResult Nat)).Quietly
      (.ok settled) := by
  exact Quietly.bind
    (HandlerNote.inform_quietly (.str recordKind) (by rfl) rfl (by simp))
    (Quietly.finish settled)

omit [TimeScale Time] in
/-- Putting off an unsupported target is quiet. -/
theorem deferUnsupported_quietly
    (order : Redaction.FieldOrder)
    (policy : Policy)
    (fault : Fault) :
    (deferUnsupported order policy fault :
      Program Time (ReconcileResult Nat)).Quietly
      (.ok ⟨some RequeueReason.unsupportedTarget.seconds⟩) := by
  refine Quietly.bind
    (HandlerNote.report_quietly order (.str recordKind) fault rfl rfl rfl ?_) ?_
  · simp [noteOn, HandlerNote.lineNames, LogEntry.reservedNames,
      LogEntry.fieldNames]
  · exact (Quietly.emit _).bind ((Quietly.count _).bind (Quietly.finish _))

omit [TimeScale Time] in
/-- Putting off a missing target is quiet. -/
theorem deferMissingTarget_quietly (policy : Policy) (fault : Fault) :
    (deferMissingTarget policy fault : Program Time (ReconcileResult Nat)).Quietly
      (.ok ⟨some RequeueReason.dependencyNotFound.seconds⟩) := by
  refine Quietly.bind (noteOn_inform_quietly policy _ _ _ _ rfl ?_) ?_
  · simp [HandlerNote.lineNames, LogEntry.reservedNames, LogEntry.fieldNames]
  · exact (Quietly.emit _).bind ((Quietly.count _).bind (Quietly.finish _))

/-! ## Whole reconciles -/

/-- What writing a policy back can come to. -/
theorem persist_meets
    {policy : Policy}
    {identifier : Json}
    {ends : History → Except Fault (ReconcileResult Nat) → Prop}
    (permitted : permits past
      (writeCall operator (policy.annotate resourceAnnotation identifier)))
    (ended : ∀ calls result,
      WriteBack operator (policy.annotate resourceAnnotation identifier) calls
        result →
      ends (past ++ calls) (result.map fun _ => settled)) :
    (persist operator policy identifier).Meets permits ends past := by
  apply Meets.followedBy
  apply update_meets permitted
  · intro answer
    refine Quietly.meets_bind (noteOn_inform_quietly policy _ _ _ _ rfl ?_) ?_
    · simp [HandlerNote.lineNames, LogEntry.reservedNames, LogEntry.fieldNames]
    · exact (Quietly.finish settled).meets (ended _ _ (.answered (.ok answer)))
  · exact fun calls fault write => (Quietly.fail fault).meets (ended calls _ write)

omit [TimeScale Time] in
/-- A pipeline that fails ends the reconcile as its fault calls for. -/
theorem pipelineFailure_meets
    {policy : Policy}
    {ends : History → Except Fault (ReconcileResult Nat) → Prop}
    (fault : Fault) :
    ends past (pipelineFailure fault) →
    (match fault with
      | .dependencyNotFound .. => deferMissingTarget policy fault
      | _ =>
          fail fault :
            Program Time (ReconcileResult Nat)).Meets permits ends past := by
  intro ended
  cases fault with
  | dependencyNotFound =>
      exact (deferMissingTarget_quietly policy _).meets ended
  | _ =>
      exact (Quietly.fail _).meets ended

/--
Every call of a reconcile is underway on one of its courses, and each end is one.
-/
theorem reconcile_meets (operator : Operator Time) (address : Address) :
    (reconcile operator address).Meets (Underway operator address)
      (Course operator address) [] := by
  apply Meets.followedBy
  apply get_meets
  · exact fun reads reading => .reading reading
  intro reads result read
  rw [List.nil_append]
  -- one course for each way to leave; what is left without a call is quiet
  match result with
  | .error fault =>
      exact (Quietly.fail fault).meets (.unread read)
  | .ok none =>
      exact (noteMissing_quietly address).meets (.missing read)
  | .ok (some policy) =>
      refine Quietly.meets_bind (noteOn_inform_quietly policy _ _ _ _ rfl ?_) ?_
      · simp [HandlerNote.lineNames, LogEntry.reservedNames, LogEntry.fieldNames]
      cases named : TargetKind.ofJson policy.target.kind with
      | error fault =>
          exact (deferUnsupported_quietly operator.redaction
            policy.gate fault).meets
            (.unsupported read (ne_text_of_ofJson_error named))
      | ok kind =>
          have supported := eq_text_of_ofJson_ok named
          apply Meets.followedBy
          apply runPipeline_meets
          · exact fun lookups token lists => .listing token read supported lists
          · intro lookups identifier made call rest changes lookup planned carried
            rw [plan_gate] at planned
            rw [TargetLookup, gate_target, gate_recordNamespace] at lookup
            exact .changing read supported lookup planned carried
          · intro lookups name lookup
            rw [TargetLookup, gate_target, gate_recordNamespace] at lookup
            exact (deferMissingTarget_quietly _ _).meets
              (.targetMissing read supported lookup)
          · intro lookups fault lookup
            rw [TargetLookup, gate_target, gate_recordNamespace] at lookup
            exact pipelineFailure_meets fault
              (Course.unresolved read supported lookup)
          · intro lookups identifier changes outcome lookup carried
            rw [plan_gate] at carried
            rw [TargetLookup, gate_target, gate_recordNamespace] at lookup
            cases outcome with
            | error fault =>
                exact pipelineFailure_meets fault
                  (Course.halted read supported lookup carried)
            | ok _ =>
                apply persist_meets
                · exact .writing read supported lookup carried
                · exact fun writes result write =>
                    .written read supported lookup carried write

end PolicyReconciler.Reconcile

import PolicyReconciler.Proofs.Accounting.Calls
import PolicyReconciler.Proofs.Accounting.Events
import PolicyReconciler.Proofs.Reconcile.Stages
import PolicyReconciler.Reconcile.Run

namespace PolicyReconciler.Reconcile

/-!
# Accounting for runs

A run announces itself, does the work of a reconcile, and is counted under exactly
one outcome.  Over any sequence of runs the counters, the durations and the events
therefore agree: each run that was started has succeeded, was requeued for a reason,
or has failed with a fault that was counted and reported.
-/

open Program PolicyStore

variable {Time : Type} [TimeScale Time]
variable {operator : Operator Time}

/-! ## The notices of a run -/

/-- A run for a record, what others saw of it, and how it ended. -/
structure Run where
  correlation : Json
  record : Json
  address : Address
  chronicle : Chronicle
  outcome : Except Fault Unit

namespace Run

/--
The delivery's program went through the run's chronicle and ended as the run did.
-/
def Performed (operator : Operator Time) (run : Run) : Prop :=
  (runReconcile operator run.correlation run.record run.address).Leaves
    run.chronicle
    run.outcome

/-- Whether the metadata of the record of a run is an object or absent. -/
def Fit (run : Run) : Prop :=
  ∃ members metadata, run.record.tableMembers = .ok members ∧
    Members.getD members "metadata" (.obj []) = .obj metadata

end Run

/-- The notices with which a run begins. -/
def opening (record : Json) : Chronicle :=
  [.emitted (Event.reconcileStarted record),
    .counted (.reconciles recordKind .started)]

/--
The notices of a run that has failed: its fault, the event that reports it, its
outcome.
-/
def failing
    (order : Redaction.FieldOrder)
    (record : Json)
    (fault : Fault) :
    Chronicle :=
  [.counted (.faults recordKind fault.kind),
    .emitted (Event.reconcileFailed record
      (.str ("Reconciliation failed: " ++ fault.redactedMessage order))),
    .counted (.reconciles recordKind .error)]

/-- The notices of a run whose work has ended. -/
def closing
    (order : Redaction.FieldOrder)
    (record : Json) :
    Except Fault Unit → Chronicle
  | .ok _ => [.counted (.reconciles recordKind .success)]
  | .error (.temporary ..) => [.counted (.reconciles recordKind .requeued)]
  | .error fault => failing order record fault

/-- The outcome of a run after its reconcile. -/
def requeued (address : Address) (result : Except Fault (ReconcileResult Nat)) :
    Except Fault Unit :=
  result.bind fun result =>
    match result.requeueAfter with
    | some seconds => .error (requeueFault address seconds)
    | none => .ok ()

variable {order : Redaction.FieldOrder}
variable {chronicle : Chronicle}

omit [TimeScale Time] in
/-- The correlation leaves no mark of its own. -/
theorem withCorrelation_leaves
    {Result : Type}
    {correlation : Json}
    {program : Program Time Result}
    {outcome : Except Fault Result}
    (leaves : (withCorrelation correlation program).Leaves chronicle outcome) :
    program.Leaves chronicle outcome := by
  obtain ⟨_, inner, rfl, entered⟩ := leaves.perform_inv
  have leaving :
      (perform .leaveCorrelation finish : Program Time Unit).Always [] (.ok ()) :=
    .effect (fun _ => rfl) fun _ => rfl
  obtain ⟨first, rfl, before⟩ := entered.ensuring_inv leaving
  simpa [Effect.marks] using before

/--
A reconcile that is requeued leaves what the reconcile left, and may end in a
fault.
-/
theorem reconcileOrRequeue_leaves
    {address : Address}
    {outcome : Except Fault Unit}
    (leaves : (reconcileOrRequeue operator address).Leaves chronicle outcome) :
    ∃ result, (reconcile operator address).Leaves chronicle result ∧
      outcome = requeued address result := by
  rcases leaves.bind_inv with
    ⟨fault, failed, rfl⟩ | ⟨first, result, last, rfl, before, after⟩
  · exact ⟨.error fault, failed, rfl⟩
  · have ended : last = [] ∧ outcome = requeued address (.ok result) := by
      obtain ⟨requeueAfter⟩ := result
      cases requeueAfter <;> exact Leaves.done_inv after
    obtain ⟨rfl, rfl⟩ := ended
    exact ⟨.ok result, by rwa [List.append_nil], rfl⟩

/-- Reporting a failure calls nothing and tells of it. -/
theorem reportFailure_leaves
    {record : Json}
    {metadata : Members}
    {fault : Fault}
    {outcome : Except Fault Unit}
    (operator : Operator Time)
    (leaves :
      (reportFailure operator.redaction (.str recordKind) record
        (.obj metadata) fault :
      Program Time Unit).Leaves chronicle outcome) :
    Chronicle.exchanges chronicle = [] ∧
      Chronicle.notices chronicle = failing operator.redaction record fault ∧
      outcome = .ok () := by
  obtain ⟨_, rfl, reported⟩ := (Always.count _).bind_inv leaves
  obtain ⟨later, after, exchanged, noticed⟩ := described_leaves operator
    (.report _ (by simp) (.same fault))
    (HandlerNote.report_quietly operator.redaction (.str recordKind) fault rfl rfl
      rfl (by simp)) reported
  obtain ⟨_, rfl, counted⟩ := (Always.emit _).bind_inv after
  obtain ⟨rfl, rfl⟩ := Always.count _ _ _ counted
  refine ⟨?_, ?_, rfl⟩
  · rw [Chronicle.exchanges_append, exchanged]
    rfl
  · rw [Chronicle.notices_append, noticed]
    rfl

/--
What follows the reconcile calls nothing, tells how it went and keeps the outcome.
-/
theorem afterWork_leaves
    {record : Json}
    {metadata : Members}
    {reached outcome : Except Fault Unit}
    (operator : Operator Time)
    (leaves :
      (afterWork operator.redaction (.str recordKind) record
        (.obj metadata) reached :
      Program Time Unit).Leaves chronicle outcome) :
    Chronicle.exchanges chronicle = [] ∧
      Chronicle.notices chronicle = closing operator.redaction record reached ∧
        outcome = reached := by
  cases reached with
  | ok result =>
      obtain ⟨_, rfl, ended⟩ := (Always.count _).bind_inv leaves
      obtain ⟨rfl, rfl⟩ := ended.done_inv
      exact ⟨rfl, rfl, rfl⟩
  | error fault =>
      cases fault with
      | temporary message delay =>
          obtain ⟨_, rfl, ended⟩ := (Always.count _).bind_inv leaves
          obtain ⟨rfl, rfl⟩ := ended.done_inv
          exact ⟨rfl, rfl, rfl⟩
      | _ =>
          obtain ⟨first, ended, last, rfl, reported, left⟩ :=
            Leaves.followedBy_inv leaves
          obtain ⟨silent, notices, rfl⟩ := reportFailure_leaves operator reported
          obtain ⟨rfl, rfl⟩ := Leaves.done_inv left
          rw [List.append_nil]
          exact ⟨silent, notices, rfl⟩

/-- A run gives the notices of its reconcile between its opening and its closing. -/
theorem runReconcile_leaves
    {run : Run}
    (performed : run.Performed operator)
    (fit : run.Fit) :
    ∃ members notices result,
      run.record.tableMembers = .ok members ∧
        Story operator run.address (Chronicle.exchanges run.chronicle)
          notices result ∧
        run.outcome = requeued run.address result ∧
        Chronicle.notices run.chronicle =
          opening (.obj members) ++ notices ++
            closing operator.redaction (.obj members) run.outcome ++
            [.timed (.reconcileDuration recordKind)] := by
  obtain ⟨members, metadata, read, described⟩ := fit
  have inner := withCorrelation_leaves performed
  rw [read] at inner
  have observing : (observed operator.redaction (.str recordKind) (.obj members)
      (reconcileOrRequeue operator run.address)).Leaves run.chronicle run.outcome :=
    inner
  have known : metadataOf (.obj members) = .ok (.obj metadata) := by
    rw [metadataOf, described]
  unfold observed at observing
  rw [known] at observing
  obtain ⟨started, isChronicle, counting⟩ :=
    (Always.emit (Event.reconcileStarted (.obj members))).bind_inv observing
  obtain ⟨counted, rfl, timing⟩ := (Always.count _).bind_inv counting
  obtain ⟨start, ensured⟩ := timing.readClock_inv
  obtain ⟨first, rfl, worked⟩ := ensured.ensuring_inv (Always.observe_since _ _)
  obtain ⟨work, reached, last, rfl, working, after⟩ := worked.followedBy_inv
  obtain ⟨result, reconciled, rfl⟩ := reconcileOrRequeue_leaves working
  obtain ⟨silent, notices, ended⟩ := afterWork_leaves operator after
  have story := reconcile_leaves reconciled
  refine ⟨members, Chronicle.notices work, result, read, ?_, ended, ?_⟩
  · have whole : Chronicle.exchanges run.chronicle = Chronicle.exchanges work := by
      rw [isChronicle]
      simp only [Chronicle.exchanges_append, silent, List.append_nil]
      exact List.append_nil _
    rw [whole]
    exact story
  · rw [isChronicle, ended]
    simp only [Chronicle.notices_append, notices, List.append_assoc]
    rfl

/-! ## Balanced chronicles -/

/--
Whether the counters, durations and events of a chronicle agree about its runs.
-/
structure Balanced (chronicle : Chronicle) : Prop where
  /-- Each run that was started has one outcome. -/
  ended :
    (Chronicle.counters chronicle).count (.reconciles recordKind .started) =
      (Chronicle.counters chronicle).count (.reconciles recordKind .success) +
        (Chronicle.counters chronicle).count (.reconciles recordKind .requeued) +
        (Chronicle.counters chronicle).count (.reconciles recordKind .error)
  timed :
    (Chronicle.counters chronicle).count (.reconciles recordKind .started) =
      (Chronicle.timings chronicle).count (.reconcileDuration recordKind)
  /-- Each run that was requeued has one reason. -/
  requeued :
    (Chronicle.counters chronicle).count (.reconciles recordKind .requeued) =
      (Chronicle.counters chronicle).count
        (.requeues recordKind .unsupportedTarget) +
        (Chronicle.counters chronicle).count
          (.requeues recordKind .dependencyNotFound)
  /-- Each run that has failed did so with one fault. -/
  failed :
    (Chronicle.counters chronicle).countP Counter.tellsOfFault =
      (Chronicle.counters chronicle).count (.reconciles recordKind .error)
  reported :
    (Chronicle.counters chronicle).count (.reconciles recordKind .error) =
      (Chronicle.events chronicle).countP (·.hasReason "ReconcileFailed")

/-- Balanced chronicles stay balanced when they are joined. -/
theorem balanced_additive : Additive Balanced where
  nil := ⟨rfl, rfl, rfl, rfl, rfl⟩
  append := by
    intro first second balanced balanced'
    constructor
    · simp only [Chronicle.counters_append, List.count_append, balanced.ended,
        balanced'.ended]
      omega
    · simp only [Chronicle.counters_append, Chronicle.timings_append,
        List.count_append, balanced.timed, balanced'.timed]
    · simp only [Chronicle.counters_append, List.count_append, balanced.requeued,
        balanced'.requeued]
      omega
    · simp only [Chronicle.counters_append, List.count_append, List.countP_append,
        balanced.failed, balanced'.failed]
    · simp only [Chronicle.counters_append, Chronicle.events_append,
        List.count_append, List.countP_append, balanced.reported,
        balanced'.reported]

/-- Whether a chronicle is balanced shows in its notices. -/
theorem Balanced.of_notices
    (balanced : Balanced (Chronicle.notices chronicle)) :
    Balanced chronicle := by
  have stages : ∀ stage,
      (Chronicle.counters (Chronicle.notices chronicle)).count
        (.reconciles recordKind stage) =
        (Chronicle.counters chronicle).count (.reconciles recordKind stage) := by
    intro stage
    rw [Chronicle.counters_notices]
    exact List.count_filter rfl
  have reasons : ∀ reason,
      (Chronicle.counters (Chronicle.notices chronicle)).count
        (.requeues recordKind reason) =
        (Chronicle.counters chronicle).count (.requeues recordKind reason) := by
    intro reason
    rw [Chronicle.counters_notices]
    exact List.count_filter rfl
  have faults :
      (Chronicle.counters (Chronicle.notices chronicle)).countP
        Counter.tellsOfFault =
        (Chronicle.counters chronicle).countP Counter.tellsOfFault := by
    rw [Chronicle.counters_notices, List.countP_filter]
    apply List.countP_congr
    intro counter _
    cases counter <;> simp [Counter.tellsOfFault, Counter.tellsOfReconciles]
  have durations :
      (Chronicle.timings (Chronicle.notices chronicle)).count
        (.reconcileDuration recordKind) =
        (Chronicle.timings chronicle).count (.reconcileDuration recordKind) := by
    rw [Chronicle.timings_notices]
    exact List.count_filter rfl
  obtain ⟨ended, timed, requeued, failed, reported⟩ := balanced
  simp only [stages, reasons, durations, faults, Chronicle.events_notices] at *
  exact ⟨ended, timed, requeued, failed, reported⟩

/-- A fault that asks for no second try is told as a failure. -/
theorem closing_of_not_asksAgain
    {record : Json}
    {fault : Fault}
    (plain : ¬ fault.AsksAgain) :
    closing order record (.error fault) = failing order record fault := by
  cases fault <;> first | rfl | exact absurd trivial plain

/--
A run that failed is balanced, whatever event of its own its reconcile gave before.
-/
theorem balanced_of_failed
    {address : Address}
    {notices : Chronicle}
    {fault : Fault}
    (record : Json)
    (plain : ¬ fault.AsksAgain)
    (counterless : Chronicle.counters notices = [])
    (timeless : Chronicle.timings notices = [])
    (unfailed :
      (Chronicle.events notices).countP (·.hasReason "ReconcileFailed") = 0) :
    Balanced (opening record ++ notices ++
      closing order record (requeued address (.error fault)) ++
      [.timed (.reconcileDuration recordKind)]) := by
  have ended : requeued address (.error fault) = .error fault := rfl
  rw [ended, closing_of_not_asksAgain plain]
  constructor <;>
    simp only [Chronicle.counters_append, Chronicle.timings_append,
      Chronicle.events_append, counterless, timeless, List.count_append,
      List.countP_append, unfailed] <;>
    rfl

/--
A run that told a story is balanced, by the closing that its outcome calls for.
-/
theorem Story.balanced
    {address : Address}
    {history : History}
    {notices : Chronicle}
    {result : Except Fault (ReconcileResult Nat)}
    (story : Story operator address history notices result)
    (plain : Unasking history)
    (record : Json) :
    Balanced (opening record ++ notices ++
      closing order record (requeued address result) ++
      [.timed (.reconcileDuration recordKind)]) := by
  cases story with
  | unread read =>
      exact balanced_of_failed record (read.failsUnasking plain _ rfl) rfl rfl rfl
  | missing read =>
      exact ⟨rfl, rfl, rfl, rfl, rfl⟩
  | unsupported read other =>
      exact ⟨rfl, rfl, rfl, rfl, rfl⟩
  | targetMissing fault read supported lookup =>
      exact ⟨rfl, rfl, rfl, rfl, rfl⟩
  | unresolved read supported lookup =>
      have asked := lookup.failsUnasking plain.right _ rfl
      rw [pipelineNotices_of_not_asksAgain asked,
        pipelineFailure_of_not_asksAgain asked]
      exact balanced_of_failed record asked rfl rfl rfl
  | halted read supported lookup change =>
      have asked := change.failsUnasking (plan_failsUnfit _ _) plain.right _ rfl
      rw [pipelineNotices_of_not_asksAgain asked,
        pipelineFailure_of_not_asksAgain asked]
      exact balanced_of_failed record asked rfl rfl rfl
  | @written reads lookups changes writes policy kind identifier result
      read supported lookup change write =>
      have unfailed :
          (changeEvent policy identifier).hasReason "ReconcileFailed" = false := by
        unfold changeEvent
        split <;> rfl
      cases result with
      | ok _ =>
          have begun : (Event.reconcileStarted record).hasReason "ReconcileFailed" =
              false := rfl
          have untold :
              [Event.reconcileStarted record, changeEvent policy identifier].countP
                (·.hasReason "ReconcileFailed") = 0 := by
            simp [begun, unfailed]
          exact ⟨rfl, rfl, rfl, rfl, untold.symm⟩
      | error fault =>
          apply balanced_of_failed record
            (write.failsUnasking plain.right _ rfl) rfl rfl
          simp [Chronicle.events, Mark.event?, unfailed]

/-! ## The events of a run -/

/-- The reasons that the events of a reconcile give. -/
def storyReasons : List String :=
  ["AuthPolicyApplied", "AuthPolicyDeleted", "TargetNotFound", "UnsupportedTarget"]

/-- Every event of a reconcile gives one of its reasons. -/
theorem Story.reasons
    {address : Address}
    {history : History}
    {notices : Chronicle}
    {result : Except Fault (ReconcileResult Nat)}
    (story : Story operator address history notices result) :
    ∀ event ∈ Chronicle.events notices, ∃ reason ∈ storyReasons,
      event.reason = .str reason := by
  have put : ∀ policy fault,
      ∀ event ∈ Chronicle.events (missingTargetNotices policy fault),
      ∃ reason ∈ storyReasons, event.reason = .str reason := by
    intro policy fault event inside
    obtain rfl := List.mem_singleton.mp inside
    exact ⟨"TargetNotFound", by simp [storyReasons], rfl⟩
  have piped :
      ∀ policy fault, ∀ event ∈ Chronicle.events (pipelineNotices policy fault),
      ∃ reason ∈ storyReasons, event.reason = .str reason := by
    intro policy fault
    cases fault with
    | dependencyNotFound resource name =>
        exact put policy _
    | _ =>
        rintro event ⟨⟩
  cases story with
  | unread | missing =>
      rintro event ⟨⟩
  | unsupported read other =>
      intro event inside
      obtain rfl := List.mem_singleton.mp inside
      exact ⟨"UnsupportedTarget", by simp [storyReasons], rfl⟩
  | targetMissing fault =>
      exact put _ fault
  | unresolved | halted =>
      exact piped _ _
  | @written reads lookups changes writes policy kind identifier result =>
      intro event inside
      obtain rfl := List.mem_singleton.mp inside
      unfold changeEvent
      split
      · exact ⟨"AuthPolicyDeleted", by simp [storyReasons], rfl⟩
      · exact ⟨"AuthPolicyApplied", by simp [storyReasons], rfl⟩

omit [TimeScale Time] in
/-- Events with other reasons do not count. -/
theorem countP_hasReason_of_other
    {events : List Event}
    {reasons : List String}
    {reason : String}
    (given : ∀ event ∈ events, ∃ other ∈ reasons, event.reason = .str other)
    (strange : reason ∉ reasons) :
    events.countP (·.hasReason reason) = 0 := by
  rw [List.countP_eq_zero]
  intro event inside
  obtain ⟨other, known, gives⟩ := given event inside
  have differs : other ≠ reason := by
    rintro rfl
    exact strange known
  simp [Event.hasReason, gives, differs]

/-- The event with which a run is closed, if it has failed for good. -/
theorem closing_reasons
    (order : Redaction.FieldOrder)
    (record : Json)
    (outcome : Except Fault Unit) :
    ∀ event ∈ Chronicle.events (closing order record outcome),
      ∃ reason ∈ ["ReconcileFailed"], event.reason = .str reason := by
  cases outcome with
  | ok _ =>
      rintro event ⟨⟩
  | error fault =>
      cases fault with
      | temporary =>
          rintro event ⟨⟩
      | _ =>
          intro event inside
          obtain rfl := List.mem_singleton.mp inside
          exact ⟨"ReconcileFailed", by simp, rfl⟩

/-- Whether a run has failed, and is not merely put off. -/
def FailsForGood (outcome : Except Fault Unit) : Prop :=
  ∃ fault, outcome = .error fault ∧
    ∀ message delay, fault ≠ .temporary message delay

/-- The closing tells of a failure once, and only of one for good. -/
theorem closing_told
    (order : Redaction.FieldOrder)
    (record : Json)
    (outcome : Except Fault Unit) :
    ToldOnce (Chronicle.events (closing order record outcome)) "ReconcileFailed"
      (FailsForGood outcome) := by
  cases outcome with
  | ok _ =>
      exact .untold (by simp [FailsForGood]) rfl
  | error fault =>
      cases fault with
      | temporary =>
          refine .untold ?_ rfl
          rintro ⟨_, ⟨⟩, lasting⟩
          exact lasting _ _ rfl
      | _ =>
          exact .told ⟨_, rfl, by simp⟩ rfl

/-- Whether the events of a run tell, once each, how it began and went and ended. -/
structure Run.Accounted (operator : Operator Time) (run : Run) : Prop where
  /--
  The first event, and no other, says of the record of the run that its reconcile
  has started.
  -/
  started : ∃ members rest, run.record.tableMembers = .ok members ∧
    Chronicle.events run.chronicle =
      { subject := Event.subjectOf (.obj members)
        severity := .str "Normal"
        reason := .str "ReconcileStarted"
        message := .str "Reconciliation started" } :: rest ∧
    rest.countP (·.hasReason "ReconcileStarted") = 0
  /-- All events together say so once. -/
  startedOnce :
    (Chronicle.events run.chronicle).countP (·.hasReason "ReconcileStarted") = 1
  told : Told operator run.address (Chronicle.exchanges run.chronicle)
    (Chronicle.events run.chronicle)
  failed : ToldOnce (Chronicle.events run.chronicle) "ReconcileFailed"
    (FailsForGood run.outcome)

omit [TimeScale Time] in
/--
A reason is told of by the events that give it, whatever other events there are.
-/
theorem toldOnce_of_countP
    {events others : List Event}
    {reason : String}
    {condition : Prop}
    (told : ToldOnce events reason condition)
    (same :
      others.countP (·.hasReason reason) = events.countP (·.hasReason reason)) :
    ToldOnce others reason condition := by
  rw [ToldOnce, same]
  exact told

omit [TimeScale Time] in
/--
The events between the first and the closing one of a run are those of its
reconcile.
-/
theorem Run.events_of_notices
    {run : Run}
    {members : Members}
    {notices : Chronicle}
    (isChronicle : Chronicle.notices run.chronicle =
      opening (.obj members) ++ notices ++
        closing operator.redaction (.obj members) run.outcome ++
        [.timed (.reconcileDuration recordKind)]) :
    Chronicle.events run.chronicle =
      Event.reconcileStarted (.obj members) ::
        (Chronicle.events notices ++
          Chronicle.events
            (closing operator.redaction (.obj members) run.outcome)) := by
  rw [← Chronicle.events_notices, isChronicle]
  have silent : Chronicle.events [.timed (.reconcileDuration recordKind)] = [] :=
    rfl
  simp only [Chronicle.events_append, silent, List.append_nil, List.append_assoc]
  rfl

/--
Every run announces itself first and tells what its reconcile shows, and how it
failed.
-/
theorem Run.Performed.tells
    {run : Run}
    (performed : run.Performed operator)
    (fit : run.Fit)
    (plain : Unasking (Chronicle.exchanges run.chronicle))
    (objects : AnswersObjects (Chronicle.exchanges run.chronicle)) :
    run.Accounted operator := by
  obtain ⟨members, notices, result, read, story, _, isChronicle⟩ :=
    runReconcile_leaves performed fit
  have events := Run.events_of_notices isChronicle
  have told := story.told plain objects
  have reasons := story.reasons
  have last := closing_reasons operator.redaction (.obj members) run.outcome
  -- the first event and the closing ones are of other reasons than the story's
  have kept : ∀ reason ∈ storyReasons,
      (Chronicle.events run.chronicle).countP (·.hasReason reason) =
        (Chronicle.events notices).countP (·.hasReason reason) := by
    intro reason known
    have strange : reason ∉ ["ReconcileFailed"] := by
      rintro known'
      obtain rfl := List.mem_singleton.mp known'
      simp [storyReasons] at known
    have unlike :
        (Event.reconcileStarted (.obj members)).hasReason reason = false := by
      simp only [storyReasons, List.mem_cons, List.not_mem_nil, or_false] at known
      rcases known with rfl | rfl | rfl | rfl <;> rfl
    rw [events, List.countP_cons, List.countP_append,
      countP_hasReason_of_other last strange, unlike]
    rfl
  have later :
      (Chronicle.events notices ++
      Chronicle.events
        (closing operator.redaction (.obj members) run.outcome)).countP
        (·.hasReason "ReconcileStarted") = 0 := by
    rw [List.countP_append, countP_hasReason_of_other reasons
      (by simp [storyReasons]), countP_hasReason_of_other last (by simp)]
  have first : (Event.reconcileStarted (.obj members)).hasReason
      "ReconcileStarted" = true := rfl
  exact {
    started := ⟨members, _, read, events, later⟩
    startedOnce := by rw [events, List.countP_cons, later, first, if_pos rfl]
    told := {
      applied := toldOnce_of_countP told.applied (kept _ (by simp [storyReasons]))
      deleted := toldOnce_of_countP told.deleted (kept _ (by simp [storyReasons]))
      targetNotFound :=
        toldOnce_of_countP told.targetNotFound (kept _ (by simp [storyReasons]))
      unsupported :=
        toldOnce_of_countP told.unsupported (kept _ (by simp [storyReasons]))
    }
    failed := by
      apply toldOnce_of_countP
        (closing_told operator.redaction (.obj members) run.outcome)
      have unlike : (Event.reconcileStarted (.obj members)).hasReason
          "ReconcileFailed" = false :=
        rfl
      rw [events, List.countP_cons, List.countP_append,
        countP_hasReason_of_other reasons (by simp [storyReasons]), unlike]
      simp
  }

/-- The counters of a run are balanced. -/
theorem Run.Performed.balanced
    {run : Run}
    (performed : run.Performed operator)
    (fit : run.Fit)
    (plain : Unasking (Chronicle.exchanges run.chronicle)) :
    Balanced run.chronicle := by
  obtain ⟨members, notices, result, _, story, ended, isChronicle⟩ :=
    runReconcile_leaves performed fit
  apply Balanced.of_notices
  rw [isChronicle, ended]
  exact story.balanced plain (.obj members)

/-! ## Sequences of runs -/

/-- The counters among the notices of a reconcile are those of its requeues. -/
theorem Story.counters
    {address : Address}
    {history : History}
    {notices : Chronicle}
    {result : Except Fault (ReconcileResult Nat)}
    (story : Story operator address history notices result) :
    ∀ counter ∈ Chronicle.counters notices, ∃ reason,
      counter = .requeues recordKind reason := by
  have piped :
      ∀ policy fault, ∀ counter ∈ Chronicle.counters (pipelineNotices policy fault),
      ∃ reason, counter = .requeues recordKind reason := by
    intro policy fault counter inside
    cases fault with
    | dependencyNotFound =>
        exact ⟨_, List.mem_singleton.mp inside⟩
    | _ =>
        cases inside
  cases story with
  | unread | missing | written =>
      rintro counter ⟨⟩
  | unsupported | targetMissing =>
      exact fun counter inside => ⟨_, List.mem_singleton.mp inside⟩
  | unresolved | halted =>
      exact piped _ _

omit [TimeScale Time] in
/-- The closing counts no start. -/
theorem count_started_closing (record : Json) (outcome : Except Fault Unit) :
    (Chronicle.counters (closing order record outcome)).count
      (.reconciles recordKind .started) = 0 := by
  cases outcome with
  | ok _ =>
      rfl
  | error fault =>
      cases fault <;> rfl

/-- Every run is counted as started, once. -/
theorem Run.Performed.count_started
    {run : Run}
    (performed : run.Performed operator)
    (fit : run.Fit) :
    (Chronicle.counters run.chronicle).count (.reconciles recordKind .started) =
      1 := by
  obtain ⟨members, notices, result, _, story, _, isChronicle⟩ :=
    runReconcile_leaves performed fit
  have kept :
      (Chronicle.counters (Chronicle.notices run.chronicle)).count
          (.reconciles recordKind .started) =
        (Chronicle.counters run.chronicle).count
          (.reconciles recordKind .started) := by
    rw [Chronicle.counters_notices]
    exact List.count_filter rfl
  have others :
      (Chronicle.counters notices).count (.reconciles recordKind .started) = 0 := by
    rw [List.count_eq_zero]
    intro inside
    obtain ⟨_, same⟩ := story.counters _ inside
    cases same
  rw [← kept, isChronicle]
  simp only [Chronicle.counters_append, List.count_append, others,
    count_started_closing]
  rfl

/--
However the services answer, a sequence of runs is accounted for, as long as no
answer is itself a fault that asks for another attempt and attaching a policy is
answered by an object: the totals of the counters, durations and events agree, every
run was counted, and each run tells by its own events what it has done.
-/
theorem runs_accounted
    {runs : List Run}
    (performed : ∀ run ∈ runs, run.Performed operator)
    (fit : ∀ run ∈ runs, run.Fit)
    (plain : ∀ run ∈ runs, Unasking (Chronicle.exchanges run.chronicle))
    (objects : ∀ run ∈ runs, AnswersObjects (Chronicle.exchanges run.chronicle)) :
    Balanced (runs.flatMap Run.chronicle) ∧
      (Chronicle.counters (runs.flatMap Run.chronicle)).count
        (.reconciles recordKind .started) =
        runs.length ∧
      ∀ run ∈ runs, run.Accounted operator := by
  refine ⟨balanced_additive.flatMap ?_, ?_, ?_⟩
  · intro run inside
    exact (performed run inside).balanced (fit run inside) (plain run inside)
  · have all : runs.countP (fun _ => true) = runs.length := by simp
    rw [Chronicle.counters, List.filterMap_flatMap, ← all]
    apply countP_flatMap_of_single
    intro run inside
    exact (performed run inside).count_started (fit run inside)
  · intro run inside
    exact (performed run inside).tells (fit run inside) (plain run inside)
      (objects run inside)

/-! ## Two runs for the gateway -/

/-- A run that is watched while its calls are answered. -/
def Run.watched (operator : Operator Time) (time : Time) (context : AmbientContext)
    (correlation record : Json)
    (address : Address)
    (answers : List (Except Fault Json)) :
    Run :=
  let seen :=
    (runReconcile operator correlation record address).watch time context answers
  ⟨correlation, record, address, seen.1, seen.2⟩

/-- A watched run was performed. -/
theorem Run.performed_watched
    (time : Time)
    (context : AmbientContext)
    (correlation record : Json)
    (address : Address)
    (answers : List (Except Fault Json)) :
    (Run.watched operator time context correlation record address answers).Performed
      operator :=
  leaves_watch time context
    (runReconcile operator correlation record address) answers

/-- The run of the gateway's record when the calls are answered so. -/
def watchedRun (answers : List (Except Fault Json)) : Run :=
  .watched gatewayOperator 0 ⟨.null, none⟩ (.str "c-1")
    (.obj (gatewayRecord "1" []))
    gatewayAddress answers

/-- A run that attaches the policy, and one whose read is refused. -/
def gatewayRuns : List Run :=
  [watchedRun (gatewayHistory.map Exchange.answer),
    watchedRun [.error (.api ⟨.int 403, .str "Forbidden", .null, .null⟩)]]

/--
The exchanges of two runs, one that guards the gateway and one that may not read.
-/
theorem gatewayRuns_exchanges :
    gatewayRuns.map (fun run => Chronicle.exchanges run.chronicle) =
      [gatewayHistory,
        [⟨readCall gatewayOperator gatewayAddress,
          .error (.api ⟨.int 403, .str "Forbidden", .null, .null⟩)⟩]] := by
  with_unfolding_all rfl

theorem gatewayRuns_accounted :
    (∀ run ∈ gatewayRuns, run.Performed gatewayOperator) ∧
      (∀ run ∈ gatewayRuns, run.Fit) ∧
      (∀ run ∈ gatewayRuns, Unasking (Chronicle.exchanges run.chronicle)) ∧
      (∀ run ∈ gatewayRuns, AnswersObjects (Chronicle.exchanges run.chronicle)) ∧
      Balanced (gatewayRuns.flatMap Run.chronicle) ∧
      (Chronicle.counters (gatewayRuns.flatMap Run.chronicle)).count
        (.reconciles recordKind .started) = 2 ∧
      ∀ run ∈ gatewayRuns, run.Accounted gatewayOperator := by
  have watched : ∀ run ∈ gatewayRuns, ∃ answers, run = watchedRun answers := by
    simp only [gatewayRuns, List.forall_mem_cons]
    exact ⟨⟨_, rfl⟩, ⟨_, rfl⟩, by simp⟩
  have performed : ∀ run ∈ gatewayRuns, run.Performed gatewayOperator := by
    intro run inside
    obtain ⟨answers, rfl⟩ := watched run inside
    exact Run.performed_watched _ _ _ _ _ answers
  have fit : ∀ run ∈ gatewayRuns, run.Fit := by
    intro run inside
    obtain ⟨answers, rfl⟩ := watched run inside
    exact ⟨_, _, rfl, rfl⟩
  have exchanged : ∀ run ∈ gatewayRuns, Chronicle.exchanges run.chronicle ∈
      [gatewayHistory, [⟨readCall gatewayOperator gatewayAddress,
        .error (.api ⟨.int 403, .str "Forbidden", .null, .null⟩)⟩]] := by
    intro run inside
    rw [← gatewayRuns_exchanges]
    exact List.mem_map.mpr ⟨run, inside, rfl⟩
  have plain :
      ∀ run ∈ gatewayRuns, Unasking (Chronicle.exchanges run.chronicle) := by
    intro run inside
    have known := exchanged run inside
    generalize Chronicle.exchanges run.chronicle = history at known
    simp only [List.mem_cons, List.not_mem_nil, or_false] at known
    rcases known with rfl | rfl <;>
      simp [Unasking, gatewayHistory, gatewayLookup,
        gatewayAttachment, gatewayWrite, Fault.AsksAgain]
  have objects :
      ∀ run ∈ gatewayRuns, AnswersObjects (Chronicle.exchanges run.chronicle) := by
    intro run inside
    have known := exchanged run inside
    generalize Chronicle.exchanges run.chronicle = history at known
    simp only [List.mem_cons, List.not_mem_nil, or_false] at known
    rcases known with rfl | rfl
    · intro identifier document answer put
      obtain ⟨-, isAnswer⟩ :
          (identifier = gatewayNetwork ∧ document = .str "allow") ∧
          answer = .obj [] := by
        simpa [gatewayHistory, gatewayLookup, gatewayAttachment, gatewayWrite,
          readCall] using put
      exact ⟨[], isAnswer⟩
    · simp [AnswersObjects, readCall]
  exact ⟨performed, fit, plain, objects, runs_accounted performed fit plain objects⟩

end PolicyReconciler.Reconcile

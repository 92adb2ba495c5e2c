import PolicyReconciler.Proofs.Accounting.Outcomes
import PolicyReconciler.Proofs.Disclosure.Alike

namespace PolicyReconciler

/-!
# What runs disclose

Of a fault that a service answers with, a run discloses no more than its kind, its
redacted message and how it is treated.  The exceptions are the lines in which the
client of the Lattice service reports an error answer: they hold its text as it
came.
-/

open Program

/-! ## Chronicles that look the same -/

/-- Chronicles that show the same but for the client's reports of error answers. -/
structure Chronicle.Indistinct
    (order : Redaction.FieldOrder)
    (first second : Chronicle) :
    Prop where
  events : events first = events second
  counters : counters first = counters second
  timings : timings first = timings second
  lines : List.Forall₂ (LogRecord.Alike order) (lines first) (lines second)

/-- Lists that are related entry by entry show the same where related entries do. -/
theorem filterMap_eq_of_forall₂
    {Item Other : Type}
    {related : Item → Item → Prop}
    {view : Item → Option Other}
    {first second : List Item}
    (items : List.Forall₂ related first second)
    (same : ∀ item item', related item item' → view item = view item') :
    first.filterMap view = second.filterMap view := by
  induction items with
  | nil =>
      rfl
  | cons alike _ inductionHypothesis =>
      simp only [List.filterMap_cons, same _ _ alike, inductionHypothesis]

/-- Chronicles whose marks are alike cannot be told apart. -/
theorem Chronicle.indistinct_of_alike
    {order : Redaction.FieldOrder}
    {first second : Chronicle}
    (alike : List.Forall₂ (Mark.Alike order) first second) :
    first.Indistinct order second where
  events := filterMap_eq_of_forall₂ alike fun _ _ marks => by cases marks <;> rfl
  counters := filterMap_eq_of_forall₂ alike fun _ _ marks => by cases marks <;> rfl
  timings := filterMap_eq_of_forall₂ alike fun _ _ marks => by cases marks <;> rfl
  lines := by
    induction alike with
    | nil =>
        exact .nil
    | @cons mark mark' first second marks _ inductionHypothesis =>
        cases marks with
        | same =>
            cases mark with
            | logged record =>
                exact .cons (.same record) inductionHypothesis
            | _ =>
                exact inductionHypothesis
        | exchanged =>
            exact inductionHypothesis
        | logged alike =>
            exact .cons alike inductionHypothesis

namespace Reconcile

variable {Time : Type} [TimeScale Time]
variable {operator : Operator Time}

/--
Take any run, and let each fault that a service answered with be replaced by one
that is alike.  Then there is a run for the same record that cannot be told apart by
its events, counters, durations and log lines, other than by the client's reports of
error answers.
-/
theorem Run.Performed.exists_indistinct
    {run : Run}
    {history : History}
    (performed : run.Performed operator)
    (swapped : List.Forall₂ (Exchange.Alike operator.redaction)
      (Chronicle.exchanges run.chronicle) history) :
    ∃ other : Run, other.Performed operator ∧
      other.correlation = run.correlation ∧ other.record = run.record ∧
      other.address = run.address ∧
      Chronicle.exchanges other.chronicle = history ∧
      run.chronicle.Indistinct operator.redaction other.chronicle ∧
      AlikeOutcomes operator.redaction run.outcome other.outcome := by
  have alike := Alike.ofComposed
    (Composed.runReconcile_ofTurns operator run.correlation run.record
      run.address).ofBareCalls
  obtain ⟨chronicle, outcome, leaves, exchanged, seen, ended⟩ :=
    alike.leaves performed swapped
  exact ⟨⟨run.correlation, run.record, run.address, chronicle, outcome⟩,
    leaves, rfl, rfl, rfl, exchanged, Chronicle.indistinct_of_alike seen, ended⟩

/-! ## A refusal that names an account -/

/-- An error answer that names an account. -/
def denial (account : String) : Fault :=
  .service ⟨.str "E", .str ("arn:aws:s::" ++ account ++ ":"), .str "L", none⟩

/--
What is shown of an error answer that names an account, whichever account it is.
-/
def redactedDenial : String :=
  "An error occurred (E) when calling the L operation: arn:aws:s::[REDACTED]:"

/-- The denial is shown without the account. -/
theorem denial_shown :
    (denial "123456789012").redactedMessage .listed = redactedDenial := by
  decide +kernel

theorem other_denial_shown :
    (denial "210987654321").redactedMessage .listed = redactedDenial := by
  decide +kernel

/-- Denials for two accounts are alike. -/
theorem denial_alike :
    (denial "123456789012").Alike .listed (denial "210987654321") :=
  .service rfl (denial_shown.trans other_denial_shown.symm)

/-- The denial is not shown as it is. -/
theorem denial_redacted :
    (denial "123456789012").redactedMessage .listed ≠
    (denial "123456789012").message := by
  rw [denial_shown]
  decide +kernel

/-- The exchanges of a reconcile whose list call is refused. -/
def deniedHistory (account : String) : History :=
  [⟨PolicyStore.readCall gatewayOperator gatewayAddress,
    .ok (.obj (gatewayRecord "1" []))⟩,
    ⟨.listPage .serviceNetwork none, .error (denial account)⟩]

/-- The gateway's run when the service denies access and names the caller. -/
def deniedRun : Run :=
  watchedRun ((deniedHistory "123456789012").map Exchange.answer)

/-- The denied run was performed. -/
theorem deniedRun_performed : deniedRun.Performed gatewayOperator :=
  Run.performed_watched _ _ _ _ _ _

/-- The exchanges of the denied run. -/
theorem deniedRun_exchanges :
    Chronicle.exchanges deniedRun.chronicle = deniedHistory "123456789012" := by
  with_unfolding_all rfl

theorem deniedRun_indistinct :
    deniedRun.Performed gatewayOperator ∧
      List.Forall₂ (Exchange.Alike gatewayOperator.redaction)
        (Chronicle.exchanges deniedRun.chronicle) (deniedHistory "210987654321") ∧
      ∃ other : Run, other.Performed gatewayOperator ∧
        other.correlation = deniedRun.correlation ∧
        other.record = deniedRun.record ∧
        other.address = deniedRun.address ∧
        Chronicle.exchanges other.chronicle = deniedHistory "210987654321" ∧
        deniedRun.chronicle.Indistinct gatewayOperator.redaction other.chronicle ∧
        AlikeOutcomes gatewayOperator.redaction deniedRun.outcome
          other.outcome := by
  have swapped : List.Forall₂ (Exchange.Alike gatewayOperator.redaction)
      (Chronicle.exchanges deniedRun.chronicle) (deniedHistory "210987654321") := by
    rw [deniedRun_exchanges]
    exact .cons ⟨rfl, .same _⟩ (.cons ⟨rfl, .error denial_alike⟩ .nil)
  exact ⟨deniedRun_performed, swapped,
    deniedRun_performed.exists_indistinct swapped⟩

/--
The client's report of an error answer holds its text, which redaction would have
changed.
-/
theorem fault_message_not_always_redacted :
    ¬ ∀ run : Run, run.Performed gatewayOperator →
      ∀ exchange ∈ Chronicle.exchanges run.chronicle, ∀ fault,
        exchange.answer = .error fault →
        fault.redactedMessage gatewayOperator.redaction ≠ fault.message →
        ∀ line ∈ Chronicle.lines run.chronicle,
          ¬ fault.message.toList <:+: line.message.toList := by
  intro redacted
  have reported : (Chronicle.lines deniedRun.chronicle)[1]? =
      some (VpcLattice.failureLine "list service networks"
        (denial "123456789012")) := by
    with_unfolding_all rfl
  refine redacted deniedRun deniedRun_performed
    ⟨.listPage .serviceNetwork none, .error (denial "123456789012")⟩ ?_ _
      rfl denial_redacted
    _ (List.mem_of_getElem? reported) ?_
  · rw [deniedRun_exchanges]
    exact List.mem_cons_of_mem _ List.mem_cons_self
  · have text : (VpcLattice.failureLine "list service networks"
        (denial "123456789012")).message.toList =
          ("Failed to " ++ "list service networks" ++ ": ").toList ++
            (denial "123456789012").message.toList := String.toList_append
    rw [text]
    exact (List.suffix_append _ _).isInfix

end Reconcile

end PolicyReconciler

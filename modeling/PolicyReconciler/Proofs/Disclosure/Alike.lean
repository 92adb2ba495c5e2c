import Mathlib.Data.List.Forall2
import PolicyReconciler.Proofs.Composition.Calls
import PolicyReconciler.Proofs.Program.Chronicle

namespace PolicyReconciler

/-!
# Programs that cannot be told apart

Two programs are alike if, as long as all answers are alike, they do the same.  What
others see of them is then the same too, but for the lines in which the client of
the Lattice service reports an error answer, and which hold its unredacted text.
Programs that are composed alike are alike.
-/

open Program

variable {order : Redaction.FieldOrder}

/-! ## What others see -/

/-- Exchanges of one call with answers that are alike. -/
def Exchange.Alike
    (order : Redaction.FieldOrder)
    (first second : Exchange) :
    Prop :=
  first.call = second.call ∧ AlikeOutcomes order first.answer second.answer

/-- Lines that are equal, or reports of error answers that are alike. -/
inductive LogRecord.Alike
    (order : Redaction.FieldOrder) :
    LogRecord → LogRecord → Prop where
  | same (record : LogRecord) :
      Alike order record record
  | failure {first second : ServiceError} (activity : String)
      (alike : (Fault.service first).Alike order (.service second)) :
      Alike order (VpcLattice.failureLine activity (.service first))
        (VpcLattice.failureLine activity (.service second))

/-- Marks that differ at most in the texts of faults that are alike. -/
inductive Mark.Alike (order : Redaction.FieldOrder) : Mark → Mark → Prop where
  | same (mark : Mark) :
      Alike order mark mark
  | exchanged {first second : Exchange}
      (alike : first.Alike order second) :
      Alike order (.exchanged first) (.exchanged second)
  | logged {first second : LogRecord}
      (alike : first.Alike order second) :
      Alike order (.logged first) (.logged second)

namespace Effect

variable {Time : Type}

/-- Replies that are equal, or answers that are alike. -/
def RepliesAlike (order : Redaction.FieldOrder) :
    (effect : Effect Time) → effect.Reply → effect.Reply → Prop
  | .call _, first, second => AlikeOutcomes order first second
  | _, first, second => first = second

/-- Every reply is like itself. -/
theorem repliesAlike_same (effect : Effect Time) (reply : effect.Reply) :
    effect.RepliesAlike order reply reply := by
  cases effect with
  | call request =>
      exact .same reply
  | _ =>
      rfl

end Effect

/-! ## Programs -/

namespace Program

variable {Time Result Other : Type}

/-- Programs that do the same as long as all answers are alike. -/
inductive Alike (order : Redaction.FieldOrder) :
    Program Time Result → Program Time Result → Prop where
  | done {first second : Except Fault Result}
      (alike : AlikeOutcomes order first second) :
      Alike order (done first) (done second)
  | perform {effect : Effect Time}
        {first second : effect.Reply → Program Time Result}
      (rest : ∀ reply reply', effect.RepliesAlike order reply reply' →
        Alike order (first reply) (second reply')) :
      Alike order (perform effect first) (perform effect second)
  | log {line line' : LogRecord} {first second : Unit → Program Time Result}
      (alike : line.Alike order line')
      (rest : Alike order (first ()) (second ())) :
      Alike order (perform (.log line) first) (perform (.log line') second)
  | closeSpan {fault fault' : Fault} {first second : Unit → Program Time Result}
      (alike : fault.Alike order fault')
      (rest : Alike order (first ()) (second ())) :
      Alike order (perform (.closeSpan (some fault)) first)
        (perform (.closeSpan (some fault')) second)

namespace Alike

variable {chronicle : Chronicle}
variable {outcome : Except Fault Result}
variable {program program' : Program Time Result}

/--
A run of one of two programs that are alike, answered alike, is one of the other.
-/
theorem leaves
    {history : History}
    (alike : program.Alike order program')
    (leaves : program.Leaves chronicle outcome)
    (swapped :
      List.Forall₂ (Exchange.Alike order) (Chronicle.exchanges chronicle) history) :
    ∃ chronicle' outcome', program'.Leaves chronicle' outcome' ∧
      Chronicle.exchanges chronicle' = history ∧
      List.Forall₂ (Mark.Alike order) chronicle chronicle' ∧
        AlikeOutcomes order outcome outcome' := by
  induction alike generalizing chronicle history with
  | done alike =>
      obtain ⟨rfl, rfl⟩ := leaves.done_inv
      cases swapped
      exact ⟨[], _, .done _, rfl, .nil, alike⟩
  | @perform effect first second rest inductionHypothesis =>
      obtain ⟨reply, later, rfl, after⟩ := leaves.perform_inv
      by_cases silent : effect.Silent
      · rw [Chronicle.exchanges_append, Effect.exchanges_marks,
          Effect.exchanges_of_silent silent, List.nil_append] at swapped
        obtain ⟨chronicle', outcome', ran, exchanged, seen, ended⟩ :=
          inductionHypothesis reply reply
            (effect.repliesAlike_same reply) after swapped
        refine ⟨_, outcome', .perform reply ran, ?_, ?_, ended⟩
        · rw [Chronicle.exchanges_append, Effect.exchanges_marks,
            Effect.exchanges_of_silent silent, exchanged, List.nil_append]
        · exact List.rel_append (List.forall₂_same.mpr fun mark _ =>
            .same mark) seen
      · obtain ⟨request, rfl⟩ := Effect.eq_call_of_not_silent silent
        obtain ⟨⟨request', answer⟩, rest', ⟨rfl, alike⟩, others, rfl⟩ :=
          List.forall₂_cons_left_iff.mp swapped
        obtain ⟨chronicle', outcome', ran, exchanged, seen, ended⟩ :=
          inductionHypothesis reply answer alike after others
        refine ⟨_, outcome', .perform answer ran, ?_,
          .cons (.exchanged ⟨rfl, alike⟩) seen, ended⟩
        rw [← exchanged]
        rfl
  | log alike rest inductionHypothesis =>
      obtain ⟨_, later, rfl, after⟩ := leaves.perform_inv
      obtain ⟨chronicle', outcome', ran, exchanged, seen, ended⟩ :=
        inductionHypothesis after swapped
      exact ⟨_, outcome', .perform () ran, exchanged,
        .cons (.logged alike) seen, ended⟩
  | closeSpan alike rest inductionHypothesis =>
      obtain ⟨_, later, rfl, after⟩ := leaves.perform_inv
      obtain ⟨chronicle', outcome', ran, exchanged, seen, ended⟩ :=
        inductionHypothesis after swapped
      exact ⟨_, outcome', .perform () ran, exchanged, seen, ended⟩

/-! ## Programs that are composed alike -/

/-- Programs that are alike stay alike when they go on alike. -/
theorem followedBy
    {next next' : Except Fault Result → Program Time Other}
    (first : program.Alike order program')
    (rest : ∀ outcome outcome', AlikeOutcomes order outcome outcome' →
      (next outcome).Alike order (next' outcome')) :
    (program.followedBy next).Alike order (program'.followedBy next') := by
  induction first with
  | done alike =>
      exact rest _ _ alike
  | perform _ inductionHypothesis =>
      exact .perform inductionHypothesis
  | log alike _ inductionHypothesis =>
      exact .log alike inductionHypothesis
  | closeSpan alike _ inductionHypothesis =>
      exact .closeSpan alike inductionHypothesis

/-- One effect that is no call, after which programs go on alike. -/
theorem silent
    {effect : Effect Time}
    {first second : effect.Reply → Program Time Result}
    (quiet : effect.Silent)
    (rest : ∀ reply, (first reply).Alike order (second reply)) :
    (Program.perform effect first).Alike order (Program.perform effect second) := by
  refine .perform fun reply reply' same => ?_
  cases effect with
  | call request =>
      exact quiet.elim
  | _ =>
      cases same
      exact rest reply

/-- A call is alike to itself, for its answers are. -/
theorem call (request : Call) :
    (Program.call request : Program Time Json).Alike order (Program.call request) :=
  .perform fun _ _ alike => .done alike

/-- Programs that are made of calls in the same way are alike. -/
theorem ofComposed
    (composed : Composed order BareCall Effect.KeepsTurns program program') :
    program.Alike order program' := by
  induction composed with
  | done alike =>
      exact .done alike
  | @perform _ effect _ _ allowed _ inductionHypothesis =>
      refine .silent ?_ inductionHypothesis
      cases effect <;> first | trivial | exact allowed.elim id id
  | part isCall =>
      cases isCall with
      | call request =>
          exact .call request
  | followedBy _ _ startHypothesis restHypothesis =>
      exact startHypothesis.followedBy restHypothesis
  | failure activity alike _ inductionHypothesis =>
      exact .log (.failure activity alike) inductionHypothesis
  | closeSpan alike _ inductionHypothesis =>
      exact .closeSpan alike inductionHypothesis
  | @line entry level =>
      unfold LogEntry.write
      split
      · exact .done (.same _)
      · refine .silent trivial fun context => ?_
        dsimp only [Program.followedBy, Program.finish]
        split
        · exact .silent trivial fun _ => .done (.same _)
        · exact .done (.same _)

end Alike

end Program

end PolicyReconciler

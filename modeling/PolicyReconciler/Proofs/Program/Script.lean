import Mathlib.Tactic.Choose
import PolicyReconciler.Proofs.Program.Quiet

namespace PolicyReconciler

/-!
# Scripts

A program follows a script if what it calls, and how it ends, depends on the answers
to its calls alone.  Clocks, contexts and the state of the limiter may reply as they
like: they change neither.  So two runs of such a program stay together as long as
their answers do.
-/

/-- The calls of a program, each with what follows on every answer to it. -/
inductive Script (Result : Type) where
  | ended (outcome : Except Fault Result)
  | asks (call : Call) (onward : Except Fault Json → Script Result)

namespace Script

variable {Result Other : Type}

/-- Go on with what follows on the outcome of a script. -/
def followedBy
    (script : Script Result)
    (next : Except Fault Result → Script Other) :
    Script Other :=
  match script with
  | ended outcome => next outcome
  | asks call onward => asks call fun answer => (onward answer).followedBy next

/-- Whether a script leads through a history to an outcome. -/
def Tells : Script Result → History → Except Fault Result → Prop
  | ended expected, [], outcome => outcome = expected
  | ended _, _ :: _, _ => False
  | asks _ _, [], _ => False
  | asks call onward, exchange :: later, outcome =>
      exchange.call = call ∧ (onward exchange.answer).Tells later outcome

/-- After the same exchanges a script asks for the same call. -/
theorem Tells.next_call
    {script : Script Result}
    {past later others : History}
    {exchange : Exchange}
    {outcome reached : Except Fault Result}
    (first : script.Tells (past ++ exchange :: later) outcome)
    (second : script.Tells (past ++ others) reached) :
    ∃ other rest, others = other :: rest ∧ other.call = exchange.call := by
  induction past generalizing script with
  | nil =>
      cases script with
      | ended expected =>
          exact first.elim
      | asks call onward =>
          cases others with
          | nil =>
              exact second.elim
          | cons other rest =>
              exact ⟨other, rest, rfl, second.1.trans first.1.symm⟩
  | cons earlier past inductionHypothesis =>
      cases script with
      | ended expected =>
          exact first.elim
      | asks call onward =>
          exact inductionHypothesis first.2 second.2

/-- Where a script has ended it goes no further, and it has ended in one way. -/
theorem Tells.ended_inv
    {script : Script Result}
    {past others : History}
    {outcome reached : Except Fault Result}
    (first : script.Tells past outcome)
    (second : script.Tells (past ++ others) reached) :
    others = [] ∧ reached = outcome := by
  induction past generalizing script with
  | nil =>
      cases script with
      | ended expected =>
          cases others with
          | nil =>
              exact ⟨rfl, second.trans first.symm⟩
          | cons other rest =>
              exact second.elim
      | asks call onward =>
          exact first.elim
  | cons earlier past inductionHypothesis =>
      cases script with
      | ended expected =>
          exact first.elim
      | asks call onward =>
          exact inductionHypothesis first.2 second.2

end Script

namespace Program

variable {Time Result Other : Type}

/-- Whether the calls and the outcome of a program are those of a script. -/
inductive Follows : Program Time Result → Script Result → Prop where
  | done (outcome : Except Fault Result) :
      Follows (done outcome) (.ended outcome)
  | silent {effect : Effect Time} {resume : effect.Reply → Program Time Result}
      {script : Script Result}
      (quiet : effect.Silent)
      (rest : ∀ reply, Follows (resume reply) script) :
      Follows (perform effect resume) script
  | call {request : Call} {resume : Except Fault Json → Program Time Result}
      {onward : Except Fault Json → Script Result}
      (rest : ∀ answer, Follows (resume answer) (onward answer)) :
      Follows (perform (.call request) resume) (.asks request onward)

namespace Follows

/-- Every run of a program goes as its script tells. -/
theorem tells
    {program : Program Time Result}
    {script : Script Result}
    {history : History}
    {outcome : Except Fault Result}
    (follows : program.Follows script)
    (runs : program.Runs history outcome) :
    script.Tells history outcome := by
  induction follows generalizing history with
  | done expected =>
      cases runs with
      | refl =>
          rfl
  | silent quiet rest inductionHypothesis =>
      cases runs with
      | perform reply later =>
          rw [Effect.exchanges_of_silent quiet]
          exact inductionHypothesis reply later
  | call rest inductionHypothesis =>
      cases runs with
      | perform answer later =>
          exact ⟨rfl, inductionHypothesis answer later⟩

/-- Steady programs, one after the other. -/
theorem followedBy
    {program : Program Time Result}
    {script : Script Result}
    {next : Except Fault Result → Program Time Other}
    {after : Except Fault Result → Script Other}
    (first : program.Follows script)
    (second : ∀ outcome, (next outcome).Follows (after outcome)) :
    (program.followedBy next).Follows (script.followedBy after) := by
  induction first with
  | done outcome =>
      exact second outcome
  | silent quiet rest inductionHypothesis =>
      exact .silent quiet inductionHypothesis
  | call rest inductionHypothesis =>
      exact .call inductionHypothesis

/-- Programs that all go on in the same way follow the script of the first. -/
theorem keep
    {program : Program Time Result}
    {script : Script Result}
    {next : Except Fault Result → Program Time Result}
    (first : program.Follows script)
    (second : ∀ outcome, (next outcome).Follows (.ended outcome)) :
    (program.followedBy next).Follows script := by
  induction first with
  | done outcome =>
      exact second outcome
  | silent quiet rest inductionHypothesis =>
      exact .silent quiet inductionHypothesis
  | call rest inductionHypothesis =>
      exact .call inductionHypothesis

/--
A program that makes no call, and ends in one way, follows the script of that end.
-/
theorem of_meets
    {program : Program Time Result}
    {outcome : Except Fault Result}
    {past : History}
    (meets :
      program.Meets (fun _ _ => False) (fun _ reached => reached = outcome) past) :
    program.Follows (.ended outcome) := by
  induction program generalizing past with
  | done reached =>
      rw [show reached = outcome from meets]
      exact .done outcome
  | perform effect resume inductionHypothesis =>
      by_cases silent : effect.Silent
      · exact .silent silent fun reply => inductionHypothesis reply (meets.2 reply)
      · obtain ⟨request, rfl⟩ := Effect.eq_call_of_not_silent silent
        exact meets.1.elim

/-- A quiet program follows the script that has ended. -/
theorem of_quietly
    {program : Program Time Result}
    {outcome : Except Fault Result}
    (quiet : program.Quietly outcome) :
    program.Follows (.ended outcome) := by
  have meets :
      program.Meets (fun _ _ => False) (fun _ reached => reached = outcome) [] :=
    quiet.meets rfl
  exact of_meets meets

end Follows

/-- Whether what a program calls and how it ends depends on the answers alone. -/
def Steady (program : Program Time Result) : Prop :=
  ∃ script, program.Follows script

namespace Steady

/-- A quiet program is steady. -/
theorem of_quietly
    {program : Program Time Result}
    {outcome : Except Fault Result}
    (quiet : program.Quietly outcome) :
    program.Steady :=
  ⟨_, .of_quietly quiet⟩

theorem followedBy
    {program : Program Time Result}
    {next : Except Fault Result → Program Time Other}
    (first : program.Steady)
    (second : ∀ outcome, (next outcome).Steady) :
    (program.followedBy next).Steady := by
  obtain ⟨script, follows⟩ := first
  choose after others using second
  exact ⟨_, follows.followedBy others⟩

/-- Steady programs, the second with the first's result. -/
theorem bind
    {program : Program Time Result}
    {next : Result → Program Time Other}
    (first : program.Steady)
    (second : ∀ result, (next result).Steady) :
    (program >>= next).Steady := by
  apply first.followedBy
  intro outcome
  cases outcome with
  | ok result =>
      exact second result
  | error fault =>
      exact of_quietly (.fail fault)

/-- A steady program with a steady handler. -/
theorem recover
    {program : Program Time Result}
    {handler : Fault → Program Time Result}
    (first : program.Steady)
    (second : ∀ fault, (handler fault).Steady) :
    (program.recover handler).Steady := by
  apply first.followedBy
  intro outcome
  cases outcome with
  | ok result =>
      exact of_quietly (.finish result)
  | error fault =>
      exact second fault

/-- A call is steady. -/
theorem call (request : Call) : (Program.call request : Program Time Json).Steady :=
  ⟨_, .call fun answer => .done answer⟩

/-- A quiet last program changes nothing, whatever the clock showed at the start. -/
theorem clocked
    {program : Program Time Result}
    {last : Time → Program Time Unit}
    (first : program.Steady)
    (closes : ∀ start, (last start).Quietly (.ok ())) :
    (readClock >>= fun start => program.ensuring (last start)).Steady := by
  obtain ⟨script, follows⟩ := first
  refine ⟨script, .silent trivial fun start => follows.keep fun outcome => ?_⟩
  refine .of_quietly fun permits past => Meets.followedBy ((closes start).meets ?_)
  exact ⟨rfl, rfl⟩

/-- A steady program inside a span. -/
theorem withSpan
    {program : Program Time Result}
    (name kind : Json)
    (attributes : Members)
    (inner : program.Steady) :
    (Program.withSpan name kind attributes program).Steady := by
  obtain ⟨script, follows⟩ := inner
  refine ⟨script, .silent trivial fun _ => follows.keep fun outcome => ?_⟩
  cases outcome with
  | ok result =>
      exact .silent trivial fun _ => .done _
  | error fault =>
      exact .silent trivial fun _ => .done _

end Steady

end Program

end PolicyReconciler

import PolicyReconciler.Program.Basic

namespace PolicyReconciler

/-!
# Histories of programs

What the services see of a program are its calls, and what the program sees of
them are their answers.  A history keeps both, in order.  All other effects are
silent: whatever they reply, they add nothing to a history.

`Program.Meets` says what a program does in surroundings that may answer in any
way: every call it makes is permitted after the exchanges before it, and every
outcome it ends with agrees with the exchanges of the whole run.  `Program.Leads`
and `Program.Runs` list the single runs, unfinished and finished.
-/

/-- A call together with the answer that it met. -/
structure Exchange where
  call : Call
  answer : Except Fault Json

/-- The exchanges of a program, the oldest first. -/
abbrev History := List Exchange

namespace Effect

variable {Time : Type}

/-- What an effect and its reply add to a history. -/
def exchanges : (effect : Effect Time) → effect.Reply → History
  | .call request, answer => [⟨request, answer⟩]
  | _, _ => []

/-- The call that an effect makes, if it makes one. -/
def request? : Effect Time → Option Call
  | .call request => some request
  | _ => none

/-- A reply to an effect, where calls are answered and time stands still. -/
def reply (time : Time) (context : AmbientContext) (answer : Except Fault Json) :
    (effect : Effect Time) → effect.Reply
  | .call _ => answer
  | .readClock => time
  | .lastCall _ => time
  | .readContext => context
  | .pause _ | .noteCall .. | .count _ | .observe .. | .log _ | .emit _
  | .enterCorrelation _ | .leaveCorrelation | .openSpan .. | .annotateSpan ..
  | .closeSpan _ => ()

/-- Whether an effect may be performed, where only calls are restricted. -/
def Permitted (permits : Call → Prop) : Effect Time → Prop
  | .call request => permits request
  | _ => True

/--
An effect that is no call replies without leaving a trace, and is always permitted.
-/
def Silent : Effect Time → Prop
  | .call _ => False
  | _ => True

/-- A silent effect makes no exchange. -/
theorem exchanges_of_silent
    {effect : Effect Time}
    (silent : effect.Silent)
    (reply : effect.Reply) :
    effect.exchanges reply = [] := by
  cases effect with
  | call request =>
      exact silent.elim
  | _ =>
      rfl

/-- An effect that is not silent is a call. -/
theorem eq_call_of_not_silent
    {effect : Effect Time}
    (loud : ¬ effect.Silent) :
    ∃ request, effect = .call request := by
  cases effect with
  | call request =>
      exact ⟨request, rfl⟩
  | _ =>
      exact absurd trivial loud

/-- A silent effect is permitted. -/
theorem permitted_of_silent
    {effect : Effect Time}
    (silent : effect.Silent)
    (permits : Call → Prop) :
    effect.Permitted permits := by
  cases effect with
  | call request =>
      exact silent.elim
  | _ =>
      trivial

end Effect

namespace Program

variable {Time Result Other : Type}

/--
Whether every call of a program is permitted after the exchanges before it, and
every outcome agrees with all exchanges, however the effects are answered.
-/
def Meets
    (permits : History → Call → Prop)
    (ends : History → Except Fault Result → Prop) :
    Program Time Result → History → Prop
  | done outcome, past => ends past outcome
  | perform effect resume, past =>
      effect.Permitted (permits past) ∧
        ∀ reply, (resume reply).Meets permits ends (past ++ effect.exchanges reply)

variable {permits : History → Call → Prop}
variable {ends middle : History → Except Fault Result → Prop}
variable {past : History}

namespace Meets

/-- A program meets whatever is weaker. -/
theorem mono
    {program : Program Time Result}
    (first : program.Meets permits middle past)
    (weaker : ∀ after outcome, middle after outcome → ends after outcome) :
    program.Meets permits ends past := by
  induction program generalizing past with
  | done outcome =>
      exact weaker past outcome first
  | perform effect resume inductionHypothesis =>
      exact ⟨first.1, fun reply => inductionHypothesis reply (first.2 reply)⟩

/-- What follows a program goes on from wherever the program ends. -/
theorem followedBy
    {program : Program Time Result}
    {next : Except Fault Result → Program Time Other}
    {last : History → Except Fault Other → Prop}
    (first : program.Meets permits
      (fun after outcome => (next outcome).Meets permits last after) past) :
    (program.followedBy next).Meets permits last past := by
  induction program generalizing past with
  | done outcome =>
      exact first
  | perform effect resume inductionHypothesis =>
      exact ⟨first.1, fun reply => inductionHypothesis reply (first.2 reply)⟩

/-- A program with a handler meets what both its ends meet. -/
theorem recover
    {program : Program Time Result}
    {handler : Fault → Program Time Result}
    (first : program.Meets permits middle past)
    (success : ∀ after result, middle after (.ok result) → ends after (.ok result))
    (failure : ∀ after fault, middle after (.error fault) →
      (handler fault).Meets permits ends after) :
    (program.recover handler).Meets permits ends past := by
  apply followedBy
  apply first.mono
  intro after outcome reached
  cases outcome with
  | ok result =>
      exact success after result reached
  | error fault =>
      exact failure after fault reached

/-- A silent effect goes on from the history it was performed in. -/
theorem silent
    {effect : Effect Time}
    {resume : effect.Reply → Program Time Result}
    (quiet : effect.Silent)
    (next : ∀ reply, (resume reply).Meets permits ends past) :
    (perform effect resume).Meets permits ends past := by
  refine ⟨Effect.permitted_of_silent quiet (permits past), fun reply => ?_⟩
  rw [Effect.exchanges_of_silent quiet, List.append_nil]
  exact next reply

/--
A call has to be permitted, and goes on from the history that its answer extends.
-/
theorem call
    {request : Call}
    {last : History → Except Fault Json → Prop}
    (permitted : permits past request)
    (answered : ∀ answer, last (past ++ [⟨request, answer⟩]) answer) :
    (Program.call request : Program Time Json).Meets permits last past :=
  ⟨permitted, answered⟩

/-- A last program that only ends well keeps the outcome of the first. -/
theorem ensuring
    {program : Program Time Result}
    {last : Program Time Unit}
    (first : program.Meets permits ends past)
    (closes : ∀ after, last.Meets permits
      (fun final outcome => final = after ∧ outcome = .ok ()) after) :
    (program.ensuring last).Meets permits ends past := by
  apply followedBy
  apply first.mono
  intro after outcome reached
  apply followedBy
  apply (closes after).mono
  rintro _ _ ⟨rfl, rfl⟩
  exact reached

end Meets

/-! ## Runs -/

/-- What a program exchanges on the way to the program that is left of it. -/
inductive Leads : Program Time Result → History → Program Time Result → Prop where
  | refl (program : Program Time Result) :
      Leads program [] program
  | perform
      {effect : Effect Time}
      {resume : effect.Reply → Program Time Result}
      {history : History}
      {last : Program Time Result}
      (reply : effect.Reply)
      (rest : Leads (resume reply) history last) :
      Leads (perform effect resume) (effect.exchanges reply ++ history) last

/-- The finished runs of a program: what it exchanged, and how it ended. -/
def Runs (program : Program Time Result) (history : History)
    (outcome : Except Fault Result) : Prop :=
  program.Leads history (done outcome)

/--
A run passes through every beginning of its history, up to the call that comes next.
-/
theorem Leads.split_call
    {program last : Program Time Result}
    {before later : History}
    {call : Call}
    {answer : Except Fault Json}
    (leads : program.Leads (before ++ ⟨call, answer⟩ :: later) last) :
    ∃ next : Except Fault Json → Program Time Result,
      program.Leads before (.perform (.call call) next) ∧
        (next answer).Leads later last := by
  generalize whole : before ++ ⟨call, answer⟩ :: later = history at leads
  induction leads generalizing before with
  | refl program =>
      simp at whole
  | @perform effect resume history last reply rest inductionHypothesis =>
      by_cases silent : effect.Silent
      · rw [Effect.exchanges_of_silent silent, List.nil_append] at whole
        obtain ⟨next, reaches, onward⟩ := inductionHypothesis whole
        refine ⟨next, ?_, onward⟩
        rw [← List.nil_append before, ← Effect.exchanges_of_silent silent reply]
        exact .perform reply reaches
      · obtain ⟨request, rfl⟩ := Effect.eq_call_of_not_silent silent
        cases before with
        | nil =>
            cases whole
            exact ⟨resume, .refl _, rest⟩
        | cons first others =>
            injection whole with isFirst whole
            obtain ⟨next, reaches, onward⟩ := inductionHypothesis whole
            subst isFirst
            exact ⟨next, .perform reply reaches, onward⟩

/-- What is left of a program meets the same as the program did. -/
theorem Meets.of_leads
    {program last : Program Time Result}
    {history : History}
    (meets : program.Meets permits ends past)
    (leads : program.Leads history last) :
    last.Meets permits ends (past ++ history) := by
  induction leads generalizing past with
  | refl program =>
      rw [List.append_nil]
      exact meets
  | perform reply rest inductionHypothesis =>
      rw [← List.append_assoc]
      exact inductionHypothesis (meets.2 reply)

/-- Every run of a program ends as the program meets. -/
theorem Meets.of_runs
    {program : Program Time Result}
    {history : History}
    {outcome : Except Fault Result}
    (meets : program.Meets permits ends past)
    (runs : program.Runs history outcome) :
    ends (past ++ history) outcome :=
  meets.of_leads runs

/-! ## Following a run -/

/--
Follow a program while its calls are answered from a list.  The clock and the
context stand still; the run pauses at the first call without an answer.
-/
def follow (time : Time) (context : AmbientContext) :
    Program Time Result → List (Except Fault Json) → History × Program Time Result
  | done outcome, _ => ([], done outcome)
  | perform effect resume, answers =>
      match effect.request?, answers with
      | some _, [] => ([], perform effect resume)
      | some _, answer :: rest =>
          let reply := effect.reply time context answer
          let later := (resume reply).follow time context rest
          (effect.exchanges reply ++ later.1, later.2)
      | none, answers =>
          let reply := effect.reply time context (.error .missingCredentials)
          let later := (resume reply).follow time context answers
          (effect.exchanges reply ++ later.1, later.2)

/-- A program that is followed leads to where it pauses or ends. -/
theorem leads_follow
    (time : Time)
    (context : AmbientContext)
    (program : Program Time Result)
    (answers : List (Except Fault Json)) :
    program.Leads (program.follow time context answers).1
      (program.follow time context answers).2 := by
  induction program generalizing answers with
  | done outcome =>
      exact .refl _
  | perform effect resume inductionHypothesis =>
      unfold follow
      split
      · exact .refl _
      · exact .perform _ (inductionHypothesis _ _)
      · exact .perform _ (inductionHypothesis _ _)

/-- A run may be checked by following it with its own answers. -/
theorem leads_of_follow
    (time : Time)
    (context : AmbientContext)
    {program last : Program Time Result}
    {history : History}
    (followed :
      program.follow time context (history.map Exchange.answer) = (history, last)) :
    program.Leads history last := by
  have leads := leads_follow time context program (history.map Exchange.answer)
  rw [followed] at leads
  exact leads

end Program

end PolicyReconciler

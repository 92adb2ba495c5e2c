import PolicyReconciler.Proofs.Program.History

namespace PolicyReconciler

/-!
# Chronicles of programs

Those who watch a run see more of it than the services do: counters, durations, log
lines and events stand between the exchanges.  A chronicle keeps all of these marks
in order; clocks, pauses, spans and the times that limiters note leave none.

`Program.Leaves` lists the finished runs of a program with their chronicles.  The
exchanges in a chronicle are the history of the run.
-/

/-- One thing that a run lets others see. -/
inductive Mark where
  | exchanged (exchange : Exchange)
  | counted (counter : Counter)
  | timed (histogram : Histogram)
  | logged (record : LogRecord)
  | emitted (event : Event)

/-- The marks of a run, the oldest first. -/
abbrev Chronicle := List Mark

namespace Mark

/-- The exchange that a mark tells of, if it tells of one. -/
def exchange? : Mark → Option Exchange
  | exchanged exchange => some exchange
  | _ => none

/-- The counter that a mark tells of, if it tells of one. -/
def counter? : Mark → Option Counter
  | counted counter => some counter
  | _ => none

/-- The distribution that a mark tells of, if it tells of one. -/
def histogram? : Mark → Option Histogram
  | timed histogram => some histogram
  | _ => none

/-- The line that a mark tells of, if it tells of one. -/
def line? : Mark → Option LogRecord
  | logged record => some record
  | _ => none

/-- The event that a mark tells of, if it tells of one. -/
def event? : Mark → Option Event
  | emitted event => some event
  | _ => none

end Mark

namespace Chronicle

/-- The exchanges with the services. -/
abbrev exchanges (chronicle : Chronicle) : History :=
  chronicle.filterMap Mark.exchange?

/-- The counters that were raised, once for each time. -/
abbrev counters (chronicle : Chronicle) : List Counter :=
  chronicle.filterMap Mark.counter?

/-- The histograms that a duration was added to, once for each duration. -/
abbrev timings (chronicle : Chronicle) : List Histogram :=
  chronicle.filterMap Mark.histogram?

/-- The lines of a chronicle, in order. -/
abbrev lines (chronicle : Chronicle) : List LogRecord :=
  chronicle.filterMap Mark.line?

/-- The events of a chronicle, in order. -/
abbrev events (chronicle : Chronicle) : List Event :=
  chronicle.filterMap Mark.event?

variable (first second : Chronicle)

/-- The exchanges of joined chronicles are the joined exchanges. -/
theorem exchanges_append :
    exchanges (first ++ second) = exchanges first ++ exchanges second :=
  List.filterMap_append

/-- The counters of joined chronicles are the joined counters. -/
theorem counters_append :
    counters (first ++ second) = counters first ++ counters second :=
  List.filterMap_append

/-- The timings of joined chronicles are the joined timings. -/
theorem timings_append :
    timings (first ++ second) = timings first ++ timings second :=
  List.filterMap_append

/-- The events of joined chronicles are the joined events. -/
theorem events_append : events (first ++ second) = events first ++ events second :=
  List.filterMap_append

end Chronicle

namespace Effect

variable {Time : Type}

/-- What an effect and its reply add to a chronicle. -/
def marks : (effect : Effect Time) → effect.Reply → Chronicle
  | .call request, answer => [.exchanged ⟨request, answer⟩]
  | .count counter, _ => [.counted counter]
  | .observe histogram _, _ => [.timed histogram]
  | .log record, _ => [.logged record]
  | .emit event, _ => [.emitted event]
  | _, _ => []

/-- The marks of an effect show its exchange, if it makes one. -/
theorem exchanges_marks (effect : Effect Time) (reply : effect.Reply) :
    Chronicle.exchanges (effect.marks reply) = effect.exchanges reply := by
  cases effect <;> rfl

end Effect

namespace Program

variable {Time Result Other : Type}

/-- The finished runs of a program: what others saw of it, and how it ended. -/
inductive Leaves :
    Program Time Result → Chronicle → Except Fault Result → Prop where
  | done (outcome : Except Fault Result) :
      Leaves (done outcome) [] outcome
  | perform
      {effect : Effect Time}
      {resume : effect.Reply → Program Time Result}
      {chronicle : Chronicle}
      {outcome : Except Fault Result}
      (reply : effect.Reply)
      (rest : Leaves (resume reply) chronicle outcome) :
      Leaves (perform effect resume) (effect.marks reply ++ chronicle) outcome

namespace Leaves

variable {chronicle : Chronicle}
variable {outcome : Except Fault Result}

/-- A program that has ended leaves nothing. -/
theorem done_inv
    {ended : Except Fault Result}
    (leaves : (Program.done ended : Program Time Result).Leaves chronicle outcome) :
    chronicle = [] ∧ outcome = ended := by
  cases leaves
  exact ⟨rfl, rfl⟩

/-- A program leaves the marks of its first effect, then those of the rest. -/
theorem perform_inv
    {effect : Effect Time}
    {resume : effect.Reply → Program Time Result}
    (leaves : (Program.perform effect resume).Leaves chronicle outcome) :
    ∃ reply later, chronicle = effect.marks reply ++ later ∧
      (resume reply).Leaves later outcome := by
  cases leaves with
  | perform reply rest =>
      exact ⟨reply, _, rfl, rest⟩

/--
A run of a program that goes on is a run of the first part and one of the rest.
-/
theorem followedBy_inv
    {program : Program Time Other}
    {next : Except Fault Other → Program Time Result}
    (leaves : (program.followedBy next).Leaves chronicle outcome) :
    ∃ first reached second, chronicle = first ++ second ∧
      program.Leaves first reached ∧ (next reached).Leaves second outcome := by
  induction program generalizing chronicle with
  | done reached =>
      exact ⟨[], reached, chronicle, rfl, .done reached, leaves⟩
  | perform effect resume inductionHypothesis =>
      obtain ⟨reply, later, rfl, rest⟩ := leaves.perform_inv
      obtain ⟨first, reached, second, rfl, before, after⟩ :=
        inductionHypothesis reply rest
      exact ⟨effect.marks reply ++ first, reached,
        second, by rw [List.append_assoc], .perform reply before, after⟩

/-- A program that goes on fails in its first part or leaves both parts. -/
theorem bind_inv
    {program : Program Time Other}
    {next : Other → Program Time Result}
    (leaves : (program >>= next).Leaves chronicle outcome) :
    (∃ fault, program.Leaves chronicle (.error fault) ∧ outcome = .error fault) ∨
      ∃ first result second, chronicle = first ++ second ∧
        program.Leaves first (.ok result) ∧
        (next result).Leaves second outcome := by
  obtain ⟨first, reached, second, rfl, before, after⟩ := leaves.followedBy_inv
  cases reached with
  | ok result =>
      exact .inr ⟨first, result, second, rfl, before, after⟩
  | error fault =>
      obtain ⟨rfl, rfl⟩ := after.done_inv
      rw [List.append_nil]
      exact .inl ⟨fault, before, rfl⟩

/-- The exchanges of a chronicle are the history of the same run. -/
theorem runs
    {program : Program Time Result}
    (leaves : program.Leaves chronicle outcome) :
    program.Runs (Chronicle.exchanges chronicle) outcome := by
  induction leaves with
  | done outcome =>
      exact .refl _
  | perform reply rest inductionHypothesis =>
      rw [Chronicle.exchanges_append, Effect.exchanges_marks]
      exact .perform reply inductionHypothesis

end Leaves

/-! ## Programs with one chronicle -/

/--
Whether every run of a program leaves the same chronicle and ends in the same way.
-/
def Always (program : Program Time Result) (chronicle : Chronicle)
    (outcome : Except Fault Result) : Prop :=
  ∀ seen reached, program.Leaves seen reached → seen = chronicle ∧ reached = outcome

namespace Always

variable {chronicle : Chronicle}
variable {outcome : Except Fault Result}

theorem done (outcome : Except Fault Result) :
    (Program.done outcome : Program Time Result).Always [] outcome :=
  fun _ _ leaves => leaves.done_inv

/-- An effect without marks changes nothing in what is left. -/
theorem perform_unmarked
    {effect : Effect Time}
    {resume : effect.Reply → Program Time Result}
    (unmarked : ∀ reply, effect.marks reply = [])
    (rest : ∀ reply, (resume reply).Always chronicle outcome) :
    (Program.perform effect resume).Always chronicle outcome := by
  intro _ _ leaves
  obtain ⟨reply, later, rfl, after⟩ := leaves.perform_inv
  obtain ⟨rfl, rfl⟩ := rest reply _ _ after
  exact ⟨by rw [unmarked reply, List.nil_append], rfl⟩

/-- Behind a part that always leaves the same, the rest is left. -/
theorem bind_inv
    {program : Program Time Other}
    {result : Other}
    {next : Other → Program Time Result}
    {first seen : Chronicle}
    {reached : Except Fault Result}
    (always : program.Always first (.ok result))
    (leaves : (program >>= next).Leaves seen reached) :
    ∃ later, seen = first ++ later ∧ (next result).Leaves later reached := by
  obtain ⟨_, _, later, rfl, before, after⟩ := Leaves.followedBy_inv leaves
  obtain ⟨rfl, rfl⟩ := always _ _ before
  exact ⟨later, rfl, after⟩

/-- A program that goes on always leaves both parts. -/
theorem bind
    {program : Program Time Other}
    {result : Other}
    {next : Other → Program Time Result}
    {first : Chronicle}
    (always : program.Always first (.ok result))
    (rest : (next result).Always chronicle outcome) :
    (program >>= next).Always (first ++ chronicle) outcome := by
  intro _ _ leaves
  obtain ⟨later, rfl, after⟩ := always.bind_inv leaves
  obtain ⟨rfl, rfl⟩ := rest _ _ after
  exact ⟨rfl, rfl⟩

/-- A single effect with fixed marks. -/
theorem effect
    {effect : Effect Time}
    {resume : effect.Reply → Program Time Result}
    (marked : ∀ reply, effect.marks reply = chronicle)
    (ended : ∀ reply, resume reply = Program.done outcome) :
    (Program.perform effect resume).Always chronicle outcome := by
  intro _ _ leaves
  obtain ⟨reply, later, rfl, after⟩ := leaves.perform_inv
  rw [ended reply] at after
  obtain ⟨rfl, rfl⟩ := after.done_inv
  exact ⟨by rw [marked reply, List.append_nil], rfl⟩

theorem count (counter : Counter) :
    (Program.count counter : Program Time Unit).Always
      [.counted counter] (.ok ()) :=
  effect (fun _ => rfl) fun _ => rfl

theorem emit (event : Event) :
    (Program.emit event : Program Time Unit).Always [.emitted event] (.ok ()) :=
  effect (fun _ => rfl) fun _ => rfl

theorem pause (length : Pause Time) :
    (Program.pause length).Always [] (.ok ()) :=
  effect (fun _ => rfl) fun _ => rfl

theorem readClock_bind
    {next : Time → Program Time Result}
    (rest : ∀ time, (next time).Always chronicle outcome) :
    (Program.readClock >>= next).Always chronicle outcome := by
  intro _ _ leaves
  obtain ⟨time, _, rfl, after⟩ := Leaves.perform_inv leaves
  exact rest time _ _ after

/-- A duration is measured up to some moment, and its histogram is marked. -/
theorem observe_since [TimeScale Time] (histogram : Histogram) (start : Time) :
    (Program.readClock >>= fun stop =>
      Program.observe histogram (TimeScale.since stop start)).Always
        [.timed histogram] (.ok ()) :=
  readClock_bind fun _ => effect (fun _ => rfl) fun _ => rfl

end Always

namespace Leaves

variable {chronicle : Chronicle}
variable {outcome : Except Fault Result}

/-- The clock leaves no mark. -/
theorem readClock_inv
    {next : Time → Program Time Result}
    (leaves : (Program.readClock >>= next).Leaves chronicle outcome) :
    ∃ time, (next time).Leaves chronicle outcome := by
  obtain ⟨time, later, rfl, rest⟩ := Leaves.perform_inv leaves
  exact ⟨time, rest⟩

/-- A last program that always ends well keeps the outcome of the first. -/
theorem ensuring_inv
    {program : Program Time Result}
    {last : Program Time Unit}
    {closing : Chronicle}
    (closes : last.Always closing (.ok ()))
    (leaves : (program.ensuring last).Leaves chronicle outcome) :
    ∃ first, chronicle = first ++ closing ∧ program.Leaves first outcome := by
  obtain ⟨first, reached, second, rfl, before, after⟩ := leaves.followedBy_inv
  obtain ⟨_, _, ended, rfl, closed, kept⟩ := after.followedBy_inv
  obtain ⟨rfl, rfl⟩ := closes _ _ closed
  obtain ⟨rfl, rfl⟩ := kept.done_inv
  exact ⟨first, by rw [List.append_nil], before⟩

end Leaves

/-! ## Laws of all chronicles -/

/-- A law that holds of a chronicle of two parts if it holds of the parts. -/
structure Additive (law : Chronicle → Prop) : Prop where
  nil : law []
  append : ∀ {first second}, law first → law second → law (first ++ second)

/-- An additive law that holds of all parts holds of the whole. -/
theorem Additive.flatMap
    {law : Chronicle → Prop}
    {Part : Type}
    {parts : List Part}
    {chronicle : Part → Chronicle}
    (additive : Additive law)
    (each : ∀ part ∈ parts, law (chronicle part)) :
    law (parts.flatMap chronicle) := by
  induction parts with
  | nil =>
      exact additive.nil
  | cons part rest inductionHypothesis =>
      obtain ⟨first, others⟩ := List.forall_mem_cons.mp each
      exact additive.append first (inductionHypothesis others)

/-- Whether a law holds of every chronicle of a program. -/
def Obeys (law : Chronicle → Prop) (program : Program Time Result) : Prop :=
  ∀ chronicle outcome, program.Leaves chronicle outcome → law chronicle

namespace Obeys

variable {law : Chronicle → Prop}

theorem done (additive : Additive law) (outcome : Except Fault Result) :
    (Program.done outcome : Program Time Result).Obeys law := by
  intro _ _ leaves
  obtain ⟨rfl, -⟩ := leaves.done_inv
  exact additive.nil

/-- A law that each effect obeys. -/
theorem perform
    {effect : Effect Time}
    {resume : effect.Reply → Program Time Result}
    (additive : Additive law)
    (first : ∀ reply, law (effect.marks reply))
    (rest : ∀ reply, (resume reply).Obeys law) :
    (Program.perform effect resume).Obeys law := by
  intro _ _ leaves
  obtain ⟨reply, later, rfl, after⟩ := leaves.perform_inv
  exact additive.append (first reply) (rest reply _ _ after)

/-- Programs that obey a law obey it one after the other. -/
theorem followedBy
    {program : Program Time Result}
    {next : Except Fault Result → Program Time Other}
    (additive : Additive law)
    (first : program.Obeys law)
    (rest : ∀ outcome, (next outcome).Obeys law) :
    (program.followedBy next).Obeys law := by
  intro _ _ leaves
  obtain ⟨_, reached, _, rfl, before, after⟩ := leaves.followedBy_inv
  exact additive.append (first _ _ before) (rest reached _ _ after)

end Obeys

/-! ## Watching a run -/

/--
Watch a program while its calls are answered from a list, and as misused after its
end. The clock and the context stand still.
-/
def watch (time : Time) (context : AmbientContext) :
    Program Time Result → List (Except Fault Json) → Chronicle × Except Fault Result
  | done outcome, _ => ([], outcome)
  | perform effect resume, answers =>
      let reply :=
        effect.reply time context (answers.headD (.error .missingCredentials))
      let left := if effect.request?.isSome then answers.tail else answers
      let later := (resume reply).watch time context left
      (effect.marks reply ++ later.1, later.2)

/-- What is watched is a run. -/
theorem leaves_watch
    (time : Time)
    (context : AmbientContext)
    (program : Program Time Result)
    (answers : List (Except Fault Json)) :
    program.Leaves (program.watch time context answers).1
      (program.watch time context answers).2 := by
  induction program generalizing answers with
  | done outcome =>
      exact .done outcome
  | perform effect resume inductionHypothesis =>
      exact .perform _ (inductionHypothesis _ _)

end Program

end PolicyReconciler

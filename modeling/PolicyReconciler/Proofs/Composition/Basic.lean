import PolicyReconciler.Observation.Log
import PolicyReconciler.Proofs.Composition.Faults

namespace PolicyReconciler

/-!
# Programs that are composed alike

A program is composed of whole parts, of effects that describe the work, and of
other effects that are allowed in between.  Two programs are composed alike if they
are put together in the same way, and go on in the same way after faults that are
alike.  What holds of the parts and of the effects passes from there to the whole: a
law of one program by the first of the two, a relation of two programs by both.
-/

open Program

variable {Time : Type}

/-! ## Effects -/

/-- The keys under which a line identifies the span around it. -/
def spanKeys : List String :=
  ["trace_id", "span_id"]

/--
Whether an effect only describes the work: log lines, spans and correlation ids.
-/
def Effect.Describes : Effect Time → Prop
  | .log _ | .readContext | .enterCorrelation _ | .leaveCorrelation
  | .openSpan .. | .annotateSpan .. | .closeSpan _ => True
  | _ => False

/--
Whether an effect describes the work and does not depend on what surrounds it.
-/
def Effect.Recounts : Effect Time → Prop
  | .log record => record.source ≠ .handler
  | .enterCorrelation _ | .leaveCorrelation
  | .openSpan .. | .annotateSpan .. | .closeSpan _ => True
  | _ => False

/-- What recounts the work describes it. -/
theorem Effect.Recounts.describes
    {effect : Effect Time}
    (recounts : effect.Recounts) :
    effect.Describes := by
  cases effect <;> trivial

/-! ## Composition -/

/-- A choice of programs that are taken as they are. -/
abbrev Parts (Time : Type) : Type 1 :=
  (Result : Type) → Program Time Result → Prop

/--
Programs that are put together in the same way from parts, from effects that
describe the work and from other effects that are allowed, and that go on alike
after alike faults.
-/
inductive Composed (order : Redaction.FieldOrder) (parts : Parts Time)
    (loose : Effect Time → Prop) :
    {Result : Type} → Program Time Result → Program Time Result → Prop where
  | done {Result : Type} {first second : Except Fault Result}
      (alike : AlikeOutcomes order first second) :
      Composed order parts loose (Program.done first) (Program.done second)
  | perform {Result : Type} {effect : Effect Time}
      {first second : effect.Reply → Program Time Result}
      (allowed : effect.Recounts ∨ loose effect)
      (rest : ∀ reply, Composed order parts loose (first reply) (second reply)) :
      Composed order parts loose (Program.perform effect first)
        (Program.perform effect second)
  | part {Result : Type} {program : Program Time Result}
      (isPart : parts Result program) :
      Composed order parts loose program program
  | followedBy {Result Other : Type} {first second : Program Time Result}
      {next next' : Except Fault Result → Program Time Other}
      (start : Composed order parts loose first second)
      (rest : ∀ outcome outcome', AlikeOutcomes order outcome outcome' →
        Composed order parts loose (next outcome) (next' outcome')) :
      Composed order parts loose (first.followedBy next) (second.followedBy next')
  /-- The client's report of an error answer, which holds the text of the answer. -/
  | failure {Result : Type} {error error' : ServiceError}
      {first second : Unit → Program Time Result}
      (activity : String)
      (alike : (Fault.service error).Alike order (.service error'))
      (rest : Composed order parts loose (first ()) (second ())) :
      Composed order parts loose
        (Program.perform (.log (VpcLattice.failureLine activity (.service error)))
          first)
        (Program.perform (.log (VpcLattice.failureLine activity (.service error')))
          second)
  /-- The end of a span in which the work has failed. -/
  | closeSpan {Result : Type} {fault fault' : Fault}
      {first second : Unit → Program Time Result}
      (alike : fault.Alike order fault')
      (rest : Composed order parts loose (first ()) (second ())) :
      Composed order parts loose (Program.perform (.closeSpan (some fault)) first)
        (Program.perform (.closeSpan (some fault')) second)
  /-- A line about a resource, whose extra fields do not name a span. -/
  | line {entry : LogEntry} {level : LogLevel}
      (leveled : entry.level = some level.json)
      (unnamed : ∀ field ∈ entry.extra, field.1 ∉ spanKeys) :
      Composed order parts loose (entry.write .handler) (entry.write .handler)

/--
A program that is composed of parts and of loose effects, with the redaction of an
operator.
-/
abbrev Program.MadeOf
    {Result : Type}
    (program : Program Time Result)
    (operator : Operator Time)
    (parts : Parts Time)
    (loose : Effect Time → Prop) :
    Prop :=
  Composed operator.redaction parts loose program program

namespace Composed

variable {order : Redaction.FieldOrder}
variable {parts : Parts Time}
variable {loose : Effect Time → Prop}
variable {Result Other : Type}
variable {first second : Program Time Result}

/--
Whatever passes from the parts and effects of programs to the whole holds of the
first.
-/
theorem holds_first
    (Holds : Parts Time)
    (composed : Composed order parts loose first second)
    (done : ∀ {Result : Type} (outcome : Except Fault Result),
      Holds Result (Program.done outcome))
    (perform : ∀ {Result : Type} {effect : Effect Time}
      {resume : effect.Reply → Program Time Result},
      effect.Describes ∨ loose effect → (∀ reply, Holds Result (resume reply)) →
      Holds Result (Program.perform effect resume))
    (part : ∀ {Result : Type} {program : Program Time Result},
      parts Result program → Holds Result program)
    (followedBy : ∀ {Result Other : Type} {program : Program Time Result}
      {next : Except Fault Result → Program Time Other},
      Holds Result program → (∀ outcome, Holds Other (next outcome)) →
      Holds Other (program.followedBy next)) :
    Holds Result first := by
  induction composed with
  | done =>
      exact done _
  | perform allowed _ inductionHypothesis =>
      exact perform (allowed.imp_left Effect.Recounts.describes) inductionHypothesis
  | part isPart =>
      exact part isPart
  | followedBy _ _ startHypothesis restHypothesis =>
      exact followedBy startHypothesis fun outcome =>
        restHypothesis outcome outcome (.same outcome)
  | failure _ _ _ inductionHypothesis | closeSpan _ _ inductionHypothesis =>
      exact perform (.inl trivial) fun _ => inductionHypothesis
  | @line entry =>
      unfold LogEntry.write
      split
      · exact done _
      · refine perform (.inl trivial) fun context => ?_
        dsimp only [Program.followedBy, Program.finish]
        split
        · exact perform (.inl trivial) fun _ => done _
        · exact done _

/-- Parts may themselves be composed, of finer parts and of further effects. -/
theorem refined
    {finer : Parts Time}
    {wider : Effect Time → Prop}
    (composed : Composed order parts loose first second)
    (taken :
      ∀ {Result : Type} {program : Program Time Result}, parts Result program →
      Composed order finer wider program program)
    (weaker : ∀ effect, loose effect → wider effect) :
    Composed order finer wider first second := by
  induction composed with
  | done alike =>
      exact .done alike
  | perform allowed _ inductionHypothesis =>
      exact .perform (allowed.imp_right (weaker _)) inductionHypothesis
  | part isPart =>
      exact taken isPart
  | followedBy _ _ startHypothesis restHypothesis =>
      exact .followedBy startHypothesis restHypothesis
  | failure activity alike _ inductionHypothesis =>
      exact .failure activity alike inductionHypothesis
  | closeSpan alike _ inductionHypothesis =>
      exact .closeSpan alike inductionHypothesis
  | line leveled unnamed =>
      exact .line leveled unnamed

/-! ## Ways of composing -/

/-- A program that has ended is composed of nothing. -/
theorem ended (outcome : Except Fault Result) :
    Composed order parts loose (Program.done outcome : Program Time Result)
      (Program.done outcome) :=
  .done (.same outcome)

/-- Faults that are alike. -/
theorem fail
    {fault fault' : Fault}
    (alike : fault.Alike order fault') :
    Composed order parts loose (Program.fail fault : Program Time Result)
      (Program.fail fault') :=
  .done (.error alike)

/-- A program that goes on with its result. -/
theorem bind
    {next next' : Result → Program Time Other}
    (start : Composed order parts loose first second)
    (rest : ∀ result, Composed order parts loose (next result) (next' result)) :
    Composed order parts loose (first >>= next) (second >>= next') := by
  refine .followedBy start fun outcome outcome' alike => ?_
  cases alike with
  | ok result =>
      exact rest result
  | error alike =>
      exact .fail alike

/-- A program with a handler for its faults. -/
theorem recover
    {handler handler' : Fault → Program Time Result}
    (start : Composed order parts loose first second)
    (rest : ∀ fault fault' : Fault, fault.Alike order fault' →
      Composed order parts loose (handler fault) (handler' fault')) :
    Composed order parts loose (first.recover handler)
      (second.recover handler') := by
  refine .followedBy start fun outcome outcome' alike => ?_
  cases alike with
  | ok result =>
      exact .ended _
  | error alike =>
      exact rest _ _ alike

/-- A program with something to do at its end. -/
theorem ensuring
    {last last' : Program Time Unit}
    (start : Composed order parts loose first second)
    (closing : Composed order parts loose last last') :
    Composed order parts loose (first.ensuring last) (second.ensuring last') := by
  refine .followedBy start fun outcome outcome' alike =>
    .followedBy closing fun _ _ closed => ?_
  cases closed with
  | ok _ =>
      exact .done alike
  | error alike' =>
      exact .fail alike'

/-- One effect whose reply is the result, or does not matter. -/
theorem single
    {effect : Effect Time}
    {ending : effect.Reply → Program Time Result}
    (allowed : effect.Recounts ∨ loose effect)
    (ends : ∀ reply, ∃ outcome, ending reply = Program.done outcome) :
    Composed order parts loose (Program.perform effect ending)
      (Program.perform effect ending) := by
  refine .perform allowed fun reply => ?_
  obtain ⟨outcome, isEnding⟩ := ends reply
  rw [isEnding]
  exact .ended outcome

/-- A counter that may be counted. -/
theorem count
    {counter : Counter}
    (allowed : loose (.count counter)) :
    Composed order parts loose (Program.count counter) (Program.count counter) :=
  .single (.inr allowed) fun _ => ⟨_, rfl⟩

/-- An event that may be told. -/
theorem emit
    {event : Event}
    (allowed : loose (.emit event)) :
    Composed order parts loose (Program.emit event) (Program.emit event) :=
  .single (.inr allowed) fun _ => ⟨_, rfl⟩

/-- A duration that may be observed. -/
theorem observe
    {histogram : Histogram}
    {duration : Time}
    (allowed : loose (.observe histogram duration)) :
    Composed order parts loose (Program.observe histogram duration)
      (Program.observe histogram duration) :=
  .single (.inr allowed) fun _ => ⟨_, rfl⟩

/-- The clock, if it may be read. -/
theorem readClock
    (allowed : loose .readClock) :
    Composed order parts loose (Program.readClock : Program Time Time)
      Program.readClock :=
  .single (.inr allowed) fun _ => ⟨_, rfl⟩

/-- A line that does not look at what surrounds it. -/
theorem log
    {source : LogSource}
    (level : LogLevel)
    (message : String)
    (plain : source ≠ .handler) :
    Composed order parts loose (Program.log level source message)
      (Program.log level source message) :=
  .single (.inl plain) fun _ => ⟨_, rfl⟩

/-- A program inside a span. -/
theorem withSpan
    (name kind : Json)
    (attributes : Members)
    (inner : Composed order parts loose first second) :
    Composed order parts loose (Program.withSpan name kind attributes first)
      (Program.withSpan name kind attributes second) := by
  refine .perform (.inl trivial) fun _ =>
    .followedBy inner fun outcome outcome' alike => ?_
  cases alike with
  | ok result =>
      exact .perform (.inl trivial) fun _ => .ended _
  | error alike =>
      exact .closeSpan alike (.fail alike)

/-- A program inside a correlation. -/
theorem withCorrelation
    (correlation : Json)
    (inner : Composed order parts loose first second) :
    Composed order parts loose (Program.withCorrelation correlation first)
      (Program.withCorrelation correlation second) :=
  .perform (.inl trivial) fun _ =>
    inner.ensuring (.single (.inl trivial) fun _ => ⟨_, rfl⟩)

end Composed

end PolicyReconciler

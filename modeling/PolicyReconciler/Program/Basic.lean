import PolicyReconciler.Program.Effect

namespace PolicyReconciler

/-!
# Programs

A program performs effects one after the other and ends with a result or a
fault.  It is a tree: what it does next may depend on the replies, and every
branch ends.  A handler that answers effects from a state runs a program; other
readings of the same tree are possible, such as several programs taking turns.
-/

/-- A tree of effects with outcomes at its leaves. -/
inductive Program (Time : Type) (Result : Type) where
  | done (outcome : Except Fault Result)
  | perform (effect : Effect Time) (resume : effect.Reply → Program Time Result)

namespace Program

variable {Time Result Other : Type}

/-- Run a program and go on with whatever its outcome is. -/
def followedBy
    (program : Program Time Result)
    (next : Except Fault Result → Program Time Other) :
    Program Time Other :=
  match program with
  | done outcome => next outcome
  | perform effect resume => perform effect fun reply =>
      (resume reply).followedBy next

/-- Continuing a program twice continues it by the joined continuation. -/
theorem followedBy_followedBy
    {Last : Type}
    (program : Program Time Result)
    (next : Except Fault Result → Program Time Other)
    (last : Except Fault Other → Program Time Last) :
    (program.followedBy next).followedBy last =
      program.followedBy fun outcome => (next outcome).followedBy last := by
  induction program with
  | done outcome =>
      rfl
  | perform effect resume inductionHypothesis =>
      simp only [followedBy, inductionHypothesis]

/-- A program that is only ended after it ends is that program. -/
theorem followedBy_done (program : Program Time Result) :
    program.followedBy done = program := by
  induction program with
  | done outcome =>
      rfl
  | perform effect resume inductionHypothesis =>
      simp only [followedBy, inductionHypothesis]

/-- The program that ends with a result. -/
def finish (result : Result) : Program Time Result :=
  done (.ok result)

/-- The program that ends with a fault. -/
def fail (fault : Fault) : Program Time Result :=
  done (.error fault)

/-- Go on with the result of a program; a fault ends both. -/
def andThen
    (program : Program Time Result)
    (next : Result → Program Time Other) :
    Program Time Other :=
  program.followedBy fun
    | .ok result => next result
    | .error fault => fail fault

instance : Monad (Program Time) where
  pure := finish
  bind := andThen

/-- Go on after a fault. -/
def recover
    (program : Program Time Result)
    (handler : Fault → Program Time Result) :
    Program Time Result :=
  program.followedBy fun
    | .ok result => finish result
    | .error fault => handler fault

/-- Run a last program whatever the outcome of the first, which is kept. -/
def ensuring
    (program : Program Time Result)
    (last : Program Time Unit) :
    Program Time Result :=
  program.followedBy fun outcome =>
    last.followedBy fun
      | .ok _ => done outcome
      | .error fault => fail fault

/-- The program that ends as told, with a result or a fault. -/
def ofExcept (outcome : Except Fault Result) : Program Time Result :=
  done outcome

/-- A request to an outside system, and its answer. -/
def call (request : Call) : Program Time Json :=
  perform (.call request) done

/-- The time on the clock. -/
def readClock : Program Time Time :=
  perform .readClock finish

/-- The place at which a line would be written now. -/
def readContext : Program Time AmbientContext :=
  perform .readContext finish

/-- A pause of a given length. -/
def pause (length : Pause Time) : Program Time Unit :=
  perform (.pause length) finish

/-- One more of a counter. -/
def count (counter : Counter) : Program Time Unit :=
  perform (.count counter) finish

/-- One more observed duration. -/
def observe (histogram : Histogram) (duration : Time) : Program Time Unit :=
  perform (.observe histogram duration) finish

/-- A line of the log. -/
def log
    (level : LogLevel)
    (source : LogSource)
    (message : String) :
    Program Time Unit :=
  perform (.log ⟨level, source, message⟩) finish

/-- An event on a record. -/
def emit (event : Event) : Program Time Unit :=
  perform (.emit event) finish

/-- A program whose lines carry a correlation, however it ends. -/
def withCorrelation (correlation : Json) (program : Program Time Result) :
    Program Time Result :=
  perform (.enterCorrelation correlation) fun _ =>
    program.ensuring (perform .leaveCorrelation finish)

/-- The attributes of a span for a kind of resource; an empty kind adds nothing. -/
def spanAttributes (kind : Json) (attributes : Members) : Members :=
  if kind.truthy then attributes.set "resource.kind" kind else attributes

/-- Run a program inside a span; a fault that leaves it is recorded. -/
def withSpan (name : Json) (kind : Json) (attributes : Members)
    (program : Program Time Result) : Program Time Result :=
  perform (.openSpan name (spanAttributes kind attributes)) fun _ =>
    program.followedBy fun
      | .ok result => perform (.closeSpan none) fun _ => finish result
      | .error fault => perform (.closeSpan (some fault)) fun _ => fail fault

/-- An attribute of the innermost span. -/
def annotateSpan (key : String) (value : Json) : Program Time Unit :=
  perform (.annotateSpan key value) finish

/-- Run a program with a handler that answers effects from a state. -/
def run {State : Type}
    (handle : (effect : Effect Time) → State → effect.Reply × State)
    (program : Program Time Result)
    (state : State) :
    Except Fault Result × State :=
  match program with
  | done outcome => (outcome, state)
  | perform effect resume =>
      let answer := handle effect state
      (resume answer.1).run handle answer.2

/--
A continued program runs its first part, then the continuation from the state
left.
-/
theorem run_followedBy
    {State : Type}
    (handle : (effect : Effect Time) → State → effect.Reply × State)
    (program : Program Time Result)
    (next : Except Fault Result → Program Time Other)
    (state : State) :
    (program.followedBy next).run handle state =
      (next (program.run handle state).1).run handle
        (program.run handle state).2 := by
  induction program generalizing state with
  | done outcome =>
      rfl
  | perform effect resume inductionHypothesis =>
      simp only [followedBy, run, inductionHypothesis]

end Program

end PolicyReconciler

import PolicyReconciler.Limiter
import PolicyReconciler.Observation.Log
import PolicyReconciler.Proofs.Json.Members
import PolicyReconciler.Proofs.Program.History

namespace PolicyReconciler

/-!
# Quiet programs

Clocks, counters, log lines and events surround every call.  A quiet program is
one that only does such things: it makes no call, and its outcome does not
depend on the replies.  Waiting for the turn of a call is quiet too, and it
fails only for a rate of zero.
-/

namespace Program

variable {Time Result Other : Type}
variable {permits : History → Call → Prop}
variable {past : History}

/-- A program that makes no call and always ends with the same outcome. -/
def Quietly
    (program : Program Time Result)
    (outcome : Except Fault Result) :
    Prop :=
  ∀ permits past,
    program.Meets permits (fun after reached =>
      after = past ∧ reached = outcome) past

namespace Quietly

/-- A quiet program meets whatever its outcome meets. -/
theorem meets
    {program : Program Time Result}
    {outcome : Except Fault Result}
    {ends : History → Except Fault Result → Prop}
    (quiet : program.Quietly outcome)
    (ended : ends past outcome) :
    program.Meets permits ends past := by
  apply (quiet permits past).mono
  rintro _ _ ⟨rfl, rfl⟩
  exact ended

/-- After a quiet program only the rest matters. -/
theorem meets_bind
    {program : Program Time Result}
    {result : Result}
    {next : Result → Program Time Other}
    {ends : History → Except Fault Other → Prop}
    (quiet : program.Quietly (.ok result))
    (rest : (next result).Meets permits ends past) :
    (program >>= next).Meets permits ends past := by
  apply Meets.followedBy
  exact quiet.meets rest

/-- A program that is finished. -/
theorem finish (result : Result) :
    (Program.finish result : Program Time Result).Quietly (.ok result) :=
  fun _ _ => ⟨rfl, rfl⟩

/-- A program that has failed. -/
theorem fail (fault : Fault) :
    (Program.fail fault : Program Time Result).Quietly (.error fault) :=
  fun _ _ => ⟨rfl, rfl⟩

/-- A program that ends as told. -/
theorem ofExcept (outcome : Except Fault Result) :
    (Program.ofExcept outcome : Program Time Result).Quietly outcome :=
  fun _ _ => ⟨rfl, rfl⟩

/-- Two quiet programs, one after the other. -/
theorem bind
    {program : Program Time Result}
    {result : Result}
    {next : Result → Program Time Other}
    {outcome : Except Fault Other}
    (first : program.Quietly (.ok result))
    (rest : (next result).Quietly outcome) :
    (program >>= next).Quietly outcome :=
  fun permits past => first.meets_bind (rest permits past)

/-- A silent effect before a quiet program. -/
theorem perform
    {effect : Effect Time}
    {resume : effect.Reply → Program Time Result}
    {outcome : Except Fault Result}
    (silent : effect.Silent)
    (rest : ∀ reply, (resume reply).Quietly outcome) :
    (Program.perform effect resume).Quietly outcome :=
  fun permits past => Meets.silent silent fun reply => rest reply permits past

/--
A program that may make no further call and has one way to end does so quietly.
-/
theorem of_meets
    {program : Program Time Result}
    {outcome : Except Fault Result}
    {ends : History → Except Fault Result → Prop}
    (meets : program.Meets permits ends past)
    (silenced : ∀ request, ¬ permits past request)
    (only : ∀ reached, ends past reached → reached = outcome) :
    program.Quietly outcome := by
  induction program with
  | done reached =>
      intro _ _
      exact ⟨rfl, only reached meets⟩
  | perform effect resume inductionHypothesis =>
      by_cases silent : effect.Silent
      · apply perform silent
        intro reply
        apply inductionHypothesis
        have rest := meets.2 reply
        rwa [Effect.exchanges_of_silent silent, List.append_nil] at rest
      · obtain ⟨request, rfl⟩ := Effect.eq_call_of_not_silent silent
        exact absurd meets.1 (silenced request)

theorem count (counter : Counter) :
    (Program.count counter : Program Time Unit).Quietly (.ok ()) :=
  perform trivial finish

theorem observe (histogram : Histogram) (duration : Time) :
    (Program.observe histogram duration).Quietly (.ok ()) :=
  perform trivial finish

theorem log (level : LogLevel) (source : LogSource) (message : String) :
    (Program.log level source message : Program Time Unit).Quietly (.ok ()) :=
  perform trivial finish

theorem emit (event : Event) :
    (Program.emit event : Program Time Unit).Quietly (.ok ()) :=
  perform trivial finish

theorem pause (length : Pause Time) :
    (Program.pause length).Quietly (.ok ()) :=
  perform trivial finish

theorem annotateSpan (key : String) (value : Json) :
    (Program.annotateSpan key value : Program Time Unit).Quietly (.ok ()) :=
  perform trivial finish

theorem readClock_bind
    {next : Time → Program Time Result}
    {outcome : Except Fault Result}
    (rest : ∀ time, (next time).Quietly outcome) :
    (Program.readClock >>= next).Quietly outcome :=
  perform trivial rest

theorem readContext_bind
    {next : AmbientContext → Program Time Result}
    {outcome : Except Fault Result}
    (rest : ∀ context, (next context).Quietly outcome) :
    (Program.readContext >>= next).Quietly outcome :=
  perform trivial rest

end Quietly

namespace Meets

variable {ends : History → Except Fault Result → Prop}

theorem readClock_bind
    {next : Time → Program Time Result}
    (rest : ∀ time, (next time).Meets permits ends past) :
    (Program.readClock >>= next).Meets permits ends past :=
  silent trivial rest

/-- A quiet last program keeps what the first meets. -/
theorem ensuring_quietly
    {program : Program Time Result}
    {last : Program Time Unit}
    (first : program.Meets permits ends past)
    (quiet : last.Quietly (.ok ())) :
    (program.ensuring last).Meets permits ends past :=
  first.ensuring fun after => quiet permits after

/-- A span permits what its program permits. -/
theorem withSpan
    {program : Program Time Result}
    (name kind : Json)
    (attributes : Members)
    (inner : program.Meets permits ends past) :
    (Program.withSpan name kind attributes program).Meets permits ends past := by
  refine silent trivial fun _ => followedBy (inner.mono ?_)
  intro after outcome reached
  cases outcome with
  | ok result =>
      exact silent trivial fun _ => reached
  | error fault =>
      exact silent trivial fun _ => reached

end Meets

end Program

/-! ## Notes about records -/

open Program

variable {Time : Type}

/-- A line without clashing fields is always logged, or left out for its level. -/
theorem LogEntry.write_quietly
    (entry : LogEntry)
    (source : LogSource)
    (distinct : entry.clashes = false) :
    (entry.write source : Program Time Unit).Quietly (.ok ()) := by
  unfold LogEntry.write
  rw [if_neg (by simp [distinct])]
  refine Quietly.readContext_bind fun context => ?_
  cases LogLevel.ofJson? entry.givenLevel with
  | some level =>
      exact Quietly.log level source (entry.text context)
  | none =>
      exact Quietly.finish ()

namespace HandlerNote

/-- The names that a line's extra fields may not repeat. -/
def lineNames : List String :=
  "level" :: LogEntry.reservedNames

/-- A note about an object is logged if its fields clash with no field of a line. -/
theorem writeWith_quietly
    (note : HandlerNote)
    (kind : Json)
    (level : LogLevel)
    (defaultEvent defaultReason : String)
    (fields : Members)
    {metadata : Members}
    (described : note.metadata = .obj metadata)
    (distinct : ∀ field ∈ fields, field.1 ∉ lineNames) :
    (note.writeWith kind level defaultEvent defaultReason fields :
      Program Time Unit).Quietly (.ok ()) := by
  unfold writeWith
  rw [described]
  apply LogEntry.write_quietly
  simp only [LogEntry.clashes, List.any_eq_false]
  intro field member
  have apart : field.1 ∉ lineNames := distinct field member
  simp only [lineNames, List.mem_cons, not_or] at apart
  simp [apart.1, apart.2]

variable {note : HandlerNote} {metadata : Members}

/--
A note that informs is logged if its extra fields clash with no field of a line.
-/
theorem inform_quietly
    (kind : Json)
    (described : note.metadata = .obj metadata)
    (unreserved : note.clashes = false)
    (distinct : ∀ field ∈ note.extra, field.1 ∉ lineNames) :
    (note.inform kind : Program Time Unit).Quietly (.ok ()) := by
  unfold inform
  rw [if_neg (by simp [unreserved])]
  apply writeWith_quietly note kind _ _ _ _ described
  intro field member
  exact distinct field (List.mem_filter.mp member).1

/-- Redaction makes up no key. -/
theorem exists_mem_of_mem_redactMembersWith
    {order : Redaction.FieldOrder}
    {names : List String}
    {members : Members}
    {field : String × Json}
    (member : field ∈ Redaction.redactMembersWith order names members) :
    ∃ original ∈ members, original.1 = field.1 := by
  induction members with
  | nil =>
      simp [Redaction.redactMembersWith] at member
  | cons head rest inductionHypothesis =>
      rw [Redaction.redactMembersWith] at member
      rcases List.mem_cons.mp member with isHead | inRest
      · exact ⟨head, List.mem_cons_self, by rw [isHead]⟩
      · obtain ⟨original, inside, same⟩ := inductionHypothesis inRest
        exact ⟨original, List.mem_cons_of_mem head inside, same⟩

/-- A note about an error is logged too, with the fields that describe the fault. -/
theorem report_quietly
    (order : Redaction.FieldOrder)
    (kind : Json)
    (fault : Fault)
    (described : note.metadata = .obj metadata)
    (unreserved : note.clashes = false)
    (undescribed : Members.has note.extra "error" = false)
    (distinct : ∀ field ∈ note.extra, field.1 ∉ lineNames) :
    (note.report order kind (some fault) : Program Time Unit).Quietly (.ok ()) := by
  unfold report
  rw [if_neg (by simp [unreserved, undescribed])]
  apply writeWith_quietly note kind _ _ _ _ described
  intro field member
  rcases Members.mem_or_eq_of_mem_set member with before | rfl
  · rcases Members.mem_or_eq_of_mem_set before with redacted | rfl
    · obtain ⟨original, inside, same⟩ :=
        exists_mem_of_mem_redactMembersWith redacted
      rw [← same]
      exact distinct original (List.mem_filter.mp inside).1
    · simp [lineNames, LogEntry.reservedNames, LogEntry.fieldNames]
  · simp [lineNames, LogEntry.reservedNames, LogEntry.fieldNames]

end HandlerNote

/-! ## Turns -/

namespace Limiter

variable [TimeScale Time]

/-- Whether a call made at a rate ever gets its turn. -/
def turn (rate : Time) : Except Fault Unit :=
  if TimeScale.isZero rate then .error .divisionByZero else .ok ()

/-- A turn fails only for a rate of zero. -/
theorem turn_error
    {rate : Time}
    {fault : Fault}
    (halted : turn rate = .error fault) :
    fault = .divisionByZero := by
  unfold turn at halted
  split at halted <;> cases halted
  rfl

/-- Waiting for a turn is quiet. -/
theorem awaitTurn_quietly (rate : Time) (api : Api) :
    (awaitTurn rate api).Quietly (turn rate) := by
  refine Quietly.readClock_bind fun now => ?_
  unfold turn
  split
  · exact Quietly.fail .divisionByZero
  · have noting :
        (readClock >>= fun start : Time =>
          perform (.noteCall api start) finish).Quietly
          (.ok ()) :=
      Quietly.readClock_bind fun start => Quietly.perform trivial Quietly.finish
    refine Quietly.perform trivial fun last => ?_
    dsimp only [finish, followedBy]
    cases waitFor? (TimeScale.interval rate) last now with
    | some length =>
        exact (Quietly.pause (.span length)).bind noting
    | none =>
        exact (Quietly.finish ()).bind noting

/-- A limited request meets what its turn and its answers meet. -/
theorem limited_meets
    {permits : History → Call → Prop}
    {ends : History → Except Fault Json → Prop}
    {past : History}
    {rate : Time}
    {api : Api}
    {request : Call}
    (stalled : ∀ fault, turn rate = .error fault → ends past (.error fault))
    (permitted : permits past request)
    (answered : ∀ answer, ends (past ++ [⟨request, answer⟩]) answer) :
    (limited rate api (call request)).Meets permits ends past := by
  apply Meets.followedBy
  apply (awaitTurn_quietly rate api).meets
  cases ready : turn rate with
  | ok _ =>
      exact Meets.call permitted answered
  | error fault =>
      exact stalled fault ready

end Limiter

end PolicyReconciler

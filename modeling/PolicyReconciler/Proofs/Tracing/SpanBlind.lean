import PolicyReconciler.Proofs.Composition.Calls
import PolicyReconciler.Proofs.Tracing.Deeds

namespace PolicyReconciler

/-!
# Programs that do not depend on spans

A program is blind to spans if it looks at the context for one purpose only: to
write a line about a resource, in which the members that identify the span stand
together.  What such a program does, and how it ends, is the same on platforms that
differ in tracing.  All programs that are made of calls are blind to spans.
-/

open Program

/-! ## Lines that tell the span around them -/

namespace Members

/-- A key that does not occur is set at the end. -/
theorem set_of_absent
    {members : Members}
    {key : String}
    (value : Json)
    (absent : ∀ member ∈ members, member.1 ≠ key) :
    members.set key value = members ++ [(key, value)] := by
  induction members with
  | nil =>
      rfl
  | cons head rest inductionHypothesis =>
      obtain ⟨other, others⟩ := List.forall_mem_cons.mp absent
      simp only [Members.set, if_neg other, inductionHypothesis others,
        List.cons_append]

/-- A key that is absent in front is set behind. -/
theorem set_append_of_absent
    {front : Members}
    {key : String}
    (back : Members)
    (value : Json)
    (absent : ∀ member ∈ front, member.1 ≠ key) :
    Members.set (front ++ back) key value = front ++ back.set key value := by
  induction front with
  | nil =>
      rfl
  | cons head rest inductionHypothesis =>
      obtain ⟨other, others⟩ := List.forall_mem_cons.mp absent
      simp only [List.cons_append, Members.set, if_neg other,
        inductionHypothesis others]

/-- A key is set around members that do not have it. -/
theorem exists_set_around
    (front back : Members)
    (key : String)
    (value : Json) :
    ∃ front' back' : Members, ∀ inner : Members,
      (∀ member ∈ inner, member.1 ≠ key) →
      Members.set (front ++ inner ++ back) key value =
        front' ++ inner ++ back' := by
  induction front with
  | nil =>
      exact ⟨[], back.set key value, fun inner absent =>
        set_append_of_absent back value absent⟩
  | cons head rest inductionHypothesis =>
      obtain ⟨front', back', around⟩ := inductionHypothesis
      by_cases same : head.1 = key
      · exact ⟨(key, value) :: rest, back, fun inner _ => by
          simp only [List.cons_append, Members.set, if_pos same]⟩
      · exact ⟨head :: front', back', fun inner absent => by
          simp only [List.cons_append, Members.set, if_neg same,
            around inner absent]⟩

/-- Members are updated around others that share no key with the additions. -/
theorem exists_update_around
    (front back additions : Members) :
    ∃ front' back' : Members, ∀ inner : Members,
      (∀ member ∈ inner, ∀ addition ∈ additions, member.1 ≠ addition.1) →
      Members.update (front ++ inner ++ back) additions =
        front' ++ inner ++ back' := by
  induction additions generalizing front back with
  | nil =>
      exact ⟨front, back, fun _ _ => rfl⟩
  | cons addition rest inductionHypothesis =>
      obtain ⟨front₁, back₁, set⟩ :=
        exists_set_around front back addition.1 addition.2
      obtain ⟨front₂, back₂, updated⟩ := inductionHypothesis front₁ back₁
      refine ⟨front₂, back₂, fun inner apart => ?_⟩
      have head : ∀ member ∈ inner, member.1 ≠ addition.1 :=
        fun member inside => apart member inside addition List.mem_cons_self
      have others : ∀ member ∈ inner, ∀ addition ∈ rest, member.1 ≠ addition.1 :=
        fun member inside other within =>
          apart member inside other (List.mem_cons_of_mem _ within)
      rw [← updated inner others, ← set inner head]
      rfl

end Members

/-- The members of a span have the span's keys. -/
theorem AmbientContext.key_mem_spanKeys
    {context : AmbientContext}
    {member : String × Json}
    (inside : member ∈ context.spanLayer) :
    member.1 ∈ spanKeys := by
  obtain ⟨correlation, span⟩ := context
  cases span with
  | none =>
      cases inside
  | some span =>
      simp only [spanLayer, List.mem_cons, List.not_mem_nil, or_false] at inside
      rcases inside with rfl | rfl <;> simp [spanKeys]

/--
Whether a text is an object in which nothing but the members for the span varies
with it.
-/
def Locates (text : AmbientContext → String) : Prop :=
  ∀ correlation, ∃ front back : Members, ∀ span,
    text ⟨correlation, span⟩ =
      (Json.obj (front ++ AmbientContext.spanLayer
        ⟨correlation, span⟩ ++ back)).document

namespace LogEntry

/--
The members of a line before the extra fields, but for those that identify the span.
-/
def described (entry : LogEntry) (context : AmbientContext) : Members :=
  Members.update entry.fixedFields (context.describe [])

/-- The other members of a line have other keys. -/
theorem key_not_mem_spanKeys_of_described
    {entry : LogEntry}
    {context : AmbientContext}
    {member : String × Json}
    (inside : member ∈ entry.described context) :
    member.1 ∉ spanKeys := by
  have fixed : ∀ member ∈ entry.fixedFields, member.1 ∉ spanKeys := by
    simp [fixedFields, spanKeys]
  unfold described AmbientContext.describe AmbientContext.correlationMembers
    at inside
  split at inside
  · rcases Members.mem_or_eq_of_mem_set inside with before | rfl
    · exact fixed member before
    · simp [spanKeys]
  · exact fixed member inside

/--
The members for the span are written after the fixed fields and the correlation id.
-/
theorem located_eq (entry : LogEntry) (context : AmbientContext) :
    Members.update (entry.described context) context.spanLayer =
      entry.described context ++ context.spanLayer := by
  have absent :
      ∀ key ∈ spanKeys, ∀ member ∈ entry.described context, member.1 ≠ key := by
    rintro key known member inside rfl
    exact key_not_mem_spanKeys_of_described inside known
  cases located : context.span with
  | none =>
      have unmarked : context.spanLayer = [] := by
        rw [AmbientContext.spanLayer, located]
      rw [unmarked, List.append_nil]
      rfl
  | some span =>
      let trace : String × Json := ("trace_id", .str span.traceText)
      let number : String × Json := ("span_id", .str span.spanText)
      have marked : context.spanLayer = [trace] ++ [number] := by
        rw [AmbientContext.spanLayer, located]
        rfl
      have first :=
        Members.set_of_absent trace.2 (absent trace.1 (by simp [trace, spanKeys]))
      have next :
          ∀ member ∈ entry.described context ++ [trace], member.1 ≠ number.1 := by
        intro member inside
        rcases List.mem_append.mp inside with before | isTrace
        · exact absent number.1 (by simp [number, spanKeys]) member before
        · simp [List.mem_singleton.mp isTrace, trace, number]
      have second := Members.set_of_absent number.2 next
      rw [marked, ← List.append_assoc, ← second, ← first]
      rfl

/--
A line whose extra fields do not name a span tells the span around it and no other.
-/
theorem locates
    (entry : LogEntry)
    (unnamed : ∀ field ∈ entry.extra, field.1 ∉ spanKeys) :
    Locates entry.text := by
  intro correlation
  have same : ∀ span, entry.described ⟨correlation, span⟩ =
      entry.described ⟨correlation, none⟩ :=
    fun _ => rfl
  obtain ⟨front, back, around⟩ :=
    Members.exists_update_around (entry.described ⟨correlation, none⟩) []
      entry.writtenExtra
  refine ⟨front, back, fun span => ?_⟩
  have apart : ∀ member ∈ AmbientContext.spanLayer ⟨correlation, span⟩,
      ∀ field ∈ entry.writtenExtra, member.1 ≠ field.1 := by
    intro member inside field written clash
    apply unnamed field (List.mem_filter.mp written).1
    rw [← clash]
    exact AmbientContext.key_mem_spanKeys inside
  have fields : entry.fields ⟨correlation, span⟩ =
      Members.update (entry.described ⟨correlation, none⟩ ++
        AmbientContext.spanLayer ⟨correlation, span⟩ ++ []) entry.writtenExtra := by
    rw [List.append_nil, ← same span, ← located_eq,
      ← AmbientContext.spanMembers?_getD]
    rfl
  rw [text, fields, around _ apart]

end LogEntry

/-! ## Blind programs -/

namespace Program

variable {Time Result Other : Type}

/-- Programs that look at the context only to write lines about resources. -/
inductive SpanBlind : Program Time Result → Prop where
  | done (outcome : Except Fault Result) :
      SpanBlind (done outcome)
  | perform
      {effect : Effect Time}
      {resume : effect.Reply → Program Time Result}
      (unlocated : effect.Unlocated)
      (rest : ∀ reply, SpanBlind (resume reply)) :
      SpanBlind (perform effect resume)
  | line
      {level : LogLevel}
      {text : AmbientContext → String}
      {next : Program Time Result}
      (locates : Locates text)
      (rest : SpanBlind next) :
      SpanBlind
        (perform .readContext fun context =>
          perform (.log ⟨level, .handler, text context⟩) fun _ => next)

namespace SpanBlind

/-- Programs that do not look at the span, one after the other. -/
theorem followedBy
    {program : Program Time Result}
    {next : Except Fault Result → Program Time Other}
    (first : program.SpanBlind)
    (rest : ∀ outcome, (next outcome).SpanBlind) :
    (program.followedBy next).SpanBlind := by
  induction first with
  | done outcome =>
      exact rest outcome
  | perform unlocated _ inductionHypothesis =>
      exact .perform unlocated inductionHypothesis
  | line locates _ inductionHypothesis =>
      exact .line locates inductionHypothesis

/-- A line about a resource whose extra fields do not name a span. -/
theorem write
    {entry : LogEntry}
    {level : LogLevel}
    (leveled : entry.level = some level.json)
    (unnamed : ∀ field ∈ entry.extra, field.1 ∉ spanKeys) :
    (entry.write .handler : Program Time Unit).SpanBlind := by
  unfold LogEntry.write
  split
  · exact .done _
  · have given : LogLevel.ofJson? entry.givenLevel = some level := by
      rw [LogEntry.givenLevel, leveled, LogLevel.ofJson?_json]
    rw [given]
    exact .line (entry.locates unnamed) (.done (.ok ()))

/-- Programs that are made of calls do not depend on spans. -/
theorem ofComposed
    {order : Redaction.FieldOrder}
    {program program' : Program Time Result}
    (composed : Composed order BareCall Effect.KeepsTurns program program') :
    program.SpanBlind := by
  induction composed with
  | done =>
      exact .done _
  | @perform _ effect _ _ allowed _ inductionHypothesis =>
      refine .perform ?_ inductionHypothesis
      cases effect with
      | log record =>
          exact allowed.elim id False.elim
      | readContext =>
          exact allowed.elim False.elim False.elim
      | _ =>
          trivial
  | part isCall =>
      cases isCall with
      | call request =>
          exact .perform trivial .done
  | followedBy _ _ startHypothesis restHypothesis =>
      exact startHypothesis.followedBy fun outcome =>
        restHypothesis outcome outcome (.same outcome)
  | failure _ _ _ inductionHypothesis =>
      exact .perform (by simp [Effect.Unlocated, VpcLattice.failureLine])
        fun _ => inductionHypothesis
  | closeSpan _ _ inductionHypothesis =>
      exact .perform trivial fun _ => inductionHypothesis
  | line leveled unnamed =>
      exact .write leveled unnamed

open Platform

variable {Spans : Type} [SpanLibrary Spans]
variable {backend : Backend Spans}
variable {program : Program Float Result}

/--
A blind program does the same on platforms that differ in tracing, and ends in the
same way.
-/
theorem run_shaded
    (blind : backend.Blind)
    (oblivious : program.SpanBlind)
    {first second : Platform Spans}
    (shaded : Shaded first second) :
    (runWith backend program first).1 = (runWith backend program second).1 ∧
      Shaded (runWith backend program first).2 (runWith backend program second).2 ∧
      List.Forall₂ Deed.Retold (trail backend program first)
        (trail backend program second) := by
  induction oblivious generalizing first second with
  | done outcome =>
      exact ⟨rfl, shaded, .nil⟩
  | @perform effect resume unlocated rest inductionHypothesis =>
      obtain ⟨replies, onward⟩ := shaded.handle blind unlocated
      obtain ⟨ended, last, trails⟩ :=
        inductionHypothesis (handleWith backend effect first).1 onward
      simp only [runWith, run, trail, shaded.context_eq]
      rw [← replies]
      exact ⟨ended, last, .cons (.same unlocated) trails⟩
  | @line level text next locates rest inductionHypothesis =>
      obtain ⟨front, back, isText⟩ := locates first.context.correlation
      have onward : Shaded (first.keepLine ⟨level, .handler, text first.context⟩)
          (second.keepLine ⟨level, .handler, text second.context⟩) := by
        refine ⟨?_, ?_⟩
        · rw [untraced_keepLine, untraced_keepLine, shaded.same]
        · rw [show second.keepLine _ =
            (handleWith backend (.log _) second).2
            from rfl, tracer_handleWith blind]
          exact shaded.unrecorded
      obtain ⟨ended, last, trails⟩ := inductionHypothesis onward
      refine ⟨ended, last, ?_⟩
      have written :
          Deed.Retold ⟨first.context, .log ⟨level, .handler, text first.context⟩⟩
          ⟨second.context, .log ⟨level, .handler, text second.context⟩⟩ := by
        have lit : text first.context =
            (Json.obj (front ++ first.context.spanLayer ++ back)).document :=
          isText first.context.span
        have unlit :
            text first.context.withoutSpan = (Json.obj (front ++ back)).document :=
          (isText none).trans (by simp [AmbientContext.spanLayer])
        rw [shaded.context_eq, lit, unlit]
        exact .line
      have looked : Deed.Retold ⟨first.context, .readContext⟩
          ⟨second.context, .readContext⟩ := by
        rw [shaded.context_eq]
        exact .look
      exact .cons looked (.cons written trails)

end SpanBlind

end Program

end PolicyReconciler

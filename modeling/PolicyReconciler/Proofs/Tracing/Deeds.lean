import Mathlib.Data.List.Forall2
import PolicyReconciler.Observation.Log
import PolicyReconciler.Platform.Backend
import PolicyReconciler.Proofs.Json.Members

namespace PolicyReconciler

/-!
# What a program does on a platform

A trail lists all effects of a run in order, each with the context that it was
performed in.  Two runs of one program are compared by their trails: one on a
platform that may record spans, one on a platform that does not.  A program that
looks at the span around it only to write it into lines leaves the same trail on
both, but for these lines.
-/

open Program

/-- An effect together with the context that it was performed in. -/
structure Deed where
  context : AmbientContext
  effect : Effect Float

namespace AmbientContext

/-- The same place outside of every span. -/
def withoutSpan (context : AmbientContext) : AmbientContext :=
  { context with span := none }

/-- The members that a line has for the span around it, if there is one. -/
def spanLayer (context : AmbientContext) : Members :=
  match context.span with
  | some span =>
      [("trace_id", .str (String.ofList (Text.hexadecimal span.trace 32))),
        ("span_id", .str (String.ofList (Text.hexadecimal span.span 16)))]
  | none => []

theorem spanMembers?_getD (context : AmbientContext) :
    context.spanMembers?.getD [] = context.spanLayer := by
  obtain ⟨correlation, span⟩ := context
  cases span <;> rfl

end AmbientContext

/-- Whether an effect has nothing to do with the span around it. -/
def Effect.Unlocated {Time : Type} : Effect Time → Prop
  | .readContext => False
  | .log record => record.source ≠ .handler
  | _ => True

/--
Deeds that are the same with a span around them and without.  A line about a
resource additionally has the members that identify the span; all other deeds do not
differ.
-/
inductive Deed.Retold : Deed → Deed → Prop where
  | same {context : AmbientContext} {effect : Effect Float}
      (unlocated : effect.Unlocated) :
      Retold ⟨context, effect⟩ ⟨context.withoutSpan, effect⟩
  | look {context : AmbientContext} :
      Retold ⟨context, .readContext⟩ ⟨context.withoutSpan, .readContext⟩
  | line {context : AmbientContext} {level : LogLevel} {front back : Members} :
      Retold
        ⟨context,
          .log ⟨level, .handler,
            (Json.obj (front ++ context.spanLayer ++ back)).document⟩⟩
        ⟨context.withoutSpan, .log
          ⟨level, .handler, (Json.obj (front ++ back)).document⟩⟩

namespace Deed.Retold

variable {first second : Deed}

/-- A retold platform shows the same place but for the span. -/
theorem context_eq
    (retold : first.Retold second) :
    second.context = first.context.withoutSpan := by
  cases retold <;> rfl

/-- Where there is no span around a deed, nothing is told differently. -/
theorem eq_of_withoutSpan
    (retold : first.Retold second)
    (alone : first.context.withoutSpan = first.context) :
    first = second := by
  cases retold with
  | same unlocated =>
      rw [alone]
  | look =>
      rw [alone]
  | @line context level front back =>
      replace alone : context.withoutSpan = context := alone
      have unmarked : context.spanLayer = [] := by
        rw [← alone]
        rfl
      rw [alone, unmarked, List.append_nil]

end Deed.Retold

namespace Platform

variable {Spans : Type} [SpanLibrary Spans]
variable {Result : Type}

/-- The effects of a program, each with the context it is performed in. -/
def trail
    (backend : Backend Spans)
    (program : Program Float Result)
    (platform : Platform Spans) :
    List Deed :=
  match program with
  | .done _ => []
  | .perform effect resume =>
      let answer := handleWith backend effect platform
      ⟨platform.context, effect⟩ :: trail backend (resume answer.1) answer.2

/--
A platform without anything that has to do with tracing, and without its notes.
-/
def untraced (platform : Platform Spans) : Platform Spans :=
  { platform with tracer := .absent, spans := SpanLibrary.empty, notes := [] }

/-- The same platform with another tracer. -/
def under (platform : Platform Spans) (tracer : TracerMode) : Platform Spans :=
  { platform with tracer := tracer }

/-- Services that know nothing of the tracing of the program that calls them. -/
structure Backend.Blind (backend : Backend Spans) : Prop where
  keepsTracer : ∀ call platform, (backend call platform).2.tracer = platform.tracer
  answers : ∀ call first second, first.untraced = second.untraced →
    (backend call first).1 = (backend call second).1
  leaves : ∀ call first second, first.untraced = second.untraced →
    (backend call first).2.untraced = (backend call second).2.untraced

/--
Platforms that differ in tracing at most, of which the second records no spans.
-/
structure Shaded (first second : Platform Spans) : Prop where
  same : first.untraced = second.untraced
  unrecorded : second.tracer ≠ .recording

variable {backend : Backend Spans}
variable {first second : Platform Spans}

/-- Platforms that are the same untraced differ in tracer, spans and notes alone. -/
theorem exists_of_untraced_eq
    (same : first.untraced = second.untraced) :
    ∃ tracer spans notes,
      first = { second with tracer := tracer, spans := spans, notes := notes } := by
  refine ⟨first.tracer, first.spans, first.notes, ?_⟩
  cases first
  cases second
  simpa [untraced] using same

/-- A shaded platform shows the same place but for the span. -/
theorem Shaded.context_eq
    (shaded : Shaded first second) :
    second.context = first.context.withoutSpan := by
  obtain ⟨tracer, spans, notes, rfl⟩ := exists_of_untraced_eq shaded.same
  have unrecorded := shaded.unrecorded
  cases mode : second.tracer with
  | recording =>
      exact absurd mode unrecorded
  | silent | absent =>
      simp [context, AmbientContext.withoutSpan, mode]

@[simp] theorem untraced_keepLine (platform : Platform Spans) (record : LogRecord) :
    (platform.keepLine record).untraced = platform.untraced := by
  unfold keepLine
  split <;> rfl

@[simp] theorem untraced_openSpan
    (platform : Platform Spans)
    (name : Json)
    (attributes : Members) :
    (platform.openSpan name attributes).untraced = platform.untraced := by
  unfold openSpan
  split <;> rfl

@[simp] theorem untraced_annotateSpan
    (platform : Platform Spans)
    (key : String)
    (value : Json) :
    (platform.annotateSpan key value).untraced = platform.untraced := by
  unfold annotateSpan
  split <;> rfl

@[simp] theorem untraced_closeSpan
    (platform : Platform Spans)
    (fault : Option Fault) :
    (platform.closeSpan fault).untraced = platform.untraced := by
  unfold closeSpan
  split
  · split <;> rfl
  · rfl

/-- Only a call could change the tracer. -/
theorem tracer_handleWith
    (blind : backend.Blind)
    (effect : Effect Float)
    (platform : Platform Spans) :
    (handleWith backend effect platform).2.tracer = platform.tracer := by
  cases effect with
  | call request =>
      exact blind.keepsTracer request platform
  | pause length =>
      simp only [handleWith, pause]
      split <;> rfl
  | noteCall api time =>
      cases api <;> rfl
  | log record =>
      simp only [handleWith, keepLine]
      split <;> rfl
  | openSpan name attributes =>
      simp only [handleWith, openSpan]
      split <;> rfl
  | annotateSpan key value =>
      simp only [handleWith, annotateSpan]
      split <;> rfl
  | closeSpan fault =>
      simp only [handleWith, closeSpan]
      split
      · split <;> rfl
      · rfl
  | _ =>
      rfl

/-- An effect other than a look at the context does the same on both platforms. -/
theorem Shaded.handle
    (blind : backend.Blind)
    (shaded : Shaded first second)
    {effect : Effect Float}
    (unlocated : effect.Unlocated) :
    (handleWith backend effect first).1 = (handleWith backend effect second).1 ∧
      Shaded (handleWith backend effect first).2
        (handleWith backend effect second).2 := by
  obtain ⟨same, unrecorded⟩ := shaded
  rw [← tracer_handleWith blind effect second] at unrecorded
  have tracing :
      ∀ {changed changed' : Platform Spans}, changed.untraced = first.untraced →
      changed'.untraced = second.untraced → changed'.tracer ≠ .recording →
      Shaded changed changed' :=
    fun kept kept' unrecorded => ⟨kept.trans (same.trans kept'.symm), unrecorded⟩
  obtain ⟨tracer, spans, notes, isFirst⟩ := exists_of_untraced_eq same
  cases effect with
  | call request =>
      exact ⟨blind.answers request first second same,
        blind.leaves request first second same, unrecorded⟩
  | readContext =>
      exact unlocated.elim
  | log record =>
      exact ⟨rfl, tracing (untraced_keepLine _ _)
        (untraced_keepLine _ _) unrecorded⟩
  | openSpan name attributes =>
      exact ⟨rfl, tracing (untraced_openSpan _ _ _)
        (untraced_openSpan _ _ _) unrecorded⟩
  | annotateSpan key value =>
      exact ⟨rfl, tracing (untraced_annotateSpan _ _ _)
        (untraced_annotateSpan _ _ _) unrecorded⟩
  | closeSpan fault =>
      exact ⟨rfl, tracing (untraced_closeSpan _ _)
        (untraced_closeSpan _ _) unrecorded⟩
  | pause length =>
      subst isFirst
      refine ⟨rfl, ?_, unrecorded⟩
      simp only [handleWith, pause]
      split <;> rfl
  | lastCall api =>
      subst isFirst
      cases api <;> exact ⟨rfl, rfl, unrecorded⟩
  | noteCall api time =>
      subst isFirst
      cases api <;> exact ⟨rfl, rfl, unrecorded⟩
  | _ =>
      subst isFirst
      exact ⟨rfl, rfl, unrecorded⟩

end Platform

end PolicyReconciler

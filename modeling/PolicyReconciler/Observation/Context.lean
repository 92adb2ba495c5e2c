import PolicyReconciler.Json.Value
import PolicyReconciler.Text.Quoted

namespace PolicyReconciler

/-!
# Ambient context

Every line that is logged belongs to a correlation id and to a trace, if there
are any.  Both come from the surroundings of the code that logs.
-/

/-- The numbers of a span and of the trace it belongs to. -/
structure SpanContext where
  trace : Nat
  span : Nat
  deriving Repr, DecidableEq

/-- The correlation id and the recording span that surround some code. -/
structure AmbientContext where
  /-- The correlation id, null if there is none. -/
  correlation : Json
  span : Option SpanContext
  deriving Repr

namespace SpanContext

/-- The trace identifier, as 32 hexadecimal digits. -/
def traceText (context : SpanContext) : String :=
  String.ofList (Text.hexadecimal context.trace 32)

/-- The span identifier, as 16 hexadecimal digits. -/
def spanText (context : SpanContext) : String :=
  String.ofList (Text.hexadecimal context.span 16)

/-- The members that identify a span. -/
def members (context : SpanContext) : Members :=
  [("trace_id", .str context.traceText), ("span_id", .str context.spanText)]

end SpanContext

namespace AmbientContext

/-- The member that holds the correlation id; an empty id is left out. -/
def correlationMembers (context : AmbientContext) : Members :=
  if context.correlation.truthy then
    [("correlation_id", context.correlation)]
  else
    []

/-- The members that identify the recording span, if there is one. -/
def spanMembers? (context : AmbientContext) : Option Members :=
  context.span.map SpanContext.members

/-- The correlation id together with additional members. -/
def describe (context : AmbientContext) (additional : Members) : Members :=
  Members.update context.correlationMembers additional

end AmbientContext

end PolicyReconciler

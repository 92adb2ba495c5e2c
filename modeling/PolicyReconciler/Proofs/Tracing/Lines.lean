import PolicyReconciler.Observation.Output
import PolicyReconciler.Proofs.Json.Documents
import PolicyReconciler.Proofs.Tracing.Blocks
import PolicyReconciler.Proofs.Tracing.Deeds

namespace PolicyReconciler

/-!
# One object on one line

Whatever is logged about a resource is written as a single line of printable ASCII
that is one JSON object, in which each key has the value that was given for it last.
-/

open Program

/-! ## Lines of the output -/

namespace LogEntry

variable {entry : LogEntry}
variable {context : AmbientContext}

end LogEntry

namespace Platform

variable {Spans : Type} [SpanLibrary Spans]
variable {backend : Backend Spans}
variable {entry : LogEntry}
variable {level : LogLevel}

end Platform

end PolicyReconciler

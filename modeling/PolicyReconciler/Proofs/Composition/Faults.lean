import PolicyReconciler.VpcLattice.Client

namespace PolicyReconciler

/-!
# Faults that are treated alike

Two faults are alike if they are treated in the same way and differ at most in what
redaction hides.  A program that goes on after a fault may only depend on what its
alikes have in common: its kind, its redacted message and the answer codes that are
asked for.
-/

open Program

variable {order : Redaction.FieldOrder}

/-- Whether nothing but the kind of a fault decides how it is treated. -/
def Fault.Plain : Fault → Prop
  | service _ | api _ | temporary .. | dependencyNotFound .. => False
  | _ => True

/--
Faults that are treated alike and differ at most in what redaction hides.  A fault
that asks for another attempt is alike only to itself, for an event may tell its
message.
-/
inductive Fault.Alike (order : Redaction.FieldOrder) : Fault → Fault → Prop where
  | same (fault : Fault) :
      Alike order fault fault
  | service {first second : ServiceError}
      (code : first.code = second.code)
      (shown : (Fault.service first).redactedMessage order =
        (Fault.service second).redactedMessage order) :
      Alike order (.service first) (.service second)
  | api {first second : ApiResponse}
      (status : first.status = second.status)
      (retryable :
        Backoff.isRetryable (.api first) = Backoff.isRetryable (.api second))
      (shown : (Fault.api first).redactedMessage order =
        (Fault.api second).redactedMessage order) :
      Alike order (.api first) (.api second)
  | plain {first second : Fault}
      (firstPlain : first.Plain)
      (secondPlain : second.Plain)
      (kind : first.kind = second.kind)
      (origin : first.isServiceFault = second.isServiceFault)
      (shown : first.redactedMessage order = second.redactedMessage order) :
      Alike order first second

namespace Fault.Alike

variable {first second : Fault}

/-- Alike faults have the same kind. -/
theorem kind_eq
    (alike : first.Alike order second) :
    first.kind = second.kind := by
  cases alike with
  | same | service | api =>
      rfl
  | plain _ _ kind =>
      exact kind

/-- Alike faults have the same redacted message. -/
theorem redactedMessage_eq
    (alike : first.Alike order second) :
    first.redactedMessage order = second.redactedMessage order := by
  cases alike with
  | same =>
      rfl
  | service _ shown | api _ _ shown | plain _ _ _ _ shown =>
      exact shown

/-- Alike faults are both error answers of the Lattice service, or neither is. -/
theorem isServiceFault_eq
    (alike : first.Alike order second) :
    first.isServiceFault = second.isServiceFault := by
  cases alike with
  | same | service | api =>
      rfl
  | plain _ _ _ origin =>
      exact origin

/-- Alike responses have the same status, and ask for fewer calls alike. -/
theorem api_inv
    {first second : ApiResponse}
    (alike : (Fault.api first).Alike order (.api second)) :
    first.status = second.status ∧
      Backoff.isRetryable (.api first) = Backoff.isRetryable (.api second) := by
  cases alike with
  | same =>
      exact ⟨rfl, rfl⟩
  | api status retryable =>
      exact ⟨status, retryable⟩
  | plain plain =>
      exact plain.elim

/-- Alike faults have the same answer code. -/
theorem hasServiceCode_eq
    (alike : first.Alike order second)
    (code : String) :
    first.hasServiceCode code = second.hasServiceCode code := by
  cases alike with
  | same | api =>
      rfl
  | service same =>
      simp only [hasServiceCode, same]
  | plain firstPlain secondPlain =>
      cases first <;> cases second <;>
        first | rfl | exact firstPlain.elim | exact secondPlain.elim

/--
A handler that treats all but a few faults in one way treats alike faults alike.
-/
theorem handled
    {Value : Type}
    (related : Value → Value → Prop)
    (handler usual : Fault → Value)
    (service : ∀ first second, (Fault.service first).Alike order (.service second) →
      related (handler (.service first)) (handler (.service second)))
    (api : ∀ first second, (Fault.api first).Alike order (.api second) →
      related (handler (.api first)) (handler (.api second)))
    (temporary : ∀ message delay,
      related (handler (.temporary message delay))
        (handler (.temporary message delay)))
    (missing : ∀ resource name,
      related (handler (.dependencyNotFound resource name))
        (handler (.dependencyNotFound resource name)))
    (plain : ∀ other : Fault, other.Plain → handler other = usual other)
    (onward : ∀ first second : Fault, first.Alike order second →
      related (usual first) (usual second)) :
    ∀ fault fault' : Fault, fault.Alike order fault' →
      related (handler fault) (handler fault') := by
  intro fault fault' alike
  cases alike with
  | same =>
      by_cases isPlain : fault.Plain
      · rw [plain fault isPlain]
        exact onward _ _ (.same fault)
      cases fault with
      | service error =>
          exact service _ _ (.same _)
      | api response =>
          exact api _ _ (.same _)
      | temporary message delay =>
          exact temporary message delay
      | dependencyNotFound resource name =>
          exact missing resource name
      | _ =>
          exact absurd trivial isPlain
  | service code shown =>
      exact service _ _ (.service code shown)
  | api status retryable shown =>
      exact api _ _ (.api status retryable shown)
  | plain first second kind origin shown =>
      rw [plain _ first, plain _ second]
      exact onward _ _ (.plain first second kind origin shown)

end Fault.Alike

/-- Outcomes that are equal, or failures that are alike. -/
inductive AlikeOutcomes (order : Redaction.FieldOrder) {Result : Type} :
    Except Fault Result → Except Fault Result → Prop where
  | ok (result : Result) :
      AlikeOutcomes order (.ok result) (.ok result)
  | error {first second : Fault}
      (alike : first.Alike order second) :
      AlikeOutcomes order (.error first) (.error second)

/-- An outcome is alike to itself. -/
theorem AlikeOutcomes.same
    {Result : Type}
    (outcome : Except Fault Result) :
    AlikeOutcomes order outcome outcome := by
  cases outcome with
  | ok result =>
      exact .ok result
  | error fault =>
      exact .error (.same fault)

/-- The line in which the client of the Lattice service reports an error answer. -/
def VpcLattice.failureLine (activity : String) (fault : Fault) : LogRecord :=
  ⟨.error, .client, "Failed to " ++ activity ++ ": " ++ fault.message⟩

end PolicyReconciler

import PolicyReconciler.Json.Display
import PolicyReconciler.Redaction.Message

namespace PolicyReconciler

/-!
# Faults

A fault is the reason why an operation ended without a result.  Some faults are
raised by the reconciler, the others by the services that it calls.  The kind
and the message of a fault appear in logs, events, spans and counters.
-/

/-- An unsuccessful response of the Kubernetes API. -/
structure ApiResponse where
  status : Json
  reason : Json
  headers : Json
  body : Json
  deriving Repr

/-- An error answer of the Lattice service; absent parts are null. -/
structure ServiceError where
  code : Json
  message : Json
  operation : Json
  /-- The number of retries made, where the service reports one. -/
  retries : Option Json
  deriving Repr

/-- The reason why an operation ended without a result. -/
inductive Fault where
  /-- A value has another shape than the one whose parts are asked for. -/
  | wrongShape (message : String)
  /-- A value or argument does not fit the operation applied to it. -/
  | wrongUse (message : String)
  | temporary (message : String) (delay : Json)
  | permanent (message : String)
  | dependencyNotFound (resourceType : Json) (name : Json)
  | unsupportedTarget (kind : Json)
  | conflict (recordNamespace : Json) (name : Json) (version : Json)
      (response : Option ApiResponse)
  | operatorFailure (message : String)
  | service (error : ServiceError)
  | api (response : ApiResponse)
  | unreachable (address : Json)
  | missingCredentials
  | configuration (message : String)
  | runtime (message : String)
  | badValue (message : String)
  | missingKey (key : Json)
  | timeout (message : String)
  | divisionByZero
  /-- A whole number is beyond the range of floating-point numbers. -/
  | wholeTooLarge
  /-- A power is beyond the range of floating-point numbers. -/
  | powerTooLarge
  | attemptLimit (attempts : Int)
  deriving Repr

namespace ServiceError

/-- A part of an error answer, or the word for a part that is missing. -/
def shown (part : Json) : String :=
  match part with
  | .null => "Unknown"
  | value => value.display

/--
The report of a refused service request: code, operation, retries and message.
-/
def text (error : ServiceError) : String :=
  let retries :=
    match error.retries with
    | none => ""
    | some count => " (reached max retries: " ++ count.display ++ ")"
  "An error occurred (" ++ shown error.code ++ ") when calling the " ++
    error.operation.display ++ " operation" ++ retries ++ ": " ++
      shown error.message

end ServiceError

namespace ApiResponse

/-- A labelled line for a part that is present. -/
def line (label : String) (part : Json) : String :=
  if part.truthy then label ++ ": " ++ part.display ++ "\n" else ""

/-- The report of a refused cluster request, over several lines. -/
def text (response : ApiResponse) : String :=
  "(" ++ response.status.display ++ ")\nReason: " ++
    response.reason.display ++ "\n" ++
    line "HTTP response headers" response.headers ++
    line "HTTP response body" response.body

end ApiResponse

namespace Fault

/-! ## Values that do not fit -/

/-- A value of another kind than the ones that have a certain part. -/
def lacking (value : Json) (part : String) : Fault :=
  .wrongShape ("'" ++ value.kindName ++
    "' object has no attribute '" ++ part ++ "'")

/-- A value that does not stand for a list of others. -/
def notIterable (value : Json) : Fault :=
  .wrongUse ("'" ++ value.kindName ++ "' object is not iterable")

/-- A value that cannot be a key. -/
def unhashable (value : Json) : Fault :=
  .wrongUse ("unhashable type: '" ++ value.kindName ++ "'")

/-- An argument that is given by its place and by its name. -/
def repeated (callee argument : String) : Fault :=
  .wrongUse (callee ++ " got multiple values for argument '" ++ argument ++ "'")

/-- An argument that is given by its name twice. -/
def repeatedKeyword (callee argument : String) : Fault :=
  .wrongUse (callee ++ " got multiple values for keyword argument '" ++
    argument ++ "'")

/-! ## What is shown of a fault -/

/-- The name of the kind of a fault, by which it is counted. -/
def kind : Fault → String
  | wrongShape _ => "AttributeError"
  | wrongUse _ => "TypeError"
  | temporary .. => "TemporaryError"
  | permanent _ => "PermanentError"
  | dependencyNotFound .. => "DependencyNotFoundError"
  | unsupportedTarget _ => "UnsupportedTargetError"
  | conflict .. => "ConflictOnPersistError"
  | operatorFailure _ => "LatticeAuthOperatorError"
  | service _ => "ClientError"
  | api _ => "ApiException"
  | unreachable _ => "EndpointConnectionError"
  | missingCredentials => "NoCredentialsError"
  | configuration _ => "ConfigException"
  | runtime _ => "RuntimeError"
  | badValue _ => "ValueError"
  | missingKey _ => "KeyError"
  | timeout _ => "TimeoutError"
  | divisionByZero => "ZeroDivisionError"
  | wholeTooLarge => "OverflowError"
  | powerTooLarge => "OverflowError"
  | attemptLimit _ => "InvalidMaxRetryAttemptsError"

/-- The message of a fault as it is raised. -/
def message : Fault → String
  | wrongShape text => text
  | wrongUse text => text
  | temporary text _ => text
  | permanent text => text
  | dependencyNotFound resourceType name =>
      resourceType.display ++ " " ++ name.display ++ " not found"
  | unsupportedTarget kind => "unsupported targetRef kind " ++ kind.literalText
  | conflict recordNamespace name version _ =>
      "conflict updating " ++ recordNamespace.display ++ "/" ++ name.display ++
        " at resourceVersion " ++ version.display
  | operatorFailure text => text
  | service error => error.text
  | api response => response.text
  | unreachable address =>
      "Could not connect to the endpoint URL: \"" ++ address.display ++ "\""
  | missingCredentials => "Unable to locate credentials"
  | configuration text => text
  | runtime text => text
  | badValue text => text
  | missingKey key => key.literalText
  | timeout text => text
  | divisionByZero => "float division by zero"
  | wholeTooLarge => "int too large to convert to float"
  | powerTooLarge => "(34, 'Numerical result out of range')"
  | attemptLimit attempts =>
      "Value provided to \"max_attempts\": " ++
        String.ofList (Json.writeInteger attempts) ++
        " must be an integer greater than or equal to 0."

/-- The message of a fault as it may be shown in logs and events. -/
def redactedMessage (fault : Fault) (order : Redaction.FieldOrder) : String :=
  Redaction.redact order fault.message

/--
The fault this one was raised from. Only a conflict keeps one, the answer it met.
-/
def cause? : Fault → Option Fault
  | conflict _ _ _ response => response.map api
  | _ => none

/-- Is this one of the operator's own faults? -/
def isOperatorFault : Fault → Bool
  | dependencyNotFound .. => true
  | unsupportedTarget _ => true
  | conflict .. => true
  | operatorFailure _ => true
  | _ => false

/-- Whether a fault comes from calling the Lattice service. -/
def isServiceFault : Fault → Bool
  | service _ => true
  | unreachable _ => true
  | missingCredentials => true
  | attemptLimit _ => true
  | _ => false

/--
Is this a service error with the given code? A code that is no text matches
nothing.
-/
def hasServiceCode (fault : Fault) (code : String) : Bool :=
  match fault with
  | service error =>
      match error.code with
      | .str text => text == code
      | _ => false
  | _ => false

end Fault

end PolicyReconciler

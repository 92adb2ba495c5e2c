import PolicyReconciler.Json.Use
import PolicyReconciler.Redaction.Message
import PolicyReconciler.Text.Lowercase

namespace PolicyReconciler.Redaction

/-!
# Redaction of objects

The value of a sensitive member is replaced as a whole.  Other members are
redacted inside nested objects and texts; arrays are left as they are.  A name
that is no text cannot be looked for in a key, so it is a fault where there is one.
-/

/-- Does a key contain one of the names, once it is lowered? -/
def isSensitiveKey (names : List String) (key : String) : Bool :=
  names.any fun name => Text.occursIn name.toList (Text.lower key.toList)

mutual

/-- Redact a value, given the names that make a key sensitive. -/
def redactValue (order : FieldOrder) (names : List String) : Json → Json
  | .obj members => .obj (redactMembersWith order names members)
  | .str text => .str (redact order text)
  | other => other

/-- Redact members, given the names that make a key sensitive. -/
def redactMembersWith (order : FieldOrder) (names : List String) :
    List (String × Json) → List (String × Json)
  | [] => []
  | (key, value) :: rest =>
      (key,
        if isSensitiveKey names key then .str (String.ofList redactedMark)
        else redactValue order names value) ::
        redactMembersWith order names rest

end

/-- Redact members; the extra names are sensitive besides the usual fields. -/
def redactMembers
    (order : FieldOrder)
    (extra : List String)
    (members : Members) :
    Members :=
  redactMembersWith order (sensitiveFields ++ extra) members

/-- The extra names that a value lists, each of which must be usable as a key. -/
def namesOf : Json → Except Fault (List Json)
  | .null => .ok []
  | given => given.entries.bind fun names => names.mapM Json.key

/-- A name that is no text, where it is looked for in a key. -/
def notSought (name : Json) : Fault :=
  .wrongUse ("'in <string>' requires string as left operand, not " ++ name.kindName)

/--
Redact a value that is used as an object, with the extra names that another value
lists.
-/
def redactObject (order : FieldOrder) (given value : Json) : Except Fault Json :=
  match namesOf given, value with
  | .error fault, _ => .error fault
  | .ok names, .obj members =>
      let texts := names.filterMap Json.string?
      match names.find? fun name => name.string?.isNone, members with
      | some name, _ :: _ => .error (notSought name)
      | _, _ => .ok (.obj (redactMembers order texts members))
  | .ok _, other => .error (.lacking other "items")

end PolicyReconciler.Redaction

import PolicyReconciler.Redaction.Recogniser
import PolicyReconciler.Redaction.Rule
import PolicyReconciler.Text.DecimalDigit
import PolicyReconciler.Text.WordCharacter

namespace PolicyReconciler.Redaction

/-!
# Redaction of messages

Three rules remove credentials that follow their usual names.  A further rule
hides the account number inside a resource name.  Then, for each sensitive
field, a rule hides the value written after the field's name.
-/

/-- What stands in place of a redacted text. -/
def redactedMark : List Char := "[REDACTED]".toList

/-- A character that may join the words of a field's name. -/
def isJoiner (character : Char) : Bool :=
  character == '_' || Text.isBlank character

/-- Characters between the name and the value of a credential. -/
def isSeparator (character : Char) : Bool :=
  character == ':' || Text.isBlank character

/-- Letters and digits of ASCII in any case, folded letters included. -/
def isKeyCharacter (character : Char) : Bool :=
  (foldLetter character).isAlphanum

/-- A character of a secret key or token. -/
def isSecretCharacter (character : Char) : Bool :=
  isKeyCharacter character || character == '/' || character == '+' ||
    character == '='

/-- The identifier of an access key, behind its name. -/
def accessKeyId : Recogniser :=
  inSequence
    [wordOf "access".toList, optional isJoiner, wordOf "key".toList,
      optional isJoiner, wordOf "id".toList, someOf isSeparator,
      countOf isKeyCharacter 20]

/-- A secret access key, behind its name. -/
def secretAccessKey : Recogniser :=
  inSequence
    [wordOf "secret".toList, optional isJoiner, wordOf "access".toList,
      optional isJoiner, wordOf "key".toList, someOf isSeparator,
      countOf isSecretCharacter 40]

/-- A session token, behind its name. -/
def sessionToken : Recogniser :=
  inSequence
    [wordOf "session".toList, optional isJoiner, wordOf "token".toList,
      someOf isSeparator, someOf isSecretCharacter]

/-- The credentials that are removed together with their names. -/
def credentials : List Recogniser :=
  [accessKeyId, secretAccessKey, sessionToken]

/-- The rule that puts the mark in place of all that a recogniser takes. -/
def removal (recogniser : Recogniser) : Rule := fun _ text =>
  (recogniser text).map fun length => ⟨redactedMark, length⟩

/-- A character of an identifier's partition. -/
def isPartitionCharacter (character : Char) : Bool :=
  character.isLower || character == '-'

/-- A character of an identifier's service. -/
def isServiceCharacter (character : Char) : Bool :=
  character.isLower || character.isDigit || character == '-'

/-- The part of a resource name before the account number. -/
def resourceNamePrefix : Recogniser :=
  inSequence
    [exactly "arn:aws".toList, anyOf isPartitionCharacter, exactly [':'],
      someOf isServiceCharacter, exactly [':'],
      anyOf isServiceCharacter, exactly [':']]

/-- How many digits an account number has. -/
def accountLength : Nat := 12

/-- An account number with the colon behind it. -/
def accountNumber : Recogniser :=
  (countOf Text.isDecimalDigit accountLength).followedBy (exactly [':'])

/-- Hide the account number inside a resource name. -/
def accountRule : Rule := fun _ text =>
  match resourceNamePrefix text with
  | none => none
  | some start =>
      (accountNumber (text.drop start)).map fun length =>
        ⟨text.take start ++ redactedMark ++ [':'], start + length⟩

/-- Characters between the name and the value of a field. -/
def isFieldSeparator (character : Char) : Bool :=
  character == ':' || character == '=' || Text.isBlank character

/-- Characters of the value of a field. -/
def isFieldValueCharacter (character : Char) : Bool :=
  !(Text.isBlank character || character == ',' || character == ';' ||
    character == ')')

/--
The separators and the value after the name of a field.

Where no value follows the separators, the last of them that is not blank is
itself the value, provided that another separator stands before it.
-/
def fieldValue : Recogniser := fun text =>
  let separators := text.takeWhile isFieldSeparator
  let value := (text.drop separators.length).takeWhile isFieldValueCharacter
  if separators.isEmpty then
    none
  else if !value.isEmpty then
    some (separators.length + value.length)
  else
    let upToValue := (separators.reverse.dropWhile Text.isBlank).length
    if 2 ≤ upToValue then some upToValue else none

/-- A field's name in front of the mark. -/
def fieldReplacement (field : String) : List Char :=
  field.toList ++ [':', ' '] ++ redactedMark

/-- Hide the value of a field whose name starts at the start of a word. -/
def fieldRule (field : String) : Rule := fun before text =>
  if before.any Text.isWordCharacter then
    none
  else
    ((wordOf field.toList).followedBy fieldValue text).map fun length =>
      ⟨fieldReplacement field, length⟩

/-- The fields whose values are hidden, in messages and in objects. -/
def sensitiveFields : List String :=
  ["access_key_id", "secret_access_key", "session_token", "password",
    "secret", "credentials", "token"]

/-- Redact a text, taking the sensitive fields in a given order. -/
def redactCharacters (fields : List String) (text : List Char) : List Char :=
  let withoutCredentials :=
    credentials.foldl (fun current one => (removal one).apply current) text
  let withoutAccounts := accountRule.apply withoutCredentials
  fields.foldl (fun current field =>
    (fieldRule field).apply current) withoutAccounts

/--
An order to take the sensitive fields in: nothing fixes it, so it may be any one of
them.
-/
structure FieldOrder where
  fields : List String
  complete : fields.Perm sensitiveFields

namespace FieldOrder

/-- The fields in the order in which they are listed. -/
def listed : FieldOrder := ⟨sensitiveFields, .refl _⟩

end FieldOrder

/-- Redact a message, taking the sensitive fields in a given order. -/
def redact (order : FieldOrder) (message : String) : String :=
  String.ofList (redactCharacters order.fields message.toList)

end PolicyReconciler.Redaction

import PolicyReconciler.Text.Blank
import PolicyReconciler.Text.DecimalDigit

namespace PolicyReconciler.Decimal

/-!
# Reading numbers from settings

Settings may surround a number with blanks, write it in the digits of any
script, and group digits with single underscores.  The separator control codes,
which are blanks elsewhere, may not surround a number.
-/

/-- Whether a character may stand around a number. -/
def isPadding (character : Char) : Bool :=
  Text.isBlank character && !Text.inRanges [⟨0x1C, 0x1F⟩] character

/-- The floating-point number nearest to `coefficient * 10 ^ exponent`. -/
def toFloat (coefficient : Nat) (exponent : Int) : Float :=
  let size : Int := (Nat.toDigits 10 coefficient).length + exponent
  if coefficient = 0 || size < -400 then 0
  else if 400 < size then 1 / 0
  else Float.ofScientific coefficient (exponent < 0) exponent.natAbs

/-- The number with some decimal digits, the highest first. -/
def ofDigits (digits : List Nat) : Nat :=
  digits.foldl (fun total digit => 10 * total + digit) 0

/-- Digits that continue a run, where one underscore may stand before a digit. -/
def furtherDigits : List Char → List Nat × List Char
  | [] => ([], [])
  | character :: rest =>
      match Text.digitValue? character with
      | some digit =>
          let (digits, others) := furtherDigits rest
          (digit :: digits, others)
      | none =>
          let grouped := character == '_' && (rest.head?.any Text.isDecimalDigit)
          if grouped then furtherDigits rest else ([], character :: rest)

/-- A run of at least one digit, and the text after it. -/
def digitRun? : List Char → Option (List Nat × List Char)
  | [] => none
  | character :: rest =>
      (Text.digitValue? character).map fun digit =>
        let (digits, others) := furtherDigits rest
        (digit :: digits, others)

/-- Whether a text begins with a minus sign, and what follows the sign. -/
def splitSign : List Char → Bool × List Char
  | '-' :: rest => (true, rest)
  | '+' :: rest => (false, rest)
  | text => (false, text)

/-- What a text is, read as a whole number. -/
inductive WholeNumber where
  | number (value : Int)
  /-- More digits than are read. -/
  | tooLong (digits : Nat)
  | malformed
  deriving Repr, DecidableEq

/-- The greatest number of digits of a whole number that is read. -/
def digitLimit : Nat := 4300

/--
The whole number with a sign and some digits, unless there are too many of them.
-/
def WholeNumber.ofDigits (negative : Bool) (digits : List Nat) : WholeNumber :=
  if digitLimit < digits.length then .tooLong digits.length
  else .number
    (if negative then -(Decimal.ofDigits digits : Int) else Decimal.ofDigits digits)

/--
Read a whole number; digits are counted before anything but an underscore may follow
them.
-/
def readWholeNumber (text : List Char) : WholeNumber :=
  let (negative, body) := splitSign (Text.trimOf isPadding text)
  match digitRun? body with
  | none => .malformed
  | some (_, '_' :: _) => .malformed
  | some (digits, []) => .ofDigits negative digits
  | some (digits, _) =>
      if digitLimit < digits.length then .tooLong digits.length else .malformed

/-- Digits before and after the point, and the text after them. -/
def significand? (text : List Char) : Option (List Nat × List Nat × List Char) :=
  match digitRun? text with
  | some (whole, '.' :: rest) =>
      match digitRun? rest with
      | some (part, others) => some (whole, part, others)
      | none => some (whole, [], rest)
  | some (whole, rest) => some (whole, [], rest)
  | none =>
      match text with
      | '.' :: rest => (digitRun? rest).map fun (part, others) => ([], part, others)
      | _ => none

/-- The exponent that a text gives, zero for an empty text. -/
def exponent? : List Char → Option Int
  | [] => some 0
  | mark :: rest =>
      if mark == 'e' || mark == 'E' then
        let (negative, body) := splitSign rest
        match digitRun? body with
        | some (digits, []) =>
            some (if negative then -(ofDigits digits : Int) else ofDigits digits)
        | _ => none
      else
        none

/-- Read a floating-point number without its sign. -/
def readMagnitude? (text : List Char) : Option Float :=
  let word := String.ofList (text.map Char.toLower)
  if word = "inf" || word = "infinity" then
    some (1 / 0)
  else if word = "nan" then
    some (0 / 0)
  else
    match significand? text with
    | some (whole, part, rest) =>
        (exponent? rest).map fun exponent =>
          toFloat (ofDigits (whole ++ part)) (exponent - part.length)
    | none => none

/-- Read a number that may have a point, an exponent or no finite value. -/
def readFloat? (text : List Char) : Option Float :=
  let (negative, body) := splitSign (Text.trimOf isPadding text)
  (readMagnitude? body).map fun number => if negative then -number else number

end PolicyReconciler.Decimal

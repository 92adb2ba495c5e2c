import PolicyReconciler.Decimal.Reading
import PolicyReconciler.Fault

namespace PolicyReconciler

/-!
# The environment

Settings are given as named texts.  A number among them is read only when the
setting is used, and a text that is no number is a fault of its reader.
-/

/-- The variables that a process is started with. -/
structure Environment where
  entries : List (String × String)
  deriving Repr

namespace Environment

/-- The value of a variable, if it is set. -/
def find? (environment : Environment) (name : String) : Option String :=
  environment.entries.lookup name

/-- The value of a variable, or else a default. -/
def getD (environment : Environment) (name default : String) : String :=
  (environment.find? name).getD default

/-- The value of a variable that is set and not empty. -/
def findFilled? (environment : Environment) (name : String) : Option String :=
  (environment.find? name).filter (· != "")

/-- The fault of a text that is no number. -/
def notANumber (text : String) : Fault :=
  .badValue ("could not convert string to float: " ++
    String.ofList (Text.quoted text))

/--
The most characters of a quoted text that the fault of a bad whole number shows.
-/
def shownLength : Nat := 200

/--
The fault of a text that is no whole number: it shows the beginning of the quoted
text.
-/
def notAWholeNumber (text : String) : Fault :=
  let shown := (Text.quoted text).take shownLength
  .badValue ("invalid literal for int() with base 10: " ++ String.ofList shown)

/-- The fault of a number with more digits than are converted. -/
def tooManyDigits (digits : Nat) : Fault :=
  let limit := toString Decimal.digitLimit
  .badValue
    ("Exceeds the limit (" ++ limit ++
      " digits) for integer string conversion: value has " ++
      toString digits ++
        " digits; use sys.set_int_max_str_digits() to increase the limit")

/-- The number that a variable holds. -/
def number
    (environment : Environment)
    (name default : String) :
    Except Fault Float :=
  let text := environment.getD name default
  match Decimal.readFloat? text.toList with
  | some number => .ok number
  | none => .error (notANumber text)

/-- The whole number in a variable, or in the default where it is not set. -/
def wholeNumber
    (environment : Environment)
    (name default : String) :
    Except Fault Int :=
  let text := environment.getD name default
  match Decimal.readWholeNumber text.toList with
  | .number number => .ok number
  | .tooLong digits => .error (tooManyDigits digits)
  | .malformed => .error (notAWholeNumber text)

end Environment

end PolicyReconciler

import PolicyReconciler.Decimal.Reading
import PolicyReconciler.Json.Value

namespace PolicyReconciler.Json

/-!
# Reading JSON

The reader accepts the standard grammar.  Each reading function answers with
the value and the text after it, or with nothing.  Values nest and repeat at
most as often as the text is long, so its length bounds the recursion.
-/

/-- What is left of a text after the white space at its beginning. -/
def skipSpace (text : List Char) : List Char :=
  text.dropWhile fun character =>
    character == ' ' || character == '\n' || character == '\r' || character == '\t'

/-- The value of a hexadecimal digit. -/
def hexValue? (character : Char) : Option Nat :=
  if '0' ≤ character && character ≤ '9' then some (character.toNat - '0'.toNat)
  else if 'a' ≤ character &&
    character ≤ 'f' then some (character.toNat - 'a'.toNat + 10)
  else if 'A' ≤ character &&
    character ≤ 'F' then some (character.toNat - 'A'.toNat + 10)
  else none

/-- Read a code unit of four hexadecimal digits. -/
def readUnit? : List Char → Option (Nat × List Char)
  | first :: second :: third :: fourth :: rest => do
      let high ← hexValue? first
      let upper ← hexValue? second
      let lower ← hexValue? third
      let low ← hexValue? fourth
      return (high * 4096 + upper * 256 + lower * 16 + low, rest)
  | _ => none

/-- Whether a code unit may be the first of a pair. -/
def isHighSurrogate (unit : Nat) : Bool :=
  0xD800 ≤ unit && unit < 0xDC00

/-- Whether a code unit may be the second of a pair. -/
def isLowSurrogate (unit : Nat) : Bool :=
  0xDC00 ≤ unit && unit < 0xE000

/--
Read the code units of an escaped code point, whose first escape mark has been read.
Two surrogates that make a pair are read as the code point that they stand for.
-/
def readEscapedCode? (text : List Char) : Option (Nat × List Char) :=
  match readUnit? text with
  | none => none
  | some (unit, rest) =>
      if isHighSurrogate unit then
        match rest with
        | '\\' :: 'u' :: more =>
            match readUnit? more with
            | some (second, others) =>
                if isLowSurrogate second then
                  some (0x10000 + (unit - 0xD800) * 0x400 +
                    (second - 0xDC00), others)
                else
                  some (unit, rest)
            | none => none
        | _ => some (unit, rest)
      else
        some (unit, rest)

/-- The character that an escape of one letter stands for. -/
def shortEscape? (letter : Char) : Option Char :=
  if letter = '"' then some '"'
  else if letter = '\\' then some '\\'
  else if letter = '/' then some '/'
  else if letter = 'b' then some '\x08'
  else if letter = 'f' then some '\x0c'
  else if letter = 'n' then some '\n'
  else if letter = 'r' then some '\r'
  else if letter = 't' then some '\t'
  else none

/-- Read one code point of a string. -/
def readCode? : List Char → Option (Nat × List Char)
  | '\\' :: 'u' :: rest => readEscapedCode? rest
  | '\\' :: letter :: rest =>
      (shortEscape? letter).map fun character => (character.toNat, rest)
  | character :: rest =>
      if character = '\\' || character = '"' || character.toNat < 0x20 then none
      else some (character.toNat, rest)
  | [] => none

/-- Read the code points of a string up to the closing quote. -/
def readCodes? : Nat → List Char → Option (List Nat × List Char)
  | 0, _ => none
  | _ + 1, '"' :: rest => some ([], rest)
  | steps + 1, text =>
      match readCode? text with
      | none => none
      | some (code, rest) =>
          match readCodes? steps rest with
          | none => none
          | some (codes, others) => some (code :: codes, others)

/-- The character of a code point; a surrogate is no character. -/
def character? (code : Nat) : Option Char :=
  if code.isValidChar then some (Char.ofNat code) else none

/-- Read a string whose first quote has been read, if all of it are characters. -/
def readString? (text : List Char) : Option (String × List Char) :=
  match readCodes? (text.length + 1) text with
  | none => none
  | some (codes, rest) =>
      (codes.mapM character?).map fun characters => (String.ofList characters, rest)

/-- The value of a decimal digit. -/
def asciiDigit (character : Char) : Nat :=
  character.toNat - '0'.toNat

/-- The digits at the beginning of a text, and what follows them. -/
def splitDigits (text : List Char) : List Nat × List Char :=
  ((text.takeWhile Char.isDigit).map asciiDigit, text.dropWhile Char.isDigit)

/--
Read the digits before the point: a lone zero or digits without a leading zero.
-/
def readWhole? : List Char → Option (List Nat × List Char)
  | '0' :: rest => some ([0], rest)
  | text =>
      match splitDigits text with
      | ([], _) => none
      | (digits, rest) => some (digits, rest)

/-- Read the point and the digits after it, if there is a point. -/
def readPart? : List Char → Option (Option (List Nat) × List Char)
  | '.' :: rest =>
      match splitDigits rest with
      | ([], _) => none
      | (digits, others) => some (some digits, others)
  | text => some (none, text)

/-- Read an exponent, if there is one. -/
def readExponent? : List Char → Option (Option Int × List Char)
  | mark :: rest =>
      if mark == 'e' || mark == 'E' then
        let (negative, body) := Decimal.splitSign rest
        match splitDigits body with
        | ([], _) => none
        | (digits, others) =>
            let size : Int := Decimal.ofDigits digits
            some (some (if negative then -size else size), others)
      else
        some (none, mark :: rest)
  | [] => some (none, [])

/-- Read a number without its sign; the flag is the sign. -/
def readUnsigned?
    (negative : Bool)
    (text : List Char) :
    Option (Json × List Char) :=
  match readWhole? text with
  | none => none
  | some (whole, afterWhole) =>
      match readPart? afterWhole with
      | none => none
      | some (part, afterPart) =>
          match readExponent? afterPart with
          | none => none
          | some (exponent, rest) =>
              if part.isNone && exponent.isNone then
                let size : Int := Decimal.ofDigits whole
                some (.int (if negative then -size else size), rest)
              else
                let digits := whole ++ part.getD []
                let scale := exponent.getD 0 - ((part.getD []).length : Int)
                let size := Decimal.toFloat (Decimal.ofDigits digits) scale
                some (.float (if negative then -size else size), rest)

/-- Read a number, which may begin with a minus sign. -/
def readNumber? : List Char → Option (Json × List Char)
  | '-' :: rest => readUnsigned? true rest
  | text => readUnsigned? false text

/-- Read a word that stands for a value. -/
def readWord? (word : List Char) (value : Json) (text : List Char) :
    Option (Json × List Char) :=
  if word.isPrefixOf text then some (value, text.drop word.length) else none

mutual

/-- Read a value; white space before it is dropped. -/
def readValue? : Nat → List Char → Option (Json × List Char)
  | 0, _ => none
  | steps + 1, text =>
      match skipSpace text with
      | '"' :: rest => (readString? rest).map fun (value, others) =>
          (.str value, others)
      | '[' :: rest =>
          match skipSpace rest with
          | ']' :: others => some (.arr [], others)
          | _ => (readItems? steps rest).map fun (items, others) =>
              (.arr items, others)
      | '{' :: rest =>
          match skipSpace rest with
          | '}' :: others => some (.obj [], others)
          | _ => (readMembers? steps rest).map fun (members, others) =>
              (.obj members, others)
      | 'n' :: rest => readWord? ['n', 'u', 'l', 'l'] .null ('n' :: rest)
      | 't' :: rest => readWord? ['t', 'r', 'u', 'e'] (.bool true) ('t' :: rest)
      | 'f' :: rest =>
          readWord? ['f', 'a', 'l', 's', 'e'] (.bool false) ('f' :: rest)
      | other => readNumber? other

/-- Read the items of a list up to the closing bracket. -/
def readItems? : Nat → List Char → Option (List Json × List Char)
  | 0, _ => none
  | steps + 1, text =>
      match readValue? steps text with
      | none => none
      | some (item, rest) =>
          match skipSpace rest with
          | ',' :: others =>
              (readItems? steps others).map fun (items, after) =>
                (item :: items, after)
          | ']' :: others => some ([item], others)
          | _ => none

/-- Read the members of an object up to the closing brace. -/
def readMembers? : Nat → List Char → Option (List (String × Json) × List Char)
  | 0, _ => none
  | steps + 1, text =>
      match skipSpace text with
      | '"' :: rest =>
          match readString? rest with
          | none => none
          | some (key, afterKey) =>
              match skipSpace afterKey with
              | ':' :: others =>
                  match readValue? steps others with
                  | none => none
                  | some (value, afterValue) =>
                      match skipSpace afterValue with
                      | ',' :: more =>
                          (readMembers? steps more).map fun (members, after) =>
                            ((key, value) :: members, after)
                      | '}' :: more => some ([(key, value)], more)
                      | _ => none
              | _ => none
      | _ => none

end

/-- The value that a whole text is a document of. -/
def parse? (text : String) : Option Json :=
  let characters := text.toList
  match readValue? (2 * characters.length + 2) characters with
  | some (value, rest) => if (skipSpace rest).isEmpty then some value else none
  | none => none

end PolicyReconciler.Json

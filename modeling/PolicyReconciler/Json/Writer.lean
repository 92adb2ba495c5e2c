import PolicyReconciler.Decimal.Layout
import PolicyReconciler.Json.Value

namespace PolicyReconciler.Json

/-!
# Writing JSON

Documents are written in printable ASCII on one line: other characters are
escaped, those beyond the first plane as a pair of surrogates.  A style gives
the texts between items and between a key and its value.
-/

/-- The texts that stand between the parts of a document. -/
structure Style where
  between : List Char
  afterKey : List Char
  deriving Repr, DecidableEq

/-- The style with a space after each comma and colon. -/
def spaced : Style := ⟨[',', ' '], [':', ' ']⟩

/-- The style without any space. -/
def compact : Style := ⟨[','], [':']⟩

/-- The hexadecimal digit of a value below sixteen. -/
def hexDigit (value : Nat) : Char :=
  if value < 10 then
    Char.ofNat ('0'.toNat + value)
  else
    Char.ofNat ('a'.toNat + value - 10)

/-- The four hexadecimal digits of a code unit. -/
def hexUnit (unit : Nat) : List Char :=
  [hexDigit (unit / 4096 % 16), hexDigit (unit / 256 % 16),
    hexDigit (unit / 16 % 16), hexDigit (unit % 16)]

/-- The escape of a code unit. -/
def escapeUnit (unit : Nat) : List Char :=
  '\\' :: 'u' :: hexUnit unit

/-- The written form of a code point, which may also be a surrogate. -/
def writeCode (code : Nat) : List Char :=
  if code = '"'.toNat then ['\\', '"']
  else if code = '\\'.toNat then ['\\', '\\']
  else if code = '\n'.toNat then ['\\', 'n']
  else if code = '\r'.toNat then ['\\', 'r']
  else if code = '\t'.toNat then ['\\', 't']
  else if code = '\x08'.toNat then ['\\', 'b']
  else if code = '\x0c'.toNat then ['\\', 'f']
  else if 0x20 ≤ code && code ≤ 0x7E then [Char.ofNat code]
  else if code < 0x10000 then escapeUnit code
  else
    escapeUnit (0xD800 + (code - 0x10000) / 0x400) ++
      escapeUnit (0xDC00 + (code - 0x10000) % 0x400)

/-- The written form of a character. -/
def writeCharacter (character : Char) : List Char :=
  writeCode character.toNat

/-- The written form of a string, with its quotes. -/
def writeString (text : String) : List Char :=
  '"' :: text.toList.flatMap writeCharacter ++ ['"']

/-- The decimal digits of a whole number, after a sign if it is negative. -/
def writeInteger (value : Int) : List Char :=
  if value < 0 then
    '-' :: Decimal.digitsOf value.natAbs
  else
    Decimal.digitsOf value.natAbs

mutual

/-- The written form of a value. -/
def write (style : Style) : Json → List Char
  | null => ['n', 'u', 'l', 'l']
  | bool true => ['t', 'r', 'u', 'e']
  | bool false => ['f', 'a', 'l', 's', 'e']
  | int value => writeInteger value
  | float value => Decimal.documentLayout.float value
  | str value => writeString value
  | arr items => '[' :: writeItems style items ++ [']']
  | obj members => '{' :: writeMembers style members ++ ['}']

/-- The written forms of the items of a list. -/
def writeItems (style : Style) : List Json → List Char
  | [] => []
  | [item] => write style item
  | item :: rest => write style item ++ style.between ++ writeItems style rest

/-- The written forms of the members of an object. -/
def writeMembers (style : Style) : List (String × Json) → List Char
  | [] => []
  | [(key, value)] => writeString key ++ style.afterKey ++ write style value
  | (key, value) :: rest =>
      writeString key ++ style.afterKey ++ write style value ++ style.between ++
        writeMembers style rest

end

/-- The text of a document. -/
def document (value : Json) : String :=
  String.ofList (value.write spaced)

end PolicyReconciler.Json

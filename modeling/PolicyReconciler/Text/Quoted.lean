import PolicyReconciler.Text.Printable

namespace PolicyReconciler.Text

/-!
# Quoted text

Messages show a text between quotes, with everything that is not printable
escaped.  Apostrophes enclose the text unless it holds an apostrophe and no
double quote.
-/

/-- The hexadecimal digit of a value below sixteen. -/
def lowerHexDigit (value : Nat) : Char :=
  if value < 10 then Char.ofNat (48 + value) else Char.ofNat (87 + value)

/-- The last hexadecimal digits of a number, as many as a width says. -/
def hexadecimal (number : Nat) : Nat → List Char
  | 0 => []
  | width + 1 => hexadecimal (number / 16) width ++ [lowerHexDigit (number % 16)]

/-- The escape of a character by its code point, as short as it can be. -/
def numericEscape (character : Char) : List Char :=
  let code := character.toNat
  if code < 0x100 then '\\' :: 'x' :: hexadecimal code 2
  else if code < 0x10000 then '\\' :: 'u' :: hexadecimal code 4
  else '\\' :: 'U' :: hexadecimal code 8

/-- A character inside quoted text. -/
def quoteCharacter (quote character : Char) : List Char :=
  if character = quote || character = '\\' then ['\\', character]
  else if character = '\n' then ['\\', 'n']
  else if character = '\r' then ['\\', 'r']
  else if character = '\t' then ['\\', 't']
  else if isPrintable character then [character]
  else numericEscape character

/-- The quote around a text: the single one, unless only that occurs inside. -/
def enclosingQuote (text : List Char) : Char :=
  if text.contains '\'' && !text.contains '"' then '"' else '\''

/-- A text in quotes, with escapes for what cannot stand there. -/
def quoted (text : String) : List Char :=
  let quote := enclosingQuote text.toList
  quote :: text.toList.flatMap (quoteCharacter quote) ++ [quote]

end PolicyReconciler.Text

import PolicyReconciler.Text.Blank

namespace PolicyReconciler.Redaction

/-!
# Recognisers of text

A recogniser looks at the start of a text and says how many characters it
accepts.  Recognisers are put together in sequence.  Letters are compared
without regard to case: four letters outside ASCII fold to ASCII letters.
-/

/-- How many characters at the start of a text are accepted, if any are. -/
abbrev Recogniser := List Char → Option Nat

/--
Characters outside ASCII that are the same letter as an ASCII letter, with that
letter.
-/
def foldedLetters : List (Char × Char) :=
  [('ſ', 's'), ('\u212a', 'k'), ('ı', 'i'), ('İ', 'i')]

/--
The lower-case ASCII letter that a character is a form of, or the character itself.
-/
def foldLetter (character : Char) : Char :=
  match foldedLetters.lookup character with
  | some letter => letter
  | none => character.toLower

/-- Accept a word in any mixture of cases; the word is given in lower case. -/
def wordOf : List Char → Recogniser
  | [], _ => some 0
  | _ :: _, [] => none
  | letter :: letters, character :: rest =>
      if foldLetter character = letter then
        (wordOf letters rest).map (· + 1)
      else
        none

/-- The recogniser of one fixed text. -/
def exactly (characters : List Char) : Recogniser := fun text =>
  if characters.isPrefixOf text then some characters.length else none

/-- The recogniser of one character or none. -/
def optional (accepts : Char → Bool) : Recogniser := fun text =>
  match text with
  | character :: _ => if accepts character then some 1 else some 0
  | [] => some 0

/-- Accept all leading characters of a class, even if there are none. -/
def anyOf (accepts : Char → Bool) : Recogniser := fun text =>
  some (text.takeWhile accepts).length

/-- Accept all leading characters of a class, of which there has to be one. -/
def someOf (accepts : Char → Bool) : Recogniser := fun text =>
  match (text.takeWhile accepts).length with
  | 0 => none
  | count => some count

/-- Accept a fixed number of characters of a class. -/
def countOf (accepts : Char → Bool) (count : Nat) : Recogniser := fun text =>
  if (text.take count).length = count ∧ (text.take count).all accepts then
    some count
  else
    none

/-- One recogniser after another, which starts where the first ended. -/
def Recogniser.followedBy (first second : Recogniser) : Recogniser := fun text =>
  match first text with
  | none => none
  | some taken => (second (text.drop taken)).map (taken + ·)

/-- Several recognisers, one after the other. -/
def inSequence : List Recogniser → Recogniser
  | [] => fun _ => some 0
  | recogniser :: rest => recogniser.followedBy (inSequence rest)

end PolicyReconciler.Redaction

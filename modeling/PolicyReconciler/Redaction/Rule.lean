namespace PolicyReconciler.Redaction

/-!
# Replacing text by rules

A rule is tried at each position of a text from left to right.  Where it
matches, its replacement is written and the scan goes on after the matched
characters.  The character before a position is always that of the scanned
text, never that of a replacement.
-/

/-- The text put in place of a match, and the number of matched characters. -/
structure Replacement where
  text : List Char
  length : Nat
  deriving Repr, DecidableEq

/--
What a rule does at a position, given the character before it and the text from
there.
-/
abbrev Rule := Option Char → List Char → Option Replacement

/--
Apply a rule to a text, the first `pending` characters of which are already
replaced.
-/
def Rule.scan
    (rule : Rule)
    (before : Option Char)
    (pending : Nat) :
    List Char → List Char
  | [] => []
  | character :: rest =>
      match pending with
      | further + 1 => rule.scan (some character) further rest
      | 0 =>
          match rule before (character :: rest) with
          | some replacement =>
              replacement.text ++ rule.scan (some character)
                (replacement.length - 1) rest
          | none => character :: rule.scan (some character) 0 rest

/-- A rule applied to a whole text, from left to right. -/
def Rule.apply (rule : Rule) (text : List Char) : List Char :=
  rule.scan none 0 text

end PolicyReconciler.Redaction

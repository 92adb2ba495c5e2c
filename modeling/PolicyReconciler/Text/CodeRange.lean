namespace PolicyReconciler.Text

/-!
# Ranges of code points

A character class of Unicode is given as a list of closed ranges.
-/

/-- A closed range of code points. -/
structure CodeRange where
  first : Nat
  last : Nat
  deriving Repr, DecidableEq

/-- Whether a code point lies in a range. -/
def CodeRange.contains (range : CodeRange) (code : Nat) : Bool :=
  range.first ≤ code && code ≤ range.last

/-- Whether a character lies in one of some ranges. -/
def inRanges (ranges : List CodeRange) (character : Char) : Bool :=
  ranges.any fun range => range.contains character.toNat

/-- A character is in a list of ranges exactly if one of them holds its code. -/
theorem inRanges_eq_true_iff
    (ranges : List CodeRange)
    (character : Char) :
    inRanges ranges character = true ↔
      ∃ range ∈ ranges,
        range.first ≤ character.toNat ∧ character.toNat ≤ range.last := by
  simp [inRanges, CodeRange.contains]

end PolicyReconciler.Text

import Mathlib.Data.List.Infix
import PolicyReconciler.Text.Blank
import PolicyReconciler.Text.Lowercase

namespace PolicyReconciler.Text

/-!
# Texts and their lower case

Lowering the case of a text never shortens it, and only the capital that becomes two
characters makes it longer.  That capital is gone afterwards.  So a text occurs in
its own lower case only where nothing had to be lowered.
-/

/-- One text occurs in another exactly if it is an infix. -/
theorem occursIn_iff (part text : List Char) :
    occursIn part text = true ↔ part <:+: text := by
  induction text with
  | nil =>
      rw [occursIn, List.isEmpty_iff, List.infix_nil]
  | cons character rest inductionHypothesis =>
      rw [occursIn, Bool.or_eq_true, inductionHypothesis,
        List.isPrefixOf_iff_prefix, List.infix_cons_iff]

/-- Whether lowering the case of a text leaves it as it is. -/
def IsLower (text : List Char) : Prop :=
  lower text = text

instance (text : List Char) : Decidable (IsLower text) :=
  inferInstanceAs (Decidable (lower text = text))

/-- No capital run leads to the capital that becomes two characters. -/
theorem capitalRuns_miss :
    ∀ run ∈ capitalRuns, run.contains (('İ'.toNat : Int) - run.shift).toNat =
      false := by
  decide +kernel

theorem smallLetter_ne
    {character : Char}
    (other : character ≠ 'İ') :
    smallLetter character ≠ 'İ' := by
  unfold smallLetter
  split
  · rename_i run found
    intro same
    have contained := List.find?_some found
    have code : (character.toNat + run.shift).toNat = 'İ'.toNat := by
      by_cases valid : (character.toNat + run.shift).toNat.isValidChar
      · rw [Char.ofNat, dif_pos valid] at same
        exact congrArg Char.toNat same
      · rw [Char.ofNat, dif_neg valid] at same
        exact absurd same (by decide)
    have shifted : (('İ'.toNat : Int) - run.shift).toNat = character.toNat := by
      have positive : 0 < 'İ'.toNat := by decide
      omega
    rw [← shifted, capitalRuns_miss run (List.mem_of_find?_eq_some found)]
      at contained
    cases contained
  · exact other

theorem not_mem_lowerAt (before after : List Char) (character : Char) :
    'İ' ∉ lowerAt before character after := by
  unfold lowerAt
  split
  · split <;> decide
  · split
    · decide
    · rename_i other
      exact fun inside => smallLetter_ne other (List.mem_singleton.mp inside).symm

/-- A lowered text holds no capital with a dot. -/
theorem not_mem_lowerFrom (before text : List Char) :
    'İ' ∉ lowerFrom before text := by
  induction text generalizing before with
  | nil =>
      exact List.not_mem_nil
  | cons character rest inductionHypothesis =>
      rw [lowerFrom, List.mem_append, not_or]
      exact ⟨not_mem_lowerAt before rest character, inductionHypothesis _⟩

theorem length_lowerAt
    {character : Char}
    (other : character ≠ 'İ')
    (before after : List Char) :
    (lowerAt before character after).length = 1 := by
  unfold lowerAt
  rw [if_neg other]
  split <;> rfl

/-- Lowering keeps the length of a text without capitals that have a dot. -/
theorem length_lowerFrom
    {text : List Char}
    (single : 'İ' ∉ text)
    (before : List Char) :
    (lowerFrom before text).length = text.length := by
  induction text generalizing before with
  | nil =>
      rfl
  | cons character rest inductionHypothesis =>
      obtain ⟨first, others⟩ := not_or.mp (List.mem_cons.not.mp single)
      rw [lowerFrom, List.length_append, length_lowerAt (Ne.symm first),
        inductionHypothesis others, List.length_cons, Nat.add_comm]

/-- A text occurs in its lower case if and only if it is in lower case. -/
theorem occursIn_lower_iff (text : List Char) :
    occursIn text (lower text) = true ↔ IsLower text := by
  rw [occursIn_iff]
  constructor
  · intro occurs
    have single : 'İ' ∉ text := fun inside =>
      not_mem_lowerFrom [] text (occurs.subset inside)
    exact (occurs.eq_of_length (length_lowerFrom single []).symm).symm
  · intro same
    rw [show lower text = text from same]

end PolicyReconciler.Text

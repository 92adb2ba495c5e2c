import Mathlib.Data.List.Infix
import PolicyReconciler.Redaction.Message

namespace PolicyReconciler.Redaction

/-!
# Letters in any case

A character is a form of a letter of a name if folding makes it that letter.  There
are few such characters, so that their classes are found by looking at each of them.
-/

/--
Listed characters are looked at one by one, and not all characters that there are.
-/
instance (priority := 2000) decidableForallMem
    (characters : List Char)
    (property : Char → Prop)
    [DecidablePred property] :
    Decidable (∀ character ∈ characters, property character) :=
  List.decidableBAll property characters

/-- The characters that folding changes. -/
def capitals : List Char :=
  (List.range 26).map (fun position => Char.ofNat ('A'.toNat + position)) ++
    foldedLetters.map Prod.fst

/-- The characters that the names of fields and credentials are made of. -/
def nameLetters : List Char :=
  "abcdefghijklmnopqrstuvwxyz_".toList

/-- Folding changes capitals alone. -/
theorem foldLetter_eq_self_or_mem (character : Char) :
    foldLetter character = character ∨ character ∈ capitals := by
  unfold foldLetter
  cases found : foldedLetters.lookup character with
  | some letter =>
      obtain ⟨front, back, isList, -⟩ := List.lookup_eq_some_iff.mp found
      have listed : (character, letter) ∈ foldedLetters := by
        simp [isList]
      exact .inr (List.mem_append_right _ (List.mem_map_of_mem listed))
  | none =>
      by_cases upper : 'A'.toNat ≤ character.toNat ∧ character.toNat ≤ 'Z'.toNat
      · refine .inr (List.mem_append_left _ (List.mem_map.mpr
          ⟨character.toNat - 'A'.toNat, ?_, ?_⟩))
        · have last : 'Z'.toNat = 'A'.toNat + 25 := rfl
          rw [List.mem_range]
          omega
        · rw [Nat.add_sub_cancel' upper.1, Char.ofNat_toNat]
      · exact .inl (dif_neg upper)

theorem mem_of_foldLetter_mem
    {character : Char}
    (letter : foldLetter character ∈ nameLetters) :
    character ∈ nameLetters ++ capitals := by
  rcases foldLetter_eq_self_or_mem character with same | capital
  · exact List.mem_append_left _ (same ▸ letter)
  · exact List.mem_append_right _ capital

/-- Each character of a name is one of the letters of names. -/
theorem mem_nameLetters_of_sensitive
    {field : String}
    {character : Char}
    (sensitive : field ∈ sensitiveFields)
    (inside : character ∈ field.toList) :
    character ∈ nameLetters := by
  have listed : ∀ field ∈ sensitiveFields, ∀ character ∈ field.toList,
      character ∈ nameLetters := by
    decide
  exact listed field sensitive character inside

/-- The letters of names are folded already. -/
theorem foldLetter_of_mem_nameLetters
    {character : Char}
    (letter : character ∈ nameLetters) :
    foldLetter character = character := by
  have same : ∀ character ∈ nameLetters, foldLetter character = character := by
    decide
  exact same character letter

/-- A capital folds to a letter of a name. -/
theorem foldLetter_of_mem_capitals
    {character : Char}
    (capital : character ∈ capitals) :
    foldLetter character ∈ nameLetters ∧ foldLetter character ≠ '_' := by
  have letters : ∀ capital ∈ capitals,
      foldLetter capital ∈ nameLetters ∧ foldLetter capital ≠ '_' := by
    decide
  exact letters character capital

/-! ## Classes of letters -/

/--
The signs that stand between names and values, end values, or occur in secrets.
-/
def signs : List Char :=
  [':', '=', ',', ';', ')', '/', '+']

/-- All forms of letters are characters of words, and no blanks or signs. -/
theorem letter_forms :
    ∀ form ∈ nameLetters ++ capitals,
      Text.isWordCharacter form = true ∧ Text.isBlank form = false ∧
        form ∉ signs := by
  decide +kernel

theorem isDecimalDigit_of_mem_nameLetters :
    ∀ letter ∈ nameLetters, Text.isDecimalDigit letter = false := by
  decide

/-- The other characters of replacements are no characters of words. -/
theorem isWordCharacter_of_mem_replacement :
    ∀ sign ∈ ['[', ']', ':', ' '], Text.isWordCharacter sign = false := by
  decide +kernel

variable {character : Char}

theorem isWordCharacter_of_foldLetter_mem
    (letter : foldLetter character ∈ nameLetters) :
    Text.isWordCharacter character = true :=
  (letter_forms character (mem_of_foldLetter_mem letter)).1

theorem isBlank_of_foldLetter_mem
    (letter : foldLetter character ∈ nameLetters) :
    Text.isBlank character = false :=
  (letter_forms character (mem_of_foldLetter_mem letter)).2.1

/-- What folds to a letter of a name is no sign. -/
theorem ne_of_foldLetter_mem
    {sign : Char}
    (letter : foldLetter character ∈ nameLetters)
    (listed : sign ∈ signs) :
    character ≠ sign := by
  rintro rfl
  exact (letter_forms character (mem_of_foldLetter_mem letter)).2.2 listed

theorem isFieldSeparator_of_foldLetter_mem
    (letter : foldLetter character ∈ nameLetters) :
    isFieldSeparator character = false := by
  have noColon : character ≠ ':' := ne_of_foldLetter_mem letter (by decide)
  have noEquals : character ≠ '=' := ne_of_foldLetter_mem letter (by decide)
  simp [isFieldSeparator, isBlank_of_foldLetter_mem letter, noColon, noEquals]

/-- The separators of fields are those of credentials, and more. -/
theorem isSeparator_of_isFieldSeparator
    (noSeparator : isFieldSeparator character = false) :
    isSeparator character = false := by
  simp only [isFieldSeparator, Bool.or_eq_false_iff] at noSeparator
  simp [isSeparator, noSeparator.1.1, noSeparator.2]

theorem isSeparator_of_foldLetter_mem
    (letter : foldLetter character ∈ nameLetters) :
    isSeparator character = false :=
  isSeparator_of_isFieldSeparator (isFieldSeparator_of_foldLetter_mem letter)

theorem isFieldValueCharacter_of_foldLetter_mem
    (letter : foldLetter character ∈ nameLetters) :
    isFieldValueCharacter character = true := by
  have noComma : character ≠ ',' := ne_of_foldLetter_mem letter (by decide)
  have noSemicolon : character ≠ ';' := ne_of_foldLetter_mem letter (by decide)
  have noParenthesis : character ≠ ')' := ne_of_foldLetter_mem letter (by decide)
  simp [isFieldValueCharacter, isBlank_of_foldLetter_mem letter,
    noComma, noSemicolon, noParenthesis]

theorem isJoiner_of_foldLetter_eq
    {letter : Char}
    (named : letter ∈ nameLetters)
    (other : letter ≠ '_')
    (isLetter : foldLetter character = letter) :
    isJoiner character = false := by
  subst isLetter
  have noJoiner : character ≠ '_' := by
    rintro rfl
    exact other (by decide)
  simp [isJoiner, isBlank_of_foldLetter_mem named, noJoiner]

/-! ## Classes that do not tell the forms of a letter apart -/

/-- A class of characters that does not tell a letter from its capital. -/
def Foldable (accepts : Char → Bool) : Prop :=
  ∀ character, accepts (foldLetter character) = accepts character

/-- A class is foldable if it treats the forms of each letter alike. -/
theorem foldable_of_letters
    {accepts : Char → Bool}
    (same :
    ∀ letter ∈ nameLetters, letter ≠ '_' → ∀ form, foldLetter form = letter →
      accepts letter = accepts form) :
    Foldable accepts := by
  intro character
  rcases foldLetter_eq_self_or_mem character with unchanged | capital
  · rw [unchanged]
  · obtain ⟨letter, other⟩ := foldLetter_of_mem_capitals capital
    exact same _ letter other character rfl

theorem foldable_isJoiner : Foldable isJoiner := by
  refine foldable_of_letters fun letter named other form isLetter => ?_
  rw [isJoiner_of_foldLetter_eq named other isLetter,
    isJoiner_of_foldLetter_eq named other (foldLetter_of_mem_nameLetters named)]

theorem foldable_isSeparator : Foldable isSeparator := by
  refine foldable_of_letters fun letter named _ form isLetter => ?_
  have folded : foldLetter letter ∈ nameLetters :=
    (foldLetter_of_mem_nameLetters named).symm ▸ named
  subst isLetter
  rw [isSeparator_of_foldLetter_mem named, isSeparator_of_foldLetter_mem folded]

theorem foldable_isKeyCharacter : Foldable isKeyCharacter := by
  refine foldable_of_letters fun letter named _ form isLetter => ?_
  rw [isKeyCharacter, isKeyCharacter, isLetter, foldLetter_of_mem_nameLetters named]

theorem foldable_isSecretCharacter : Foldable isSecretCharacter := by
  refine foldable_of_letters fun letter named _ form isLetter => ?_
  have signless : ∀ form, foldLetter form ∈ nameLetters →
      isSecretCharacter form = isKeyCharacter form := by
    intro form letter
    have other : ∀ sign ∈ signs, (form == sign) = false :=
      fun sign listed => beq_false_of_ne (ne_of_foldLetter_mem letter listed)
    simp only [isSecretCharacter, other '/' (by decide), other '+' (by decide),
      other '=' (by decide), Bool.or_false]
  have folded : foldLetter letter ∈ nameLetters :=
    (foldLetter_of_mem_nameLetters named).symm ▸ named
  subst isLetter
  rw [signless form named, signless _ folded]
  exact foldable_isKeyCharacter form

/-! ## The characters of secrets -/

theorem toNat_of_isAlphanum
    (alphanumeric : character.isAlphanum = true) :
    48 ≤ character.toNat ∧ character.toNat ≤ 122 ∧ character.toNat ≠ 58 := by
  have isCode : character.toNat = character.val.toNat := rfl
  have capitalStart : 'A'.val.toNat = 65 := rfl
  have capitalEnd : 'Z'.val.toNat = 90 := rfl
  have letterStart : 'a'.val.toNat = 97 := rfl
  have letterEnd : 'z'.val.toNat = 122 := rfl
  have digitStart : '0'.val.toNat = 48 := rfl
  have digitEnd : '9'.val.toNat = 57 := rfl
  delta Char.isAlphanum Char.isAlpha Char.isUpper Char.isLower Char.isDigit
    at alphanumeric
  simp only [Bool.or_eq_true, Bool.and_eq_true, decide_eq_true_eq, ge_iff_le,
    UInt32.le_iff_toNat_le] at alphanumeric
  omega

/-- Between the control codes and the end of ASCII there is no blank. -/
theorem isBlank_of_toNat
    (visible : 32 < character.toNat)
    (ascii : character.toNat < 128) :
    Text.isBlank character = false := by
  rw [← Bool.not_eq_true, Text.isBlank, Text.inRanges_eq_true_iff]
  rintro ⟨range, listed, first, last⟩
  have outside :
      ∀ range ∈ Text.blankRanges, range.last ≤ 32 ∨ 128 ≤ range.first := by
    decide
  have := outside range listed
  omega

/-- No character of a secret separates. -/
theorem isSeparator_of_isSecretCharacter
    (secret : isSecretCharacter character = true) :
    isSeparator character = false := by
  rcases foldLetter_eq_self_or_mem character with same | capital
  · have code :
        32 < character.toNat ∧ character.toNat < 128 ∧ character.toNat ≠ 58 := by
      simp only [isSecretCharacter, isKeyCharacter, same, Bool.or_eq_true,
        beq_iff_eq] at secret
      rcases secret with ((alphanumeric | rfl) | rfl) | rfl
      · have := toNat_of_isAlphanum alphanumeric
        omega
      all_goals decide
    obtain ⟨visible, ascii, noColon⟩ := code
    have other : character ≠ ':' := by
      rintro rfl
      exact noColon (by decide)
    simp [isSeparator, isBlank_of_toNat visible ascii, other]
  · exact isSeparator_of_foldLetter_mem (foldLetter_of_mem_capitals capital).1

end PolicyReconciler.Redaction

import PolicyReconciler.Proofs.Redaction.Credentials

namespace PolicyReconciler.Redaction

/-!
# Account numbers in resource names

The rule for account numbers finds every word of its pattern.  It keeps the part of
the word before the number, in which no further number can stand.
-/

open Recogniser Rule

/-- The words of the pattern `arn:aws[a-z\-]*:[a-z0-9\-]+:[a-z0-9\-]*:`. -/
def resourceNameWords : Language Char :=
  literally "arn:aws".toList * (anyNumber isPartitionCharacter * (literally [':'] *
    (atLeastOne isServiceCharacter * (literally [':'] *
      (anyNumber isServiceCharacter * literally [':'])))))

/-- The words of the pattern `\d{12}:`. -/
def accountNumberWords : Language Char :=
  exactlyMany Text.isDecimalDigit accountLength * literally [':']

/-- The words of both patterns in sequence. -/
def accountWords : Language Char :=
  resourceNameWords * accountNumberWords

/-! ## Their recognisers -/

/-- The recogniser of a resource name's beginning reads its language. -/
theorem reads_resourceNamePrefix :
    resourceNamePrefix.Reads resourceNameWords noneFurther := by
  have colon : (exactly [':']).Reads (literally [':']) noneFurther :=
    reads_exactly [':']
  refine (reads_exactly _).then <|
    (reads_anyOf isPartitionCharacter).before (colon.then <|
      (reads_someOf isServiceCharacter).before (colon.then <|
        (reads_anyOf isServiceCharacter).before colon.last ?_) ?_) ?_
  · exact begins_literally (by decide)
  · exact (begins_literally (by decide)).mul
  · exact (begins_literally (by decide)).mul

theorem reads_accountNumber : accountNumber.Reads accountNumberWords noneFurther :=
  (reads_countOf Text.isDecimalDigit accountLength).then (reads_exactly [':'])

/-- A number behind a resource name is redacted. -/
theorem accountRule_of_words
    {name number : List Char}
    (isName : name ∈ resourceNameWords)
    (isNumber : number ∈ accountNumberWords)
    (before : Option Char)
    (rest : List Char) :
    accountRule before (name ++ (number ++ rest)) =
      some ⟨name ++ redactedMark ++ [':'], (name ++ number).length⟩ := by
  have found : resourceNamePrefix (name ++ (number ++ rest)) = some name.length :=
    reads_resourceNamePrefix.exact isName fun _ _ => rfl
  have counted : accountNumber (number ++ rest) = some number.length :=
    reads_accountNumber.exact isNumber fun _ _ => rfl
  simp [accountRule, found, counted]

/-- No account is missed at its own place. -/
theorem accountRule_ne_none
    {word : List Char}
    (isWord : word ∈ accountWords)
    (before : Option Char)
    (rest : List Char) :
    accountRule before (word ++ rest) ≠ none := by
  obtain ⟨name, isName, number, isNumber, rfl⟩ := isWord
  rw [List.append_assoc, accountRule_of_words isName isNumber]
  simp

/-- What is redacted is a number behind a resource name. -/
theorem accountRule_sound
    {before : Option Char}
    {text : List Char}
    {replacement : Replacement}
    (hit : accountRule before text = some replacement) :
    ∃ name number rest, text = name ++ (number ++ rest) ∧ name ∈ resourceNameWords ∧
      number ∈ accountNumberWords ∧
      replacement = ⟨name ++ redactedMark ++ [':'], (name ++ number).length⟩ := by
  unfold accountRule at hit
  cases found : resourceNamePrefix text with
  | none =>
      simp [found] at hit
  | some start =>
      obtain ⟨name, rest, rfl, isName, rfl⟩ := reads_resourceNamePrefix.sound found
      simp only [found, List.drop_left, List.take_left, Option.map_eq_some_iff]
        at hit
      obtain ⟨length, counted, rfl⟩ := hit
      obtain ⟨number, rest, rfl, isNumber, rfl⟩ := reads_accountNumber.sound counted
      exact ⟨name, number, rest, rfl, isName, isNumber, by simp⟩

/-! ## What their words look like -/

theorem count_eq_zero_of_class
    {accepts : Char → Bool}
    {word : List Char}
    {character : Char}
    (accepted : ∀ character ∈ word, accepts character = true)
    (other : accepts character = false) :
    word.count character = 0 := by
  refine List.count_eq_zero.mpr fun member => ?_
  rw [accepted character member] at other
  cases other

/-- The characters of resource names and account numbers. -/
def isAccountCharacter (character : Char) : Bool :=
  isServiceCharacter character || character == ':' || Text.isDecimalDigit character

/-- The alphabet of accounts is plain. -/
theorem plain_of_alphabet
    {word : List Char}
    (alphabet : ∀ character ∈ word, isAccountCharacter character = true) :
    Plain word :=
  plain_of_class alphabet (by decide) (by decide)

/-- What a resource name is made of, and how many colons it has. -/
theorem resourceName_facts
    {name : List Char}
    (isName : name ∈ resourceNameWords) :
    (∀ character ∈ name, isAccountCharacter character = true) ∧ name.count ':' = 4 ∧
      ∃ rest, name = 'a' :: rest := by
  obtain ⟨_, rfl, _, ⟨partition, isPartition, _, ⟨_, rfl, _, ⟨service, isService, _,
    ⟨_, rfl, _, ⟨region, isRegion, _, rfl, rfl⟩, rfl⟩, rfl⟩, rfl⟩, rfl⟩, rfl⟩ :=
    isName
  have ofService : ∀ {part : List Char},
      (∀ character ∈ part, isServiceCharacter character = true) →
      ∀ character ∈ part, isAccountCharacter character = true := by
    intro part accepted character member
    simp [isAccountCharacter, accepted character member]
  have ofPartition :
      ∀ character ∈ partition, isServiceCharacter character = true := by
    intro character member
    have accepted := isPartition character member
    simp only [isPartitionCharacter, Bool.or_eq_true] at accepted
    rcases accepted with lower | hyphen
    · simp [isServiceCharacter, lower]
    · simp [isServiceCharacter, hyphen]
  have colon : ∀ character ∈ [':'], isAccountCharacter character = true := by
    decide
  refine ⟨?_, ?_, _, rfl⟩
  · simp only [List.forall_mem_append]
    exact ⟨by decide, ofService ofPartition, colon, ofService isService.2, colon,
      ofService isRegion, colon⟩
  · simp only [List.count_append]
    rw [count_eq_zero_of_class isPartition (by decide),
      count_eq_zero_of_class isService.2 (by decide),
        count_eq_zero_of_class isRegion (by decide)]
    decide

/-- What the words of the pattern have in common. -/
structure AccountLike (word : List Char) : Prop where
  alphabet : ∀ character ∈ word, isAccountCharacter character = true
  begins : ∃ rest, word = 'a' :: rest
  colons : word.count ':' = 5
  ends :
    ∃ front digit, word = front ++ [digit, ':'] ∧ Text.isDecimalDigit digit = true

theorem AccountLike.plain
    {word : List Char}
    (like : AccountLike word) :
    Plain word :=
  plain_of_alphabet like.alphabet

/-- Every account is like one. -/
theorem accountLike
    {word : List Char}
    (isWord : word ∈ accountWords) :
    AccountLike word := by
  obtain ⟨name, isName, _, ⟨digits, ⟨isLength, areDigits⟩, _, rfl, rfl⟩, rfl⟩ :=
    isWord
  obtain ⟨alphabet, colons, rest, isCons⟩ := resourceName_facts isName
  refine ⟨?_, ⟨rest ++ (digits ++ [':']), by rw [isCons]; rfl⟩, ?_, ?_⟩
  · simp only [List.forall_mem_append]
    refine ⟨alphabet, fun character member => ?_, by decide⟩
    simp [isAccountCharacter, areDigits character member]
  · simp only [List.count_append, colons]
    rw [count_eq_zero_of_class areDigits (by decide)]
    decide
  · have some : digits ≠ [] := List.length_pos_iff.mp (by rw [isLength]; decide)
    refine ⟨name ++ digits.dropLast, digits.getLast some, ?_,
      areDigits _ (List.getLast_mem some)⟩
    have whole := List.dropLast_append_getLast some
    conv_lhs => rw [← whole]
    simp

/-! ## A scan by the rule for account numbers -/

/-- The rule never takes an empty text. -/
theorem proper_accountRule : accountRule.Proper := by
  intro before text replacement hit
  obtain ⟨name, number, rest, rfl, isName, -, rfl⟩ := accountRule_sound hit
  obtain ⟨-, -, more, rfl⟩ := resourceName_facts isName
  simp

/-- The rule keeps the resource name in front of the mark. -/
theorem lead_of_account
    {before : Option Char}
    {text : List Char}
    {replacement : Replacement}
    (hit : accountRule before text = some replacement) :
    replacement.text = replacement.lead ++ redactedMark ++ [':'] ∧
      replacement.lead ∈ resourceNameWords ∧ replacement.lead <+: text := by
  obtain ⟨name, number, rest, rfl, isName, -, rfl⟩ := accountRule_sound hit
  have isLead : Replacement.lead
      ⟨name ++ redactedMark ++ [':'], (name ++ number).length⟩ = name := by
    have plain := (plain_of_alphabet (resourceName_facts isName).1).1
    rw [Replacement.lead, List.append_assoc]
    refine takeWhile_append_of_halts (fun character member => ?_)
      (by rintro _ ⟨⟩; rfl)
    exact bne_iff_ne.mpr fun isOpening => plain (isOpening ▸ member)
  rw [isLead]
  exact ⟨rfl, isName, List.prefix_append name _⟩

/-- The rule leaves a mark with a colon behind it. -/
theorem marks_accountRule : accountRule.Marks [':'] :=
  fun _ _ _ hit => (lead_of_account hit).1

end PolicyReconciler.Redaction

import Mathlib.Data.List.Forall2
import PolicyReconciler.Proofs.Redaction.Origin
import PolicyReconciler.Proofs.Redaction.Pattern

namespace PolicyReconciler.Redaction

/-!
# Credentials are removed for good

The recognisers of credentials find every word of the three patterns, so their rules
leave none of them.  No later rule brings one back: a word that a later rule would
complete was there before, spelled in another case at most.
-/

open Recogniser

/-! ## The patterns -/

/-- Words after the letters of a name, with a joiner between them or without. -/
def joined (letters : List Char) (words : Language Char) : Language Char :=
  spelled letters * (atMostOne isJoiner * words)

/-- Values after the letters of a name and separators. -/
def valued (letters : List Char) (values : Language Char) : Language Char :=
  spelled letters * (atLeastOne isSeparator * values)

/-- The words of the pattern `access[_\s]?key[_\s]?id[:\s]+([A-Z0-9]{20})`. -/
def accessKeyIdWords : Language Char :=
  joined "access".toList <| joined "key".toList <|
    valued "id".toList (exactlyMany isKeyCharacter 20)

/--
The words of the pattern `secret[_\s]?access[_\s]?key[:\s]+([A-Za-z0-9/+=]{40})`.
-/
def secretAccessKeyWords : Language Char :=
  joined "secret".toList <| joined "access".toList <|
    valued "key".toList (exactlyMany isSecretCharacter 40)

/-- The words of the pattern `session[_\s]?token[:\s]+([A-Za-z0-9/+=]+)`. -/
def sessionTokenWords : Language Char :=
  joined "session".toList <| valued "token".toList (atLeastOne isSecretCharacter)

/-- The texts of the three credentials. -/
def credentialWords : List (Language Char) :=
  [accessKeyIdWords, secretAccessKeyWords, sessionTokenWords]

/-! ## Their recognisers -/

/-- A word in front of a joined language is read with it. -/
theorem reads_joined
    {letters : List Char}
    {words : Language Char}
    {recogniser : Recogniser}
    {onward : Char → Bool}
    (reads : recogniser.Reads words onward)
    (begins : Begins words isJoiner) :
    ((wordOf letters).followedBy ((optional isJoiner).followedBy recogniser)).Reads
      (joined letters words) onward :=
  (reads_wordOf letters).then ((reads_optional isJoiner).before reads begins)

/-- A word in front of a value is read with it. -/
theorem reads_valued
    {letters : List Char}
    {values : Language Char}
    {recogniser : Recogniser}
    {onward : Char → Bool}
    (reads : recogniser.Reads values onward)
    (begins : Begins values isSeparator) :
    ((wordOf letters).followedBy ((someOf isSeparator).followedBy recogniser)).Reads
      (valued letters values) onward :=
  (reads_wordOf letters).then ((reads_someOf isSeparator).before reads begins)

/-- A word that begins with a letter does not go on with a joiner. -/
theorem begins_letter
    {letter : Char}
    {letters : List Char}
    {words : Language Char}
    (named : letter ∈ nameLetters)
    (other : letter ≠ '_') :
    Begins (spelled (letter :: letters) * words) isJoiner :=
  (begins_spelled fun _ => isJoiner_of_foldLetter_eq named other).mul

theorem isSecretCharacter_of_isKeyCharacter
    {character : Char}
    (key : isKeyCharacter character = true) :
    isSecretCharacter character = true := by
  simp [isSecretCharacter, key]

/-- The recogniser of access key identifiers reads their language. -/
theorem reads_accessKeyId : accessKeyId.Reads accessKeyIdWords noneFurther := by
  have value :
      (inSequence [countOf isKeyCharacter 20]).Reads (exactlyMany isKeyCharacter 20)
      noneFurther := (reads_countOf isKeyCharacter 20).last
  refine reads_joined (reads_joined (reads_valued value ?_) ?_) ?_
  · exact begins_exactlyMany fun character key =>
      isSeparator_of_isSecretCharacter (isSecretCharacter_of_isKeyCharacter key)
  · exact begins_letter (by decide) (by decide)
  · exact begins_letter (by decide) (by decide)

/-- The recogniser of secret access keys reads their language. -/
theorem reads_secretAccessKey :
    secretAccessKey.Reads secretAccessKeyWords noneFurther := by
  have value : (inSequence [countOf isSecretCharacter 40]).Reads
      (exactlyMany isSecretCharacter 40) noneFurther :=
    (reads_countOf isSecretCharacter 40).last
  refine reads_joined (reads_joined (reads_valued value ?_) ?_) ?_
  · exact begins_exactlyMany fun character => isSeparator_of_isSecretCharacter
  · exact begins_letter (by decide) (by decide)
  · exact begins_letter (by decide) (by decide)

/-- The recogniser of session tokens reads their language. -/
theorem reads_sessionToken :
    sessionToken.Reads sessionTokenWords isSecretCharacter := by
  have value :
      (inSequence [someOf isSecretCharacter]).Reads (atLeastOne isSecretCharacter)
      isSecretCharacter := (reads_someOf isSecretCharacter).last
  refine reads_joined (reads_valued value ?_) ?_
  · exact begins_atLeastOne fun character => isSeparator_of_isSecretCharacter
  · exact begins_letter (by decide) (by decide)

/-! ## What their words look like -/

/-- A class without brackets is plain. -/
theorem plain_of_class
    {accepts : Char → Bool}
    {word : List Char}
    (accepted : ∀ character ∈ word, accepts character = true)
    (opening : accepts '[' = false)
    (closing : accepts ']' = false) :
    Plain word := by
  constructor
  · intro member
    rw [accepted _ member] at opening
    cases opening
  · intro member
    rw [accepted _ member] at closing
    cases closing

theorem plain_append {front back : List Char} :
    Plain (front ++ back) ↔ Plain front ∧ Plain back := by
  simp only [Plain, List.mem_append, not_or]
  tauto

/-- The letters of names are plain. -/
theorem plain_of_letters
    {name : List Char}
    (named : ∀ character ∈ name, foldLetter character ∈ nameLetters) :
    Plain name := by
  have letters : ∀ character ∈ name, Text.isWordCharacter character = true :=
    fun character member =>
      isWordCharacter_of_foldLetter_mem (named character member)
  exact plain_of_class letters (isWordCharacter_of_mem_replacement '[' (by decide))
    (isWordCharacter_of_mem_replacement ']' (by decide))

/-- What the words of the patterns have in common. -/
structure CredentialLike (word : List Char) : Prop where
  plain : Plain word
  begins :
    ∃ character rest, word = character :: rest ∧ foldLetter character ∈ nameLetters
  separated : ∃ character ∈ word, isSeparator character = true
  ends :
    ∃ character, word.getLast? = some character ∧ isSecretCharacter character = true

/-- A name with a separated rest is like a credential. -/
theorem CredentialLike.of_named
    {name rest : List Char}
    (named : ∀ character ∈ name, foldLetter character ∈ nameLetters)
    (nonempty : name ≠ [])
    (plain : Plain rest)
    (separated : ∃ character ∈ rest, isSeparator character = true)
    (ends : ∃ character, rest.getLast? = some character ∧
      isSecretCharacter character = true) :
    CredentialLike (name ++ rest) where
  plain := plain_append.mpr ⟨plain_of_letters named, plain⟩
  begins := by
    obtain ⟨character, more, rfl⟩ := List.exists_cons_of_ne_nil nonempty
    exact ⟨character, more ++ rest, rfl, named character List.mem_cons_self⟩
  separated := by
    obtain ⟨character, member, separator⟩ := separated
    exact ⟨character, List.mem_append_right name member, separator⟩
  ends := by
    obtain ⟨character, isLast, secret⟩ := ends
    exact ⟨character, by rw [List.getLast?_append, isLast, Option.some_or], secret⟩

theorem spelled_ne_nil
    {letters word : List Char}
    (nonempty : letters ≠ [])
    (isWord : word ∈ spelled letters) :
    word ≠ [] := by
  rintro rfl
  exact nonempty isWord.symm

/-- A word in front of what is like a credential leaves it so. -/
theorem credentialLike_joined
    {letters : List Char}
    {words : Language Char}
    (named : ∀ letter ∈ letters, letter ∈ nameLetters)
    (nonempty : letters ≠ [])
    (like : ∀ word ∈ words, CredentialLike word) :
    ∀ word ∈ joined letters words, CredentialLike word := by
  rintro _ ⟨name, isName, _, ⟨joiner, isJoiner, word, isWord, rfl⟩, rfl⟩
  obtain ⟨plain, -, ⟨character, member, separator⟩, last, isLast, secret⟩ :=
    like word isWord
  refine .of_named (foldLetter_mem_of_spelled named isName)
    (spelled_ne_nil nonempty isName)
    ?_ ?_ ?_
  · exact plain_append.mpr
      ⟨plain_of_class isJoiner.2 (by decide) (by decide), plain⟩
  · exact ⟨character, List.mem_append_right joiner member, separator⟩
  · exact ⟨last, by rw [List.getLast?_append, isLast, Option.some_or], secret⟩

/-- A word with a value is like a credential. -/
theorem credentialLike_valued
    {letters : List Char}
    {values : Language Char}
    (named : ∀ letter ∈ letters, letter ∈ nameLetters)
    (nonempty : letters ≠ [])
    (secrets : ∀ value ∈ values, value ∈ atLeastOne isSecretCharacter) :
    ∀ word ∈ valued letters values, CredentialLike word := by
  rintro _ ⟨name, isName, _,
    ⟨separators, ⟨some, areSeparators⟩, value, isValue, rfl⟩, rfl⟩
  obtain ⟨more, secret⟩ := secrets value isValue
  refine .of_named (foldLetter_mem_of_spelled named isName)
    (spelled_ne_nil nonempty isName)
    ?_ ?_ ?_
  · exact plain_append.mpr
      ⟨plain_of_class areSeparators (by decide) (by decide),
        plain_of_class secret (by decide) (by decide)⟩
  · obtain ⟨character, rest, rfl⟩ := List.exists_cons_of_ne_nil some
    exact ⟨character, by simp, areSeparators character List.mem_cons_self⟩
  · refine ⟨value.getLast more, ?_, secret _ (List.getLast_mem more)⟩
    rw [List.getLast?_append, List.getLast?_eq_some_getLast more, Option.some_or]

/-- Joining keeps a language caseless. -/
theorem caseless_joined
    {letters : List Char}
    {words : Language Char}
    (caseless : Caseless words) :
    Caseless (joined letters words) :=
  (caseless_spelled letters).mul
    ((caseless_atMostOne foldable_isJoiner).mul caseless)

/-- Valuing keeps a language caseless. -/
theorem caseless_valued
    {letters : List Char}
    {values : Language Char}
    (caseless : Caseless values) :
    Caseless (valued letters values) :=
  (caseless_spelled letters).mul
    ((caseless_atLeastOne foldable_isSeparator).mul caseless)

/-- Recognisers that find the words of a pattern for credentials. -/
structure Recognises (recogniser : Recogniser) (words : Language Char) : Prop where
  finds : ∀ word ∈ words, ∀ rest, recogniser (word ++ rest) ≠ none
  sound : ∀ {text length}, recogniser text = some length →
    ∃ word rest, text = word ++ rest ∧ word ∈ words ∧ word.length = length
  like : ∀ word ∈ words, CredentialLike word
  caseless : Caseless words

/-- A recogniser that reads a credential's language recognises it. -/
theorem recognises_of_reads
    {recogniser : Recogniser}
    {words : Language Char}
    {onward : Char → Bool}
    (reads : recogniser.Reads words onward)
    (grows : Grows words onward)
    (like : ∀ word ∈ words, CredentialLike word)
    (caseless : Caseless words) :
    Recognises recogniser words where
  finds _ isWord rest := reads.ne_none grows isWord rest
  sound := reads.sound
  like := like
  caseless := caseless

/-- Each recogniser recognises its own credential. -/
theorem credentials_recognised :
    List.Forall₂ Recognises credentials credentialWords := by
  refine .cons ?_ (.cons ?_ (.cons ?_ .nil))
  · refine recognises_of_reads reads_accessKeyId (grows_noneFurther _) ?_ ?_
    · refine credentialLike_joined (by decide) (by decide) <|
        credentialLike_joined (by decide) (by decide) <|
        credentialLike_valued (by decide) (by decide) ?_
      rintro value ⟨isLength, keys⟩
      refine ⟨List.length_pos_iff.mp (by omega), fun character member => ?_⟩
      exact isSecretCharacter_of_isKeyCharacter (keys character member)
    · exact caseless_joined <| caseless_joined <| caseless_valued <|
        caseless_exactlyMany foldable_isKeyCharacter
  · refine recognises_of_reads reads_secretAccessKey (grows_noneFurther _) ?_ ?_
    · refine credentialLike_joined (by decide) (by decide) <|
        credentialLike_joined (by decide) (by decide) <|
        credentialLike_valued (by decide) (by decide) ?_
      exact fun value secrets =>
        ⟨List.length_pos_iff.mp (by rw [secrets.1]; decide), secrets.2⟩
    · exact caseless_joined <| caseless_joined <| caseless_valued <|
        caseless_exactlyMany foldable_isSecretCharacter
  · refine recognises_of_reads reads_sessionToken
      (grows_atLeastOne isSecretCharacter).mul.mul.mul.mul ?_ ?_
    · exact credentialLike_joined (by decide) (by decide) <|
        credentialLike_valued (by decide) (by decide) fun value secrets => secrets
    · exact caseless_joined <| caseless_valued <|
        caseless_atLeastOne foldable_isSecretCharacter

/-- Every recogniser has its credential. -/
theorem exists_words
    {recogniser : Recogniser}
    (listed : recogniser ∈ credentials) :
    ∃ words, Recognises recogniser words := by
  have paired := credentials_recognised.imp fun _ words recognises =>
    And.intro (Exists.intro words recognises) recognises
  exact ((List.forall₂_and_left _ _).mp paired).1 recogniser listed

/-- Every credential has its recogniser. -/
theorem exists_recogniser
    {words : Language Char}
    (listed : words ∈ credentialWords) :
    ∃ recogniser, Recognises recogniser words := by
  have flipped : List.Forall₂ (flip Recognises) credentialWords credentials :=
    credentials_recognised.flip
  have paired := flipped.imp fun _ recogniser recognises =>
    And.intro (Exists.intro recogniser recognises) recognises
  exact ((List.forall₂_and_left _ _).mp paired).1 words listed

end PolicyReconciler.Redaction

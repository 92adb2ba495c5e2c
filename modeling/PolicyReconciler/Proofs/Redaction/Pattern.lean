import Mathlib.Computability.Language
import Mathlib.Data.List.TakeWhile
import PolicyReconciler.Proofs.Redaction.Letters

namespace PolicyReconciler.Redaction

/-!
# The words that recognisers accept

A pattern is a language that is put together from the words of its parts.  A
recogniser reads a language if it accepts each of its words, provided that the text
behind the word does not go on with characters that the last part would take as
well, and nothing else.
-/

/-! ## The parts of patterns -/

/-- A word in any mixture of cases. -/
def spelled (letters : List Char) : Language Char :=
  {word | word.map foldLetter = letters}

/-- One fixed text. -/
def literally (characters : List Char) : Language Char :=
  {characters}

/-- No character, or one of a class. -/
def atMostOne (accepts : Char → Bool) : Language Char :=
  {word | word.length ≤ 1 ∧ ∀ character ∈ word, accepts character = true}

/-- Any number of characters of a class. -/
def anyNumber (accepts : Char → Bool) : Language Char :=
  {word | ∀ character ∈ word, accepts character = true}

/-- One character of a class or more. -/
def atLeastOne (accepts : Char → Bool) : Language Char :=
  {word | word ≠ [] ∧ ∀ character ∈ word, accepts character = true}

/-- A fixed number of characters of a class. -/
def exactlyMany (accepts : Char → Bool) (count : Nat) : Language Char :=
  {word | word.length = count ∧ ∀ character ∈ word, accepts character = true}

/-- Whether a text does not begin with a character of a class. -/
def Halts (accepts : Char → Bool) (text : List Char) : Prop :=
  ∀ character, text.head? = some character → accepts character = false

/-- A class halts where it was dropped. -/
theorem halts_dropWhile (accepts : Char → Bool) (text : List Char) :
    Halts accepts (text.dropWhile accepts) := by
  intro character isHead
  have first := List.head?_dropWhile_not accepts text
  rwa [isHead] at first

/-- Whether all words of a language begin, and not with a character of a class. -/
def Begins (words : Language Char) (avoided : Char → Bool) : Prop :=
  ∀ word ∈ words, ∃ character rest, word = character :: rest ∧
    avoided character = false

variable {accepts avoided : Char → Bool}
variable {first second words : Language Char}

/-- A product begins as its first factor. -/
theorem Begins.mul
    (begins : Begins first avoided) :
    Begins (first * second) avoided := by
  rintro _ ⟨left, isLeft, right, -, rfl⟩
  obtain ⟨character, rest, rfl, other⟩ := begins left isLeft
  exact ⟨character, rest ++ right, rfl, other⟩

theorem begins_literally
    {character : Char}
    {rest : List Char}
    (other : avoided character = false) :
    Begins (literally (character :: rest)) avoided := by
  rintro _ rfl
  exact ⟨character, rest, rfl, other⟩

theorem begins_spelled
    {letter : Char}
    {letters : List Char}
    (other :
      ∀ character, foldLetter character = letter → avoided character = false) :
    Begins (spelled (letter :: letters)) avoided := by
  intro word isWord
  obtain ⟨character, rest, rfl, isLetter, -⟩ := List.map_eq_cons_iff.mp isWord
  exact ⟨character, rest, rfl, other character isLetter⟩

theorem begins_atLeastOne
    (other : ∀ character, accepts character = true → avoided character = false) :
    Begins (atLeastOne accepts) avoided := by
  rintro word ⟨nonempty, accepted⟩
  obtain ⟨character, rest, rfl⟩ := List.exists_cons_of_ne_nil nonempty
  exact ⟨character, rest, rfl,
    other character (accepted character List.mem_cons_self)⟩

theorem begins_exactlyMany
    {count : Nat}
    (other : ∀ character, accepts character = true → avoided character = false) :
    Begins (exactlyMany accepts (count + 1)) avoided := by
  rintro word ⟨isLength, accepted⟩
  obtain ⟨character, rest, rfl⟩ := List.exists_cons_of_length_eq_add_one isLength
  exact ⟨character, rest, rfl,
    other character (accepted character List.mem_cons_self)⟩

theorem foldLetter_mem_of_spelled
    {letters word : List Char}
    (named : ∀ letter ∈ letters, letter ∈ nameLetters)
    (isWord : word ∈ spelled letters) :
    ∀ character ∈ word, foldLetter character ∈ nameLetters := by
  intro character member
  cases isWord
  exact named _ (List.mem_map_of_mem member)

/-! ## Closed languages -/

/-- Whether a word may go on with the characters of a class. -/
def Grows (words : Language Char) (onward : Char → Bool) : Prop :=
  ∀ word ∈ words, ∀ more, (∀ character ∈ more, onward character = true) →
    word ++ more ∈ words

/-- Whether a language does not tell the forms of letters apart. -/
def Caseless (words : Language Char) : Prop :=
  ∀ word ∈ words, ∀ other : List Char,
    other.map foldLetter = word.map foldLetter → other ∈ words

/-- A product grows as its last factor. -/
theorem Grows.mul
    {onward : Char → Bool}
    (grows : Grows second onward) :
    Grows (first * second) onward := by
  rintro _ ⟨left, isLeft, right, isRight, rfl⟩ more accepted
  rw [List.append_assoc]
  exact Language.append_mem_mul isLeft (grows right isRight more accepted)

/-- One or more of a class grow by it. -/
theorem grows_atLeastOne (accepts : Char → Bool) :
    Grows (atLeastOne accepts) accepts := by
  rintro word ⟨nonempty, accepted⟩ more further
  exact ⟨by simp [nonempty], List.forall_mem_append.mpr ⟨accepted, further⟩⟩

/-- A product of caseless languages is caseless. -/
theorem Caseless.mul
    (left : Caseless first)
    (right : Caseless second) :
    Caseless (first * second) := by
  rintro _ ⟨front, isFront, back, isBack, rfl⟩ other same
  rw [List.map_append] at same
  obtain ⟨front', back', rfl, sameFront, sameBack⟩ := List.map_eq_append_iff.mp same
  exact Language.append_mem_mul (left front isFront front' sameFront)
    (right back isBack back' sameBack)

theorem caseless_spelled (letters : List Char) : Caseless (spelled letters) :=
  fun _ isWord _ same => same.trans isWord

/-- A foldable class accepts a text in every case. -/
theorem Foldable.all
    (foldable : Foldable accepts)
    {word other : List Char}
    (accepted : ∀ character ∈ word, accepts character = true)
    (same : other.map foldLetter = word.map foldLetter) :
    ∀ character ∈ other, accepts character = true := by
  intro character member
  have folded : foldLetter character ∈ word.map foldLetter :=
    same ▸ List.mem_map_of_mem member
  obtain ⟨original, inside, isFolded⟩ := List.mem_map.mp folded
  rw [← foldable, ← isFolded, foldable]
  exact accepted original inside

theorem caseless_atMostOne
    (foldable : Foldable accepts) :
    Caseless (atMostOne accepts) := by
  rintro word ⟨short, accepted⟩ other same
  have length : other.length = word.length := by
    simpa using congrArg List.length same
  exact ⟨length ▸ short, foldable.all accepted same⟩

theorem caseless_atLeastOne
    (foldable : Foldable accepts) :
    Caseless (atLeastOne accepts) := by
  rintro word ⟨nonempty, accepted⟩ other same
  refine ⟨?_, foldable.all accepted same⟩
  rintro rfl
  exact nonempty (List.map_eq_nil_iff.mp same.symm)

theorem caseless_exactlyMany
    {count : Nat}
    (foldable : Foldable accepts) :
    Caseless (exactlyMany accepts count) := by
  rintro word ⟨isLength, accepted⟩ other same
  have length : other.length = word.length := by
    simpa using congrArg List.length same
  exact ⟨length.trans isLength, foldable.all accepted same⟩

/-! ## Recognisers that read a language -/

namespace Recogniser

/--
The class holds the characters that a last part which takes all it can would go on
with.
-/
structure Reads
    (recogniser : Recogniser)
    (words : Language Char)
    (onward : Char → Bool) :
    Prop where
  sound : ∀ {text length}, recogniser text = some length →
    ∃ word rest, text = word ++ rest ∧ word ∈ words ∧ word.length = length
  exact : ∀ {word rest}, word ∈ words → Halts onward rest →
    recogniser (word ++ rest) = some word.length

/-- A class without characters: where a part takes a fixed number of them. -/
def noneFurther : Char → Bool := fun _ => false

/-- Every language grows by nothing. -/
theorem grows_noneFurther (words : Language Char) : Grows words noneFurther := by
  intro word isWord more accepted
  cases more with
  | nil =>
      rwa [List.append_nil]
  | cons character more =>
      cases accepted character List.mem_cons_self

variable {recogniser later : Recogniser}
variable {onward further : Char → Bool}

/-- Recognisers one after the other read the product of their languages. -/
theorem Reads.followedBy
    (reads : recogniser.Reads first onward)
    (readsLater : later.Reads second further)
    (apart : ∀ word ∈ second, ∀ rest, Halts onward (word ++ rest)) :
    (recogniser.followedBy later).Reads (first * second) further where
  sound := by
    intro text length accepted
    unfold Recogniser.followedBy at accepted
    cases found : recogniser text with
    | none =>
        simp [found] at accepted
    | some taken =>
        obtain ⟨left, rest, rfl, isLeft, rfl⟩ := reads.sound found
        simp only [found, List.drop_left, Option.map_eq_some_iff] at accepted
        obtain ⟨more, foundLater, rfl⟩ := accepted
        obtain ⟨right, rest, rfl, isRight, rfl⟩ := readsLater.sound foundLater
        exact ⟨left ++ right, rest, (List.append_assoc ..).symm,
          Language.append_mem_mul isLeft isRight, List.length_append⟩
  exact := by
    rintro _ rest ⟨left, isLeft, right, isRight, rfl⟩ halts
    have found : recogniser (left ++ (right ++ rest)) = some left.length :=
      reads.exact isLeft (apart right isRight rest)
    simp only [Recogniser.followedBy, List.append_assoc, found, List.drop_left,
      readsLater.exact isRight halts, Option.map_some, List.length_append]

/-- A part of fixed length may be followed by anything. -/
theorem Reads.then
    (reads : recogniser.Reads first noneFurther)
    (readsLater : later.Reads second further) :
    (recogniser.followedBy later).Reads (first * second) further :=
  reads.followedBy readsLater fun _ _ _ _ _ => rfl

/-- A part that takes all it can is followed by words that it cannot go on with. -/
theorem Reads.before
    (reads : recogniser.Reads first onward)
    (readsLater : later.Reads second further)
    (begins : Begins second onward) :
    (recogniser.followedBy later).Reads (first * second) further := by
  refine reads.followedBy readsLater fun word isWord rest character isHead => ?_
  obtain ⟨head, more, rfl, other⟩ := begins word isWord
  cases isHead
  exact other

theorem inSequence_singleton (recogniser : Recogniser) :
    inSequence [recogniser] = recogniser := by
  funext text
  cases found : recogniser text with
  | none =>
      simp only [inSequence, Recogniser.followedBy, found]
  | some taken =>
      simp only [inSequence, Recogniser.followedBy, found,
        Option.map_some, Nat.add_zero]

/-- The last of a sequence reads its own language. -/
theorem Reads.last
    (reads : recogniser.Reads words onward) :
    (inSequence [recogniser]).Reads words onward := by
  rwa [inSequence_singleton]

/-- The recogniser of a word reads its spellings. -/
theorem reads_wordOf (letters : List Char) :
    (wordOf letters).Reads (spelled letters) noneFurther where
  sound := by
    intro text length accepted
    induction letters generalizing text length with
    | nil =>
        cases accepted
        exact ⟨[], text, rfl, rfl, rfl⟩
    | cons letter letters inductionHypothesis =>
        cases text with
        | nil =>
            cases accepted
        | cons character text =>
            simp only [wordOf] at accepted
            split at accepted
            · rename_i same
              obtain ⟨more, found, rfl⟩ := Option.map_eq_some_iff.mp accepted
              obtain ⟨word, rest, rfl, isWord, rfl⟩ := inductionHypothesis found
              exact ⟨character :: word, rest, rfl,
                congrArg₂ List.cons same isWord, rfl⟩
            · cases accepted
  exact := by
    intro word rest isWord _
    induction word generalizing letters with
    | nil =>
        cases isWord
        rfl
    | cons character word inductionHypothesis =>
        cases isWord
        simp only [List.map_cons, List.cons_append, wordOf, if_pos,
          List.length_cons]
        rw [inductionHypothesis _ rfl]
        rfl

/-- The recogniser of a fixed text reads that text. -/
theorem reads_exactly (characters : List Char) :
    (exactly characters).Reads (literally characters) noneFurther where
  sound := by
    intro text length accepted
    unfold exactly at accepted
    split at accepted
    · rename_i isFront
      obtain ⟨rest, rfl⟩ := List.isPrefixOf_iff_prefix.mp isFront
      exact ⟨characters, rest, rfl, rfl, Option.some.inj accepted⟩
    · cases accepted
  exact := by
    rintro _ rest rfl _
    exact if_pos (List.isPrefixOf_iff_prefix.mpr (List.prefix_append ..))

/-- The recogniser of a fixed number reads that many. -/
theorem reads_countOf (accepts : Char → Bool) (count : Nat) :
    (countOf accepts count).Reads (exactlyMany accepts count) noneFurther where
  sound := by
    intro text length accepted
    unfold countOf at accepted
    split at accepted
    · rename_i counted
      refine ⟨text.take count, text.drop count, (List.take_append_drop ..).symm,
        ⟨counted.1, ?_⟩, counted.1.trans (Option.some.inj accepted)⟩
      exact List.all_eq_true.mp counted.2
    · cases accepted
  exact := by
    rintro word rest ⟨isLength, accepted⟩ _
    subst isLength
    unfold countOf
    rw [List.take_left]
    exact if_pos ⟨rfl, List.all_eq_true.mpr accepted⟩

/-- The recogniser of one or none reads at most one. -/
theorem reads_optional (accepts : Char → Bool) :
    (optional accepts).Reads (atMostOne accepts) accepts where
  sound := by
    intro text length accepted
    unfold optional at accepted
    split at accepted
    · rename_i character rest
      split at accepted
      · rename_i isAccepted
        cases accepted
        exact ⟨[character], rest, rfl,
          ⟨Nat.le_refl 1, by simpa using isAccepted⟩, rfl⟩
      · cases accepted
        exact ⟨[], character :: rest, rfl, ⟨Nat.zero_le 1, by simp⟩, rfl⟩
    · cases accepted
      exact ⟨[], [], rfl, ⟨Nat.zero_le 1, by simp⟩, rfl⟩
  exact := by
    rintro word rest ⟨short, accepted⟩ halts
    match word, short with
    | [], _ =>
        cases rest with
        | nil =>
            rfl
        | cons character rest =>
            simp [optional, halts character rfl]
    | [character], _ =>
        simp [optional, accepted character]

/-- A class takes a text up to where it halts. -/
theorem takeWhile_append_of_halts
    {word rest : List Char}
    (accepted : ∀ character ∈ word, accepts character = true)
    (halts : Halts accepts rest) :
    (word ++ rest).takeWhile accepts = word := by
  rw [List.takeWhile_append_of_pos accepted]
  cases rest with
  | nil =>
      simp
  | cons character rest =>
      simp [halts character rfl]

/-- The recogniser of any number reads any number. -/
theorem reads_anyOf (accepts : Char → Bool) :
    (anyOf accepts).Reads (anyNumber accepts) accepts where
  sound := by
    intro text length accepted
    cases accepted
    exact ⟨_, _, (List.takeWhile_append_dropWhile (p := accepts)).symm,
      fun character member => List.mem_takeWhile_imp member, rfl⟩
  exact := by
    intro word rest accepted halts
    rw [anyOf, takeWhile_append_of_halts accepted halts]

/-- The recogniser of one or more reads at least one. -/
theorem reads_someOf (accepts : Char → Bool) :
    (someOf accepts).Reads (atLeastOne accepts) accepts where
  sound := by
    intro text length accepted
    unfold someOf at accepted
    split at accepted
    · cases accepted
    · rename_i positive
      refine ⟨_, _, (List.takeWhile_append_dropWhile (p := accepts)).symm,
        ⟨?_, fun character member => List.mem_takeWhile_imp member⟩,
          Option.some.inj accepted⟩
      intro isEmpty
      rw [isEmpty] at positive
      exact positive rfl
  exact := by
    rintro word rest ⟨nonempty, accepted⟩ halts
    rw [someOf, takeWhile_append_of_halts accepted halts]
    cases word with
    | nil =>
        contradiction
    | cons character word =>
        rfl

/--
A recogniser finds a word of its language at the start of every text that begins
with one.
-/
theorem Reads.ne_none
    {word : List Char}
    (reads : recogniser.Reads words onward)
    (grows : Grows words onward)
    (isWord : word ∈ words)
    (rest : List Char) :
    recogniser (word ++ rest) ≠ none := by
  have grown : word ++ rest.takeWhile onward ∈ words :=
    grows word isWord _ fun _ member => List.mem_takeWhile_imp member
  have halts : Halts onward (rest.dropWhile onward) := halts_dropWhile onward rest
  have found := reads.exact grown halts
  rw [List.append_assoc, List.takeWhile_append_dropWhile] at found
  simp [found]

end Recogniser

end PolicyReconciler.Redaction

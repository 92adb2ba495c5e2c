import PolicyReconciler.Proofs.Redaction.Clean

namespace PolicyReconciler.Redaction

/-!
# Texts with a quiet front and a quiet back

Every name of a credential or a field has one of six words in it.  Where these words
do not occur in the front and in the back of a text, and the text between them
stands apart, all rules but the one for account numbers act between them only.
-/

open Recogniser Rule

/--
The words that every name of a credential or a field begins with or consists of.
-/
def tellingWords : List (List Char) :=
  ["access", "secret", "session", "token", "password", "credentials"].map
    String.toList

/-- Whether none of the telling words occurs in a text, in any mixture of cases. -/
def Quiet (text : List Char) : Prop :=
  ∀ letters ∈ tellingWords, Absent (spelled letters) text

/-- A text is quiet exactly if it contains no telling word. -/
theorem quiet_iff
    {text : List Char} :
    Quiet text ↔ ∀ letters ∈ tellingWords, ¬ letters <:+: text.map foldLetter := by
  refine forall₂_congr fun letters _ => ?_
  simp only [Absent, List.infix_map_iff, not_exists, not_and]
  constructor
  · exact fun absent word inside isWord => absent word isWord.symm inside
  · exact fun absent word isWord inside => absent word inside isWord.symm

/-- The signs that end a value. -/
def closingSigns : List Char :=
  [',', ';', ')']

/-- A closing sign belongs to no pattern. -/
theorem closing_sign :
    ∀ sign ∈ closingSigns, isFieldSeparator sign = false ∧
      isFieldValueCharacter sign = false ∧ isAccountCharacter sign = false ∧
      foldLetter sign ∉ nameLetters := by
  decide

/-- Whether a text is empty or begins with a sign that ends a value. -/
def Closed (text : List Char) : Prop :=
  ∀ character, text.head? = some character → character ∈ closingSigns

/--
A quiet front, which ends behind a word, and a quiet back, which begins with a
closing sign.
-/
structure Frame (front back : List Char) : Prop where
  quietFront : Quiet front
  boundary : front.getLast?.any Text.isWordCharacter = false
  quietBack : Quiet back
  closed : Closed back

/-- Whether a rule matches only where a telling word stands. -/
def Telling (rule : Rule) : Prop :=
  ∀ before text, rule before text ≠ none →
    ∃ letters ∈ tellingWords, ∃ word ∈ spelled letters, word <+: text

variable {rule : Rule}
variable {before : Option Char}
variable {front middle back rest text : List Char}
variable {field : String}

/-- The rule of a field starts at a telling word. -/
theorem telling_fieldRule
    (sensitive : field ∈ sensitiveFields) :
    Telling (fieldRule field) := by
  intro before text matched
  obtain ⟨-, name, separators, value, rest, rfl, isName, -, -⟩ :=
    fieldRule_ne_none_iff.mp matched
  have named : ∀ field ∈ sensitiveFields, ∃ letters ∈ tellingWords,
      letters <+: field.toList := by
    decide
  obtain ⟨letters, telling, more, isField⟩ := named field sensitive
  have split : name.map foldLetter = letters ++ more := by
    rw [isField]
    exact isName
  obtain ⟨word, others, rfl, isWord, -⟩ := List.map_eq_append_iff.mp split
  exact ⟨letters, telling, word, isWord,
    ⟨others ++ (separators ++ value :: rest), by simp⟩⟩

theorem isWordCharacter_of_telling
    {letters word : List Char}
    (telling : letters ∈ tellingWords)
    (isWord : word ∈ spelled letters) :
    ∀ character ∈ word, Text.isWordCharacter character = true := by
  have named :
      ∀ letters ∈ tellingWords, ∀ letter ∈ letters, letter ∈ nameLetters := by
    decide
  exact fun character member => isWordCharacter_of_foldLetter_mem
    (foldLetter_mem_of_spelled (named letters telling) isWord character member)

/-- No telling word begins in a quiet front. -/
theorem Telling.misses_front
    (telling : Telling rule)
    (quiet : Quiet front)
    (boundary : front.getLast?.any Text.isWordCharacter = false) :
    rule.Misses before front rest := by
  rintro left character right rfl
  by_contra matched
  obtain ⟨letters, isTelling, word, isWord, later, same⟩ := telling _ _ matched
  have wordly := isWordCharacter_of_telling isTelling isWord
  rcases List.append_eq_append_iff.mp same with ⟨more, isRight, -⟩ | ⟨more, rfl, -⟩
  · refine quiet letters isTelling word isWord ?_
    rw [isRight]
    exact ⟨left, more, by simp⟩
  · -- The word would contain the end of the front, which is no character of a word.
    have isLast := List.getLast_mem (List.cons_ne_nil character right)
    have last := wordly _ (List.mem_append_left more isLast)
    rw [List.getLast?_append,
      List.getLast?_eq_some_getLast (List.cons_ne_nil character right),
      Option.some_or, Option.any_some, last] at boundary
    cases boundary

/-- A telling rule misses a quiet text. -/
theorem Telling.misses_back
    (telling : Telling rule)
    (quiet : Quiet back) :
    rule.Misses before back [] := by
  rintro left character right rfl
  by_contra matched
  obtain ⟨letters, isTelling, word, isWord, later, same⟩ := telling _ _ matched
  rw [List.append_nil] at same
  exact quiet letters isTelling word isWord ⟨left, later, by rw [← same]; simp⟩

/--
What a telling rule does to a framed text, it does between the front and the back.
-/
theorem Telling.apply_framed
    {replaced : List Char}
    (telling : Telling rule)
    (proper : rule.Proper)
    (frame : Frame front back)
    (between : rule.Rewrites
      (characterBefore (characterBefore none front) middle) back back →
      rule.Rewrites (characterBefore none front) (middle ++ back)
        (replaced ++ back)) :
    rule.apply (front ++ (middle ++ back)) = front ++ (replaced ++ back) := by
  have steps : rule.Rewrites (characterBefore (characterBefore none front) middle)
      (back ++ []) (back ++ []) := (telling.misses_back frame.quietBack).keeps .nil
  rw [List.append_nil] at steps
  exact (rewrites_iff proper).mp
    ((telling.misses_front frame.quietFront frame.boundary).keeps (between steps))

/-- A telling rule leaves a frame around what it misses. -/
theorem Telling.apply_framed_eq
    (telling : Telling rule)
    (proper : rule.Proper)
    (frame : Frame front back)
    (misses : rule.Misses (characterBefore none front) middle back) :
    rule.apply (front ++ (middle ++ back)) = front ++ (middle ++ back) :=
  telling.apply_framed proper frame misses.keeps

/-- A telling rule never starts at a character that is in no word. -/
theorem Telling.eq_none
    {character : Char}
    (telling : Telling rule)
    (noWord : Text.isWordCharacter character = false) :
    rule before (character :: rest) = none := by
  by_contra matched
  obtain ⟨letters, isTelling, word, isWord, later, same⟩ := telling _ _ matched
  have some : ∀ letters ∈ tellingWords, letters ≠ [] := by
    decide
  obtain ⟨first, more, rfl⟩ :=
    List.exists_cons_of_ne_nil (spelled_ne_nil (some _ isTelling) isWord)
  obtain ⟨rfl, -⟩ := List.cons.inj same
  rw [isWordCharacter_of_telling isTelling isWord first List.mem_cons_self]
    at noWord
  cases noWord

/-! ## The rule for account numbers -/

/--
Whether no word of the pattern for account numbers reaches into a text from before
it.
-/
def Unreached (text : List Char) : Prop :=
  ∀ word ∈ accountWords, ∀ front part, word = front ++ part →
    part ≠ [] → ¬ part <+: text

/-- An account is made of its alphabet alone. -/
theorem not_mem_of_account
    {word : List Char}
    {character : Char}
    (isWord : word ∈ accountWords)
    (foreign : isAccountCharacter character = false) :
    character ∉ word := by
  intro member
  rw [(accountLike isWord).alphabet character member] at foreign
  cases foreign

/-- A word reaches no further than before a character that is in no word. -/
theorem unreached_cons
    {character : Char}
    (foreign : isAccountCharacter character = false) :
    Unreached (character :: rest) := by
  rintro word isWord left part rfl more ⟨later, same⟩
  obtain ⟨first, part, rfl⟩ := List.exists_cons_of_ne_nil more
  obtain ⟨rfl, -⟩ := List.cons.inj same
  exact not_mem_of_account isWord foreign (by simp)

/-- No account reaches into a mark. -/
theorem unreached_mark (rest : List Char) : Unreached (redactedMark ++ rest) := by
  rw [redactedMark_eq]
  exact unreached_cons (by decide)

theorem Frame.unreached_back
    (frame : Frame front back) :
    Unreached back := by
  cases back with
  | nil =>
      rintro word isWord left part rfl more isPrefix
      exact more (List.eq_nil_of_prefix_nil isPrefix)
  | cons character rest =>
      obtain ⟨-, -, foreign, -⟩ :=
        closing_sign character (frame.closed character rfl)
      exact unreached_cons foreign

/--
A word that ended behind the name of a field would have a digit before its last
colon.
-/
theorem unreached_name
    (sensitive : field ∈ sensitiveFields)
    (rest : List Char) :
    Unreached (field.toList ++ ([':', ' '] ++ rest)) := by
  rintro word isWord left part rfl more isPrefix
  obtain ⟨start, digit, isEnd, isDigit⟩ := (accountLike isWord).ends
  have noSpace : ' ' ∉ part := fun member =>
    not_mem_of_account isWord (by decide) (List.mem_append_right left member)
  have isLast : part.getLast? = some ':' := by
    have last : (left ++ part).getLast? = some ':' := by
      rw [isEnd]
      simp
    rwa [List.getLast?_append, List.getLast?_eq_some_getLast more, Option.some_or,
      ← List.getLast?_eq_some_getLast more] at last
  obtain ⟨later, same⟩ := isPrefix
  have name : field.toList ++ [':'] ++ ' ' :: rest = part ++ later := by
    rw [same]
    simp
  -- The part ends before the blank, and with the colon, so it is the name and the
  -- colon.
  rcases split_around name with ⟨middle, isName, -⟩ | ⟨middle, isPart, -⟩
  · rcases List.eq_nil_or_concat middle with rfl | ⟨middle, last, rfl⟩
    · rw [List.append_nil] at isName
      subst isName
      have ending : left ++ field.toList ++ [':'] = start ++ [digit] ++ [':'] := by
        simpa using isEnd
      have nonempty := sensitive_ne_nil sensitive
      have isDigitLast : (start ++ [digit]).getLast? = field.toList.getLast? := by
        rw [← List.append_cancel_right ending, List.getLast?_append,
          List.getLast?_eq_some_getLast nonempty, Option.some_or]
      rw [List.getLast?_concat, List.getLast?_eq_some_getLast nonempty]
        at isDigitLast
      have inName : digit ∈ field.toList := by
        rw [Option.some.inj isDigitLast]
        exact List.getLast_mem nonempty
      have letter := mem_nameLetters_of_sensitive sensitive inName
      rw [isDecimalDigit_of_mem_nameLetters digit letter] at isDigit
      cases isDigit
    · rw [List.concat_eq_append, ← List.append_assoc] at isName
      obtain ⟨isField, -⟩ := List.append_inj' isName rfl
      have colon : ':' ∈ field.toList := by
        rw [isField]
        exact List.mem_append_left middle (List.mem_of_getLast? isLast)
      exact absurd (mem_nameLetters_of_sensitive sensitive colon) (by decide)
  · exact noSpace (by rw [isPart]; simp)

/--
Where no word reaches into the rest, the front is scanned as if it stood alone.
-/
theorem rewrites_account_append
    {text result later : List Char}
    (steps : accountRule.Rewrites before text result)
    (unreached : Unreached rest)
    (more : accountRule.Rewrites (characterBefore before text) rest later) :
    accountRule.Rewrites before (text ++ rest) (result ++ later) := by
  induction steps with
  | nil =>
      exact more
  | @keep before character text result missed _ inductionHypothesis =>
      rw [characterBefore_cons] at more
      refine .keep ?_ (inductionHypothesis more)
      by_contra matched
      obtain ⟨replacement, hit⟩ := Option.ne_none_iff_exists'.mp matched
      obtain ⟨name, number, behind, same, isName, isNumber, -⟩ :=
        accountRule_sound hit
      have isWord := Language.append_mem_mul isName isNumber
      have whole : character :: text ++ rest = name ++ number ++ behind := by
        simpa using same
      rcases List.append_eq_append_iff.mp whole with
        ⟨part, isWhole, isRest⟩ | ⟨part, isText, -⟩
      · by_cases ended : part = []
        · rw [ended, List.append_nil] at isWhole
          rw [← isWhole, ← List.append_nil (name ++ number)] at missed
          exact accountRule_ne_none isWord before [] missed
        · exact unreached _ isWord _ part isWhole ended ⟨behind, isRest.symm⟩
      · rw [isText] at missed
        exact accountRule_ne_none isWord before part missed
  | @replace before matched text replacement result hit _ inductionHypothesis =>
      rw [characterBefore_append] at more
      rw [List.append_assoc, List.append_assoc]
      refine .replace ?_ (inductionHypothesis more)
      obtain ⟨name, number, behind, same, isName, isNumber, isReplacement⟩ :=
        accountRule_sound hit
      obtain ⟨rfl, length⟩ := Replacement.mk.inj isReplacement
      rw [← List.append_assoc] at same
      obtain ⟨rfl, rfl⟩ := List.append_inj same length
      rw [List.append_assoc]
      exact accountRule_of_words isName isNumber before _

/-- The rule for account numbers does not look at what stands before a text. -/
theorem rewrites_account_behind
    {result : List Char}
    {before' : Option Char}
    (steps : accountRule.Rewrites before text result) :
    accountRule.Rewrites before' text result := by
  induction steps generalizing before' with
  | nil =>
      exact .nil
  | keep missed more =>
      exact .keep missed more
  | replace hit _ inductionHypothesis =>
      exact .replace hit inductionHypothesis

/-- Without five colons no account is found. -/
theorem misses_account
    (few : middle.count ':' < 5)
    (unreached : Unreached back) :
    accountRule.Misses before middle back := by
  rintro left character right rfl
  by_contra matched
  obtain ⟨replacement, hit⟩ := Option.ne_none_iff_exists'.mp matched
  obtain ⟨name, number, behind, same, isName, isNumber, -⟩ := accountRule_sound hit
  have isWord := Language.append_mem_mul isName isNumber
  have whole : character :: right ++ back = name ++ number ++ behind := by
    simpa using same
  have inside : name ++ number <:+: left ++ character :: right := by
    rcases List.append_eq_append_iff.mp whole with
      ⟨part, isWhole, isBack⟩ | ⟨part, isRight, -⟩
    · by_cases ended : part = []
      · rw [isWhole, ended, List.append_nil]
        exact (List.suffix_append left _).isInfix
      · exact absurd ⟨behind, isBack.symm⟩ (unreached _ isWord _ part isWhole ended)
    · rw [isRight]
      exact ⟨left, part, by simp⟩
  have colons := inside.sublist.count_le ':'
  rw [(accountLike isWord).colons] at colons
  omega

/--
The rule for account numbers acts in the front and in the back of a framed text.
-/
theorem account_framed
    (frame : Frame front back)
    (few : middle.count ':' < 5)
    (unreached : Unreached (middle ++ back)) :
    accountRule.apply (front ++ (middle ++ back)) =
      accountRule.apply front ++ (middle ++ accountRule.apply back) := by
  have behind :
      ∀ before, accountRule.Rewrites before back (accountRule.apply back) :=
    fun _ => rewrites_account_behind (rewrites_apply proper_accountRule back)
  exact (rewrites_iff proper_accountRule).mp
    (rewrites_account_append (rewrites_apply proper_accountRule front) unreached
      ((misses_account few frame.unreached_back).keeps (behind _)))

/-- The redaction of accounts keeps a text quiet. -/
theorem Quiet.account
    (quiet : Quiet text) :
    Quiet (accountRule.apply text) := by
  intro letters telling word isWord occurs
  have wordly := isWordCharacter_of_telling telling isWord
  have nonempty : word ≠ [] := by
    have some : ∀ letters ∈ tellingWords, letters ≠ [] := by
      decide
    exact spelled_ne_nil (some letters telling) isWord
  have unmarked : ¬ word <:+: markLetters := by
    intro inside
    have folded := inside.map foldLetter
    rw [show word.map foldLetter = letters from isWord] at folded
    have other :
        ∀ letters ∈ tellingWords, ¬ letters <:+: markLetters.map foldLetter := by
      decide
    exact other letters telling folded
  have noSign : ∀ sign ∈ ['[', ']', ':', ' '], sign ∉ word := by
    intro sign listed member
    have noWord := isWordCharacter_of_mem_replacement sign listed
    rw [wordly sign member] at noWord
    cases noWord
  have plain : Plain word := ⟨noSign '[' (by decide), noSign ']' (by decide)⟩
  have begins : word.head? ≠ some ':' := by
    intro isHead
    exact noSign ':' (by decide) (List.mem_of_mem_head? isHead)
  exact quiet letters telling word isWord
    (word_of_account plain nonempty unmarked begins occurs).1

/--
A match and its replacement end with the same colon, so a text ends as it did.
-/
theorem boundary_of_account
    {result : List Char}
    (steps : accountRule.Rewrites before text result) :
    characterBefore before result = characterBefore before text := by
  induction steps with
  | nil =>
      rfl
  | keep missed more inductionHypothesis =>
      rw [characterBefore_cons, characterBefore_cons, inductionHypothesis]
  | @replace before matched rest replacement result hit more inductionHypothesis =>
      obtain ⟨name, number, behind, same, -, isNumber, isReplacement⟩ :=
        accountRule_sound hit
      obtain ⟨rfl, length⟩ := Replacement.mk.inj isReplacement
      rw [← List.append_assoc] at same
      obtain ⟨rfl, rfl⟩ := List.append_inj same length
      obtain ⟨digits, rfl⟩ : ∃ digits, number = digits ++ [':'] := by
        obtain ⟨digits, -, _, rfl, rfl⟩ := isNumber
        exact ⟨digits, rfl⟩
      have ends : ∀ start, characterBefore before (start ++ [':']) = some ':' := by
        simp
      have matchedEnd := ends (name ++ digits)
      rw [List.append_assoc] at matchedEnd
      rw [characterBefore_append _ (name ++ (digits ++ [':'])),
        ← inductionHypothesis, matchedEnd,
        characterBefore_append _ (name ++ redactedMark ++ [':']), ends]

/-- The redaction of accounts keeps a frame. -/
theorem Frame.account
    (frame : Frame front back) :
    Frame (accountRule.apply front) (accountRule.apply back) where
  quietFront := frame.quietFront.account
  boundary := by
    rw [← characterBefore_none,
      boundary_of_account (rewrites_apply proper_accountRule front),
      characterBefore_none]
    exact frame.boundary
  quietBack := frame.quietBack.account
  closed := by
    cases back with
    | nil =>
        intro character isHead
        cases isHead
    | cons first rest =>
        have listed := frame.closed first rfl
        have missed : accountRule none (first :: rest) = none := by
          by_contra matched
          obtain ⟨replacement, hit⟩ := Option.ne_none_iff_exists'.mp matched
          obtain ⟨name, number, behind, same, isName, -⟩ := accountRule_sound hit
          obtain ⟨-, -, more, rfl⟩ := resourceName_facts isName
          rw [(List.cons.inj same).1] at listed
          exact absurd listed (by decide)
        have misses : accountRule.Misses none [first] rest := .cons missed .nil
        obtain ⟨later, isResult, -⟩ :=
          (rewrites_apply proper_accountRule (first :: rest)).of_misses misses rfl
        intro character isHead
        rw [isResult] at isHead
        cases isHead
        exact listed

end PolicyReconciler.Redaction

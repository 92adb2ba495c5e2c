import PolicyReconciler.Proofs.Redaction.Scan
import PolicyReconciler.Redaction.Message

namespace PolicyReconciler.Redaction

/-!
# Where the words of a redacted text come from

Every rule of redaction writes the mark, what it keeps before the mark, and what it
keeps behind it.  So a word without brackets that occurs in the result begins either
in the text itself or in one of these parts of a replacement.
-/

/-- A word is plain if it holds no bracket of the mark. -/
def Plain (word : List Char) : Prop :=
  '[' ∉ word ∧ ']' ∉ word

/-- The mark without its brackets. -/
def markLetters : List Char :=
  ['R', 'E', 'D', 'A', 'C', 'T', 'E', 'D']

theorem redactedMark_eq : redactedMark = '[' :: (markLetters ++ [']']) := by
  decide

/-- What a replacement holds before the mark. -/
def Replacement.lead (replacement : Replacement) : List Char :=
  replacement.text.takeWhile (· != '[')

namespace Rule

/--
Whether all replacements end with the mark and the given characters behind it.
-/
def Marks (rule : Rule) (tail : List Char) : Prop :=
  ∀ before text replacement, rule before text = some replacement →
    replacement.text = replacement.lead ++ redactedMark ++ tail

/-- Where a plain word of a result begins. -/
inductive Origin (rule : Rule) (tail : List Char) (before : Option Char)
    (text word : List Char) : Prop where
  | kept {front kept part rest : List Char}
      (isText : text = front ++ kept ++ rest)
      (isWord : word = kept ++ part)
      (nonempty : kept ≠ [])
      (missed : rule (characterBefore before front) (kept ++ rest) = none)
      (onward : part = [] ∨ ∃ replacement,
        rule (characterBefore before (front ++ kept)) rest = some replacement ∧
          part ≠ [] ∧ part <+: replacement.lead)
  | lead {front rest : List Char} {replacement : Replacement}
      (isText : text = front ++ rest)
      (hit : rule (characterBefore before front) rest = some replacement)
      (inside : word <:+: replacement.lead)
  | mark (inside : word <:+: markLetters)
  | tail (begins : ∃ character ∈ tail, word.head? = some character)

/-- A text is split before one of its characters or behind it. -/
theorem split_around
    {left right front back : List Char}
    {character : Char}
    (same : left ++ character :: right = front ++ back) :
    (∃ middle, left = front ++ middle ∧ back = middle ++ character :: right) ∨
      ∃ middle, front = left ++ character :: middle ∧ right = middle ++ back := by
  rcases List.append_eq_append_iff.mp same with
    ⟨middle, isFront, isRest⟩ | ⟨middle, rfl, isBack⟩
  · cases middle with
    | nil =>
        exact .inl ⟨[], by rw [isFront, List.append_nil, List.append_nil],
          isRest.symm⟩
    | cons first middle =>
        obtain ⟨rfl, isRight⟩ := List.cons.inj isRest
        exact .inr ⟨middle, isFront, isRight⟩
  · exact .inl ⟨middle, rfl, isBack⟩

theorem prefix_of_not_mem
    {word later front back : List Char}
    {character : Char}
    (same : word ++ later = front ++ character :: back)
    (absent : character ∉ word) :
    word <+: front := by
  rcases split_around same.symm with ⟨middle, rfl, -⟩ | ⟨middle, rfl, -⟩
  · exact List.prefix_append word middle
  · simp at absent

/--
A plain word in a marked text lies before the mark or inside it, or begins behind
it.
-/
theorem word_of_marked
    {lead tail front back word later result : List Char}
    (isMarked : lead ++ redactedMark ++ tail = front ++ back)
    (more : back ≠ [])
    (plain : Plain word)
    (nonempty : word ≠ [])
    (same : word ++ later = back ++ result) :
    word <:+: lead ∨ word <:+: markLetters ∨
      ∃ character ∈ tail, word.head? = some character := by
  have isMark : lead ++ redactedMark ++ tail =
      lead ++ '[' :: (markLetters ++ ']' :: tail) := by
    simp [redactedMark_eq]
  rw [isMark] at isMarked
  rcases split_around isMarked with ⟨middle, rfl, rfl⟩ | ⟨middle, rfl, isRest⟩
  · rw [List.append_assoc] at same
    have inside := prefix_of_not_mem same plain.1
    exact .inl (inside.isInfix.trans (List.suffix_append front middle).isInfix)
  · rcases split_around isRest with ⟨letters, isName, rfl⟩ | ⟨letters, rfl, rfl⟩
    · rw [List.append_assoc] at same
      have inside := prefix_of_not_mem same plain.2
      rw [isName]
      exact .inr (.inl
        (inside.isInfix.trans (List.suffix_append middle letters).isInfix))
    · obtain ⟨character, back, rfl⟩ := List.exists_cons_of_ne_nil more
      obtain ⟨first, word, rfl⟩ := List.exists_cons_of_ne_nil nonempty
      obtain ⟨rfl, -⟩ := List.cons.inj same
      exact .inr (.inr ⟨first, by simp, rfl⟩)

variable {rule : Rule}
variable {before : Option Char}
variable {text result word later tail : List Char}

/-- Origins in the rest of a text are origins in the text. -/
theorem Origin.behind
    (front : List Char)
    (origin : rule.Origin tail (characterBefore before front) text word) :
    rule.Origin tail before (front ++ text) word := by
  cases origin with
  | @kept left kept part rest isText isWord nonempty missed onward =>
      have whole : front ++ text = front ++ left ++ kept ++ rest := by
        rw [isText, List.append_assoc, List.append_assoc, List.append_assoc]
      refine .kept whole isWord nonempty ?_ ?_
      · rwa [characterBefore_append]
      · rwa [List.append_assoc, characterBefore_append]
  | @lead left rest replacement isText hit inside =>
      have whole : front ++ text = front ++ left ++ rest := by
        rw [isText, List.append_assoc]
      exact .lead whole (by rwa [characterBefore_append]) inside
  | mark inside =>
      exact .mark inside
  | tail begins =>
      exact .tail begins

/--
The front of a result is kept, up to the part of a plain word that a replacement
leads with.
-/
theorem Rewrites.front
    (steps : rule.Rewrites before text result)
    (marks : rule.Marks tail)
    (plain : Plain word)
    (isResult : result = word ++ later) :
    ∃ kept part rest, word = kept ++ part ∧ text = kept ++ rest ∧
      (part = [] ∨ ∃ replacement,
        rule (characterBefore before kept) rest = some replacement ∧
        part ≠ [] ∧ part <+: replacement.lead) := by
  induction steps generalizing word with
  | nil =>
      obtain ⟨rfl, rfl⟩ := List.append_eq_nil_iff.mp isResult.symm
      exact ⟨[], [], [], rfl, rfl, .inl rfl⟩
  | @keep before character rest result missed more inductionHypothesis =>
      cases word with
      | nil =>
          exact ⟨[], [], _, rfl, rfl, .inl rfl⟩
      | cons first word =>
          obtain ⟨rfl, isRest⟩ := List.cons.inj isResult
          have plainRest : Plain word :=
            ⟨fun member => plain.1 (List.mem_cons_of_mem _ member),
              fun member => plain.2 (List.mem_cons_of_mem _ member)⟩
          obtain ⟨kept, part, other, rfl, rfl, onward⟩ :=
            inductionHypothesis plainRest isRest
          exact ⟨character :: kept, part, other, rfl,
            rfl, by rwa [characterBefore_cons]⟩
  | @replace before matched rest replacement result hit more inductionHypothesis =>
      refine ⟨[], word, _, rfl, rfl, ?_⟩
      by_cases nonempty : word = []
      · exact .inl nonempty
      · have marked := marks _ _ _ hit
        have same : word ++ later =
            Replacement.lead ⟨replacement, matched.length⟩ ++
              '[' :: (markLetters ++ ']' :: tail ++ result) := by
          rw [← isResult]
          refine (congrArg (· ++ result) marked).trans ?_
          simp [redactedMark_eq]
        exact .inr ⟨_, hit, nonempty, prefix_of_not_mem same plain.1⟩

/-- Each plain word of a result has an origin. -/
theorem Rewrites.origin
    (steps : rule.Rewrites before text result)
    (marks : rule.Marks tail)
    (plain : Plain word)
    (nonempty : word ≠ [])
    (occurs : word <:+: result) :
    rule.Origin tail before text word := by
  induction steps with
  | nil =>
      exact absurd (List.eq_nil_of_infix_nil occurs) nonempty
  | @keep before character rest result missed more inductionHypothesis =>
      rcases List.infix_cons_iff.mp occurs with ⟨later, isResult⟩ | inside
      · have steps :
            rule.Rewrites before (character :: rest) (character :: result) :=
          .keep missed more
        obtain ⟨kept, part, other, isWord, isText, onward⟩ :=
          steps.front marks plain isResult.symm
        have whole : character :: rest = [] ++ kept ++ other := isText
        refine .kept whole isWord ?_ (by rwa [← isText]) onward
        rintro rfl
        rcases onward with rfl | ⟨replacement, hit, -, -⟩
        · exact nonempty isWord
        · rw [characterBefore_nil, ← List.nil_append other, ← isText, missed] at hit
          cases hit
      · exact .behind [character] (inductionHypothesis inside)
  | @replace before matched rest replacement result hit more inductionHypothesis =>
      obtain ⟨front, later, isResult⟩ := occurs
      rw [List.append_assoc] at isResult
      rcases List.append_eq_append_iff.mp isResult with
        ⟨back, isFront, same⟩ | ⟨back, rfl, isRest⟩
      · by_cases ended : back = []
        · subst ended
          rw [List.nil_append] at same
          exact .behind matched (inductionHypothesis ⟨[], later, same⟩)
        · have marked := marks _ _ _ hit
          rw [isFront] at marked
          rcases word_of_marked marked.symm ended plain nonempty same
            with inside | inside | begins
          · exact .lead (List.nil_append _).symm hit (isFront ▸ inside)
          · exact .mark inside
          · exact .tail begins
      · exact .behind matched
          (inductionHypothesis ⟨back, later, by rw [isRest, List.append_assoc]⟩)

end Rule

end PolicyReconciler.Redaction

import Mathlib.Data.List.Infix
import PolicyReconciler.Redaction.Rule

namespace PolicyReconciler.Redaction

/-!
# What a scan does

A scan passes through a text in steps: it keeps a character at which its rule does
not match, or it replaces a match.  The steps are a relation between a text and its
result, and every fact about the result of a scan is shown by induction on them.
-/

/--
The character before a position, from the one before the text and the text up to
there.
-/
def characterBefore (before : Option Char) (front : List Char) : Option Char :=
  front.getLast?.or before

@[simp] theorem characterBefore_nil (before : Option Char) :
    characterBefore before [] = before :=
  rfl

@[simp] theorem characterBefore_cons
    (before : Option Char)
    (character : Char)
    (front : List Char) :
    characterBefore before (character :: front) =
      characterBefore (some character) front := by
  cases front with
  | nil =>
      rfl
  | cons next rest =>
      simp [characterBefore, List.getLast?_cons]

@[simp] theorem characterBefore_append
    (before : Option Char)
    (front more : List Char) :
    characterBefore before (front ++ more) =
      characterBefore (characterBefore before front) more := by
  induction front generalizing before with
  | nil =>
      rfl
  | cons character front inductionHypothesis =>
      simp [inductionHypothesis]

theorem characterBefore_none (front : List Char) :
    characterBefore none front = front.getLast? :=
  Option.or_none

namespace Rule

/-- Whether matches are not empty and lie inside the text. -/
def Proper (rule : Rule) : Prop :=
  ∀ before text replacement, rule before text = some replacement →
    0 < replacement.length ∧ replacement.length ≤ text.length

/-- The steps by which a rule turns a text into another. -/
inductive Rewrites (rule : Rule) : Option Char → List Char → List Char → Prop where
  | nil {before : Option Char} :
      Rewrites rule before [] []
  | keep {before : Option Char} {character : Char} {rest result : List Char}
      (missed : rule before (character :: rest) = none)
      (more : Rewrites rule (some character) rest result) :
      Rewrites rule before (character :: rest) (character :: result)
  | replace {before : Option Char} {matched rest replacement result : List Char}
      (hit : rule before (matched ++ rest) = some ⟨replacement, matched.length⟩)
      (more : Rewrites rule (characterBefore before matched) rest result) :
      Rewrites rule before (matched ++ rest) (replacement ++ result)

/-- Whether a rule matches nowhere in the front of a text. -/
def Misses (rule : Rule) (before : Option Char) (front rest : List Char) : Prop :=
  ∀ left character right, front = left ++ character :: right →
    rule (characterBefore before left) (character :: right ++ rest) = none

variable {rule : Rule}
variable {before : Option Char}
variable {text front rest result : List Char}

/-- Pending characters are dropped. -/
theorem scan_pending (before : Option Char) (pending : Nat) (text : List Char) :
    rule.scan before pending text =
      rule.scan (characterBefore before (text.take pending)) 0
        (text.drop pending) := by
  induction text generalizing before pending with
  | nil =>
      simp [scan]
  | cons character text inductionHypothesis =>
      cases pending with
      | zero =>
          rfl
      | succ further =>
          simp only [scan, List.take_succ_cons, List.drop_succ_cons,
            characterBefore_cons]
          exact inductionHypothesis (some character) further

/-- A hit is replaced and the scan goes on behind it. -/
theorem scan_of_hit
    {matched replacement : List Char}
    (nonempty : matched ≠ [])
    (hit : rule before (matched ++ rest) = some ⟨replacement, matched.length⟩) :
    rule.scan before 0 (matched ++ rest) =
      replacement ++ rule.scan (characterBefore before matched) 0 rest := by
  cases matched with
  | nil =>
      contradiction
  | cons character matched =>
      rw [List.cons_append] at hit
      simp only [List.cons_append, scan, hit, List.length_cons, Nat.add_sub_cancel]
      rw [scan_pending, List.take_left, List.drop_left, characterBefore_cons]

/-- A scan rewrites its text. -/
theorem rewrites_scan
    (proper : rule.Proper)
    (before : Option Char)
    (text : List Char) :
    rule.Rewrites before text (rule.scan before 0 text) := by
  induction length : text.length using Nat.strongRecOn generalizing before text with
  | ind size inductionHypothesis =>
      cases text with
      | nil =>
          exact .nil
      | cons character rest =>
          cases found : rule before (character :: rest) with
          | none =>
              simp only [scan, found]
              exact .keep found
                (inductionHypothesis rest.length (by simp [← length]) _ _ rfl)
          | some replacement =>
              obtain ⟨positive, within⟩ := proper before _ _ found
              obtain ⟨matched, later, isText, isLength⟩ :
                  ∃ matched later, character :: rest = matched ++ later ∧
                    matched.length = replacement.length :=
                ⟨_, _, (List.take_append_drop replacement.length _).symm,
                  List.length_take_of_le within⟩
              have nonempty : matched ≠ [] :=
                List.length_pos_iff.mp (by rw [isLength]; exact positive)
              rw [isText] at found length ⊢
              have hit : rule before (matched ++ later) =
                  some ⟨replacement.text, matched.length⟩ := by
                rw [found, isLength]
              rw [scan_of_hit nonempty hit]
              refine .replace hit (inductionHypothesis later.length ?_ _ _ rfl)
              rw [← length, List.length_append, isLength]
              exact Nat.lt_add_of_pos_left positive

/-- The steps from a text lead to the result of the scan and nowhere else. -/
theorem rewrites_iff (proper : rule.Proper) :
    rule.Rewrites before text result ↔ rule.scan before 0 text = result := by
  constructor
  · intro steps
    induction steps with
    | nil =>
        rfl
    | keep missed _ inductionHypothesis =>
        simp only [scan, missed, inductionHypothesis]
    | replace hit _ inductionHypothesis =>
        have nonempty := (proper _ _ _ hit).1
        rw [scan_of_hit (List.length_pos_iff.mp nonempty) hit, inductionHypothesis]
  · rintro rfl
    exact rewrites_scan proper before text

/-- Applying a rule rewrites the text. -/
theorem rewrites_apply (proper : rule.Proper) (text : List Char) :
    rule.Rewrites none text (rule.apply text) :=
  rewrites_scan proper none text

/-! ## Texts in which a rule matches nowhere -/

theorem Misses.nil : rule.Misses before [] rest := by
  intro left character right isNil
  simp at isNil

/-- A rule misses a text if it misses its head and the rest. -/
theorem Misses.cons
    {character : Char}
    (missed : rule before (character :: front ++ rest) = none)
    (later : rule.Misses (some character) front rest) :
    rule.Misses before (character :: front) rest := by
  intro left other right isFront
  cases left with
  | nil =>
      obtain ⟨rfl, rfl⟩ := List.cons.inj isFront
      exact missed
  | cons first left =>
      obtain ⟨rfl, isTail⟩ := List.cons.inj isFront
      rw [characterBefore_cons]
      exact later left other right isTail

theorem Misses.head
    {character : Char}
    (misses : rule.Misses before (character :: front) rest) :
    rule before (character :: front ++ rest) = none :=
  misses [] character front rfl

theorem Misses.tail
    {character : Char}
    (misses : rule.Misses before (character :: front) rest) :
    rule.Misses (some character) front rest := by
  intro left other right isFront
  have missed := misses (character :: left) other right (by rw [isFront]; rfl)
  rwa [characterBefore_cons] at missed

/-- A rule misses joined texts if it misses both. -/
theorem Misses.append
    {more : List Char}
    (first : rule.Misses before front (more ++ rest))
    (second : rule.Misses (characterBefore before front) more rest) :
    rule.Misses before (front ++ more) rest := by
  induction front generalizing before with
  | nil =>
      exact second
  | cons character front inductionHypothesis =>
      rw [characterBefore_cons] at second
      refine Misses.cons ?_ (inductionHypothesis first.tail second)
      have missed := first.head
      rwa [← List.append_assoc] at missed

/-- What a rule does not match is kept. -/
theorem Misses.keeps
    (misses : rule.Misses before front rest)
    (more : rule.Rewrites (characterBefore before front) rest result) :
    rule.Rewrites before (front ++ rest) (front ++ result) := by
  induction front generalizing before with
  | nil =>
      exact more
  | cons character front inductionHypothesis =>
      rw [characterBefore_cons] at more
      exact .keep misses.head (inductionHypothesis misses.tail more)

/-- A scan through a front without matches keeps it and goes on behind it. -/
theorem Rewrites.of_misses
    (steps : rule.Rewrites before text result)
    (misses : rule.Misses before front rest)
    (isText : text = front ++ rest) :
    ∃ later, result = front ++ later ∧
      rule.Rewrites (characterBefore before front) rest later := by
  induction front generalizing before text result with
  | nil =>
      rw [List.nil_append] at isText
      exact ⟨result, rfl, isText ▸ steps⟩
  | cons character front inductionHypothesis =>
      have missed := misses.head
      cases steps with
      | nil =>
          cases isText
      | keep _ more =>
          obtain ⟨rfl, isRest⟩ := List.cons.inj isText
          obtain ⟨later, isResult, onward⟩ :=
            inductionHypothesis more misses.tail isRest
          exact ⟨later, by rw [isResult]; rfl, by rwa [characterBefore_cons]⟩
      | replace hit _ =>
          rw [isText, missed] at hit
          cases hit

/-- A rule that replaces each match by itself does not change a text. -/
theorem apply_eq_self
    (proper : rule.Proper)
    (same : ∀ front matched rest replacement, text = front ++ matched ++ rest →
      rule (characterBefore none front) (matched ++ rest) =
        some ⟨replacement, matched.length⟩ →
      replacement = matched) :
    rule.apply text = text := by
  have kept : ∀ {before text result}, rule.Rewrites before text result →
      (∀ front matched rest replacement, text = front ++ matched ++ rest →
        rule (characterBefore before front) (matched ++ rest) =
          some ⟨replacement, matched.length⟩ → replacement = matched) →
      result = text := by
    intro before text result steps same
    induction steps with
    | nil =>
        rfl
    | @keep before character rest result missed more inductionHypothesis =>
        rw [inductionHypothesis fun front matched later replacement isRest hit =>
          same (character :: front) matched later replacement (by rw [isRest]; rfl)
            (by rwa [characterBefore_cons])]
    | @replace before matched rest replacement result hit more
          inductionHypothesis =>
        rw [same [] matched rest replacement rfl hit,
          inductionHypothesis fun front other later again isRest hitAgain =>
            same (matched ++ front) other later again (by simp [isRest])
              (by rwa [characterBefore_append])]
  exact kept (rewrites_apply proper text) same

end Rule

end PolicyReconciler.Redaction

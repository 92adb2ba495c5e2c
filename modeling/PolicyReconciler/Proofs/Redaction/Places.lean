import PolicyReconciler.Proofs.Redaction.Fields

namespace PolicyReconciler.Redaction

/-!
# Places after the rule of a field

The rule of one field leaves the places of the others where they are, and makes
none.  So each field is settled by its own rule: all its places are written out
literally, and they stay so under the rules of the other fields.
-/

open Recogniser Rule

/-! ## Names and replacements of sensitive fields -/

/-- A field's name is not empty. -/
theorem sensitive_ne_nil
    {field : String}
    (sensitive : field ∈ sensitiveFields) :
    field.toList ≠ [] := by
  have listed : ∀ field ∈ sensitiveFields, field.toList ≠ [] := by
    decide
  exact listed field sensitive

/-- Inside a replacement no name of a field starts. -/
theorem no_start_inside
    {field other : String}
    (sensitive : field ∈ sensitiveFields)
    (sensitive' : other ∈ sensitiveFields) :
    ∀ position < (fieldReplacement other).length, 0 < position →
      ((fieldReplacement other).drop position).head?.map foldLetter ≠
        field.toList.head? ∨
        ((fieldReplacement other).take position).getLast?.any Text.isWordCharacter =
          true := by
  have listed : ∀ other ∈ sensitiveFields,
      ∀ position < (fieldReplacement other).length, 0 < position →
        (∀ field ∈ sensitiveFields,
          ((fieldReplacement other).drop position).head?.map foldLetter ≠
            field.toList.head?) ∨
          ((fieldReplacement other).take position).getLast?.any
            Text.isWordCharacter = true := by
    decide +kernel
  exact fun position inside begun =>
    (listed other sensitive' position inside begun).imp_left fun differs =>
      differs field sensitive

variable {field other : String}
variable {before : Option Char}
variable {text result front back rest : List Char}

theorem foldLetter_mem_of_name
    {name : List Char}
    (sensitive : field ∈ sensitiveFields)
    (isName : name ∈ spelled field.toList) :
    ∀ character ∈ name, foldLetter character ∈ nameLetters :=
  foldLetter_mem_of_spelled (fun _ => mem_nameLetters_of_sensitive sensitive) isName

/-- A spelled name begins with a letter of the name. -/
theorem exists_cons_of_name
    {name : List Char}
    (sensitive : field ∈ sensitiveFields)
    (isName : name ∈ spelled field.toList) :
    ∃ first more, name = first :: more ∧ foldLetter first ∈ nameLetters ∧
      some (foldLetter first) = field.toList.head? := by
  cases name with
  | nil =>
      exact absurd isName.symm (sensitive_ne_nil sensitive)
  | cons first more =>
      refine ⟨first, more, rfl, ?_, ?_⟩
      · exact foldLetter_mem_of_name sensitive isName first List.mem_cons_self
      · rw [← isName]
        rfl

/-- A name is spelled by itself. -/
theorem name_self
    (sensitive : field ∈ sensitiveFields) :
    field.toList ∈ spelled field.toList :=
  (List.map_congr_left fun _ member =>
    foldLetter_of_mem_nameLetters
      (mem_nameLetters_of_sensitive sensitive member)).trans
    (List.map_id _)

/-- The name of a field ends where the separators begin. -/
theorem field_eq_of_names
    {name name' separators separators' rest' : List Char}
    (sensitive : field ∈ sensitiveFields)
    (sensitive' : other ∈ sensitiveFields)
    (isName : name ∈ spelled field.toList)
    (isName' : name' ∈ spelled other.toList)
    (areSeparators : separators ∈ atLeastOne isFieldSeparator)
    (areSeparators' : separators' ∈ atLeastOne isFieldSeparator)
    (same : name ++ (separators ++ rest) = name' ++ (separators' ++ rest')) :
    field = other := by
  have leading :
      ∀ {field : String} {name separators : List Char} (rest : List Char),
      field ∈ sensitiveFields → name ∈ spelled field.toList →
      separators ∈ atLeastOne isFieldSeparator →
      (name ++ (separators ++ rest)).takeWhile (!isFieldSeparator ·) = name := by
    intro field name separators rest sensitive isName areSeparators
    refine takeWhile_append_of_halts (fun character member => ?_) ?_
    · simp [isFieldSeparator_of_foldLetter_mem
        (foldLetter_mem_of_name sensitive isName character member)]
    · obtain ⟨nonempty, areSeparators⟩ := areSeparators
      obtain ⟨first, more, rfl⟩ := List.exists_cons_of_ne_nil nonempty
      rintro _ ⟨⟩
      simp [areSeparators first List.mem_cons_self]
  have names : name = name' := by
    rw [← leading rest sensitive isName areSeparators, same,
      leading rest' sensitive' isName' areSeparators']
  have letters : field.toList = other.toList := by
    rw [← isName, ← isName', names]
  exact String.toList_injective letters

/-- Two fields do not have the same place. -/
theorem FieldAt.field_eq
    (sensitive : field ∈ sensitiveFields)
    (sensitive' : other ∈ sensitiveFields)
    (place : FieldAt field before text)
    (place' : FieldAt other before text) :
    field = other := by
  obtain ⟨-, name, separators, value, rest, rfl, isName, areSeparators, -⟩ := place
  obtain ⟨-, name', separators', value', rest', same, isName', areSeparators', -⟩ :=
    place'
  exact field_eq_of_names sensitive sensitive' isName isName' areSeparators
    areSeparators' same

/-- A field's place begins with a letter of its name. -/
theorem FieldAt.exists_cons
    (sensitive : field ∈ sensitiveFields)
    (place : FieldAt field before text) :
    ∃ first rest, text = first :: rest ∧ foldLetter first ∈ nameLetters ∧
      some (foldLetter first) = field.toList.head? := by
  obtain ⟨-, name, separators, value, rest, rfl, isName, -, -⟩ := place
  obtain ⟨first, more, rfl, letter, isFirst⟩ := exists_cons_of_name sensitive isName
  exact ⟨first, _, rfl, letter, isFirst⟩

/-- No field starts where its values halt. -/
theorem not_fieldAt_of_halts
    (sensitive : field ∈ sensitiveFields)
    (halts : Halts isFieldValueCharacter text) :
    ¬ FieldAt field before text := by
  intro place
  obtain ⟨first, rest, rfl, letter, -⟩ := place.exists_cons sensitive
  have accepted := isFieldValueCharacter_of_foldLetter_mem letter
  rw [halts first rfl] at accepted
  cases accepted

/-- The separators and the value of a replacement. -/
theorem fieldReplacement_eq (field : String) :
    fieldReplacement field = field.toList ++ ([':', ' '] ++ redactedMark) :=
  List.append_assoc ..

theorem separators_of_replacement : [':', ' '] ∈ atLeastOne isFieldSeparator :=
  ⟨by simp, by decide⟩

theorem value_of_replacement : redactedMark ∈ atLeastOne isFieldValueCharacter :=
  ⟨by decide, by decide⟩

/-- A replacement is the place of its own field. -/
theorem fieldAt_replacement
    (sensitive : field ∈ sensitiveFields)
    (boundary : before.any Text.isWordCharacter = false) :
    FieldAt field before (fieldReplacement field ++ rest) := by
  refine ⟨boundary, field.toList, [':', ' '], '[', markLetters ++ [']'] ++ rest, ?_,
    name_self sensitive, separators_of_replacement, by decide⟩
  simp [fieldReplacement, redactedMark_eq]

/-- The rule of a field replaces a replacement by itself. -/
theorem fieldRule_replacement
    (sensitive : field ∈ sensitiveFields)
    (boundary : before.any Text.isWordCharacter = false)
    (halts : Halts isFieldValueCharacter rest) :
    fieldRule field before (fieldReplacement field ++ rest) =
      some ⟨fieldReplacement field, (fieldReplacement field).length⟩ := by
  have valued : fieldValue ([':', ' '] ++ (redactedMark ++ rest)) =
      some ([':', ' '] ++ redactedMark).length :=
    fieldValue_of_valued (.plain separators_of_replacement value_of_replacement
      (by rintro _ ⟨⟩; decide) halts)
  rw [fieldReplacement_eq, List.append_assoc, List.append_assoc,
    fieldRule_of_name boundary (name_self sensitive) valued]
  simp [fieldReplacement_eq]

/-- No field starts inside a replacement. -/
theorem not_fieldAt_inside
    {left right : List Char}
    (sensitive : field ∈ sensitiveFields)
    (sensitive' : other ∈ sensitiveFields)
    (isReplacement : fieldReplacement other = left ++ right)
    (begun : left ≠ [])
    (unfinished : right ≠ []) :
    ¬ FieldAt field (characterBefore before left) (right ++ rest) := by
  intro place
  have inside : left.length < (fieldReplacement other).length := by
    rw [isReplacement, List.length_append]
    exact Nat.lt_add_of_pos_right (List.length_pos_iff.mpr unfinished)
  have noStart :=
    no_start_inside sensitive sensitive' left.length inside
      (List.length_pos_iff.mpr begun)
  rw [isReplacement, List.take_left, List.drop_left] at noStart
  obtain ⟨first, more, isText, -, isFirst⟩ := place.exists_cons sensitive
  rcases noStart with otherLetter | word
  · obtain ⟨head, right, rfl⟩ := List.exists_cons_of_ne_nil unfinished
    obtain ⟨rfl, -⟩ := List.cons.inj isText
    exact otherLetter isFirst
  · have boundary := place.1
    rw [characterBefore, List.getLast?_eq_some_getLast begun, Option.some_or]
      at boundary
    rw [List.getLast?_eq_some_getLast begun, boundary] at word
    cases word

/-- In the replacement for another field, a field has no place. -/
theorem misses_replacement
    (sensitive : field ∈ sensitiveFields)
    (sensitive' : other ∈ sensitiveFields)
    (different : field ≠ other) :
    (fieldRule field).Misses before (fieldReplacement other) rest := by
  intro left character right isReplacement
  by_contra matched
  have place := fieldRule_ne_none_iff.mp matched
  by_cases begun : left = []
  · subst begun
    rw [List.nil_append] at isReplacement
    rw [← isReplacement] at place
    exact different
      (place.field_eq sensitive sensitive' (fieldAt_replacement sensitive' place.1))
  · exact not_fieldAt_inside sensitive sensitive' isReplacement begun
      (List.cons_ne_nil _ _) place

/-! ## A scan by the rule of a field -/

/-- The rule of a field never takes an empty text. -/
theorem proper_fieldRule (field : String) : (fieldRule field).Proper := by
  intro before text replacement hit
  obtain ⟨-, name, separators, value, rest, rfl, -, valued, rfl⟩ :=
    fieldRule_sound hit
  have positive := List.length_pos_iff.mpr valued.areSeparators.1
  simp only [List.length_append]
  omega

/-- The rule of a field leaves a mark. -/
theorem marks_fieldRule
    (sensitive : field ∈ sensitiveFields) :
    (fieldRule field).Marks [] := by
  intro before text replacement hit
  obtain ⟨-, _, _, _, _, -, -, -, rfl⟩ := fieldRule_sound hit
  have listed : ∀ field ∈ sensitiveFields, fieldReplacement field =
      (fieldReplacement field).takeWhile (· != '[') ++ redactedMark ++ [] := by
    decide
  exact listed field sensitive

/--
A match begins with a letter at the start of a word, and the text halts behind it.
-/
theorem fieldRule_hit
    {matched replacement : List Char}
    (sensitive : field ∈ sensitiveFields)
    (hit : fieldRule field before (matched ++ rest) =
      some ⟨replacement, matched.length⟩) :
    before.any Text.isWordCharacter = false ∧ replacement = fieldReplacement field ∧
      (∃ first more, matched = first :: more ∧ foldLetter first ∈ nameLetters) ∧
      Halts isFieldValueCharacter rest := by
  obtain ⟨boundary, name, separators, value, later, isText, isName, valued, same⟩ :=
    fieldRule_sound hit
  obtain ⟨rfl, length⟩ := Replacement.mk.inj same
  have whole : matched ++ rest = name ++ (separators ++ value) ++ later := by
    rw [isText]
    simp
  obtain ⟨rfl, rfl⟩ := List.append_inj whole length
  obtain ⟨first, more, rfl, letter, -⟩ := exists_cons_of_name sensitive isName
  exact ⟨boundary, rfl, ⟨first, _, rfl, letter⟩, valued.halts⟩

/-- Where a text halts, its first character is kept. -/
theorem head?_of_rewrites
    (sensitive : field ∈ sensitiveFields)
    (steps : (fieldRule field).Rewrites before text result)
    (halts : Halts isFieldValueCharacter text) :
    result.head? = text.head? := by
  cases steps with
  | nil =>
      rfl
  | keep missed more =>
      rfl
  | @replace _ matched rest replacement result hit more =>
      obtain ⟨-, -, ⟨first, later, rfl, letter⟩, -⟩ := fieldRule_hit sensitive hit
      have accepted := isFieldValueCharacter_of_foldLetter_mem letter
      rw [halts first rfl] at accepted
      cases accepted

/-- Rewriting a field lets values halt where they did. -/
theorem halts_of_rewrites
    (sensitive : field ∈ sensitiveFields)
    (steps : (fieldRule field).Rewrites before text result)
    (halts : Halts isFieldValueCharacter text) :
    Halts isFieldValueCharacter result := by
  rwa [Halts, head?_of_rewrites sensitive steps halts]

/-- Characters at which no name starts: inside of a word, or not a letter. -/
def Sheltered (before : Option Char) (text : List Char) : Prop :=
  ∀ left character right, text = left ++ character :: right →
    (characterBefore before left).any Text.isWordCharacter = true ∨
      foldLetter character ∉ nameLetters

/-- Sheltered characters of a text are kept. -/
theorem misses_of_sheltered
    (sensitive : field ∈ sensitiveFields)
    (sheltered : Sheltered before front) :
    (fieldRule field).Misses before front rest := by
  intro left character right isFront
  by_contra matched
  have place := fieldRule_ne_none_iff.mp matched
  obtain ⟨first, more, isText, letter, -⟩ := place.exists_cons sensitive
  obtain ⟨rfl, -⟩ := List.cons.inj isText
  rcases sheltered left character right isFront with word | noLetter
  · rw [place.1] at word
    cases word
  · exact noLetter letter

/-- Sheltered characters of a result are characters of the text. -/
theorem kept_of_sheltered
    (sensitive : field ∈ sensitiveFields)
    (steps : (fieldRule field).Rewrites before text result)
    (sheltered : Sheltered before front)
    (isResult : result = front ++ back) :
    ∃ rest, text = front ++ rest ∧
      (fieldRule field).Rewrites (characterBefore before front) rest back := by
  induction front generalizing before text result with
  | nil =>
      rw [List.nil_append] at isResult
      exact ⟨text, rfl, isResult ▸ steps⟩
  | cons character front inductionHypothesis =>
      cases steps with
      | nil =>
          cases isResult
      | @keep _ kept _ _ missed more =>
          obtain ⟨rfl, isRest⟩ := List.cons.inj isResult
          have tail : Sheltered (some kept) front := by
            intro left inner right isFront
            rw [← characterBefore_cons before]
            exact sheltered (kept :: left) inner right (by rw [isFront]; rfl)
          obtain ⟨rest, rfl, onward⟩ := inductionHypothesis more tail isRest
          exact ⟨rest, rfl, by rwa [characterBefore_cons]⟩
      | @replace _ matched rest replacement result hit more =>
          obtain ⟨boundary, rfl, -, -⟩ := fieldRule_hit sensitive hit
          obtain ⟨first, name, isName⟩ :=
            List.exists_cons_of_ne_nil (sensitive_ne_nil sensitive)
          have isFirst : first = character := by
            simp only [fieldReplacement, isName, List.cons_append] at isResult
            exact (List.cons.inj isResult).1
          have letter : first ∈ nameLetters :=
            mem_nameLetters_of_sensitive sensitive
              (by rw [isName]; exact List.mem_cons_self)
          subst isFirst
          rcases sheltered [] first front rfl with word | noLetter
          · rw [characterBefore_nil, boundary] at word
            cases word
          · rw [foldLetter_of_mem_nameLetters letter] at noLetter
            exact absurd letter noLetter

/-- A word and separators are sheltered behind the first character of the word. -/
theorem sheltered_of_name
    {first : Char}
    {name separators : List Char}
    (named : ∀ character ∈ first :: name, foldLetter character ∈ nameLetters)
    (areSeparators : ∀ character ∈ separators, isFieldSeparator character = true) :
    Sheltered (some first) (name ++ separators) := by
  induction name generalizing first with
  | nil =>
      intro left character right isText
      refine .inr fun letter => ?_
      have separator :=
        areSeparators character (by rw [← List.nil_append separators, isText]; simp)
      rw [isFieldSeparator_of_foldLetter_mem letter] at separator
      cases separator
  | cons second name inductionHypothesis =>
      intro left character right isText
      cases left with
      | nil =>
          refine .inl ?_
          exact isWordCharacter_of_foldLetter_mem (named first List.mem_cons_self)
      | cons passed left =>
          obtain ⟨rfl, isRest⟩ := List.cons.inj isText
          rw [characterBefore_cons]
          exact inductionHypothesis
            (fun character member => named character (by simp_all))
            left character right isRest

/--
What begins as a value is kept, or it was the name of a field, which is a value as
well.
-/
theorem value_of_rewrites
    {value : Char}
    {later : List Char}
    (sensitive : field ∈ sensitiveFields)
    (steps : (fieldRule field).Rewrites before text (value :: later))
    (isValue : isFieldValueCharacter value = true) :
    ∃ value' later', text = value' :: later' ∧
      isFieldValueCharacter value' = true := by
  generalize isResult : value :: later = result at steps
  cases steps with
  | nil =>
      cases isResult
  | keep missed more =>
      cases isResult
      exact ⟨_, _, rfl, isValue⟩
  | replace hit more =>
      obtain ⟨-, -, ⟨letter, others, rfl, isLetter⟩, -⟩ :=
        fieldRule_hit sensitive hit
      exact ⟨letter, _, rfl, isFieldValueCharacter_of_foldLetter_mem isLetter⟩

/--
A scan that begins with a place in its result begins with that place in its text.
-/
theorem fieldAt_of_rewrites
    (sensitive : field ∈ sensitiveFields)
    (sensitive' : other ∈ sensitiveFields)
    (steps : (fieldRule other).Rewrites before text result)
    (place : FieldAt field before result) :
    FieldAt field before text := by
  obtain ⟨boundary, name, separators, value, later, isResult, isName,
      areSeparators, isValue⟩ :=
    id place
  obtain ⟨first, more, rfl, -, -⟩ := exists_cons_of_name sensitive isName
  have named := foldLetter_mem_of_name sensitive isName
  cases steps with
  | nil =>
      cases isResult
  | @keep _ kept rest result missed continued =>
      obtain ⟨rfl, isRest⟩ := List.cons.inj isResult
      have whole : result = more ++ separators ++ value :: later := by
        rw [isRest]
        simp
      obtain ⟨behind, rfl, onward⟩ := kept_of_sheltered sensitive' continued
        (sheltered_of_name named areSeparators.2) whole
      obtain ⟨value', later', rfl, isValue'⟩ :=
        value_of_rewrites sensitive' onward isValue
      exact ⟨boundary, kept :: more, separators, value', later', by simp,
        isName, areSeparators, isValue'⟩
  | @replace _ matched rest replacement result hit onward =>
      obtain ⟨-, rfl, -, -⟩ := fieldRule_hit sensitive' hit
      have same :=
        place.field_eq sensitive sensitive'
          (fieldAt_replacement sensitive' boundary)
      subst same
      exact fieldRule_ne_none_iff.mp (by rw [hit]; simp)

/-- Behind a text only its last character counts. -/
theorem characterBefore_of_ne_nil
    {before' : Option Char}
    (nonempty : front ≠ []) :
    characterBefore before front = characterBefore before' front := by
  simp [characterBefore, List.getLast?_eq_some_getLast nonempty]

/-- Each place in the result of a scan stands where the text has that place. -/
theorem place_of_rewrites
    (sensitive : field ∈ sensitiveFields)
    (sensitive' : other ∈ sensitiveFields)
    (steps : (fieldRule other).Rewrites before text result)
    (isResult : result = front ++ back)
    (place : FieldAt field (characterBefore before front) back) :
    ∃ left right, text = left ++ right ∧
      (fieldRule other).Rewrites (characterBefore before left) right back ∧
      FieldAt field (characterBefore before left) right := by
  induction steps generalizing front with
  | nil =>
      obtain ⟨-, rfl⟩ := List.append_eq_nil_iff.mp isResult.symm
      obtain ⟨first, rest, isEmpty, -⟩ := place.exists_cons sensitive
      cases isEmpty
  | @keep before character rest result missed more inductionHypothesis =>
      cases front with
      | nil =>
          subst isResult
          have whole : (fieldRule other).Rewrites before (character :: rest)
              (character :: result) := .keep missed more
          exact ⟨[], _, rfl, whole,
            fieldAt_of_rewrites sensitive sensitive' whole place⟩
      | cons first front =>
          obtain ⟨rfl, isRest⟩ := List.cons.inj isResult
          rw [characterBefore_cons] at place
          obtain ⟨left, right, rfl, onward, found⟩ :=
            inductionHypothesis isRest place
          exact ⟨character :: left, right, rfl, by rwa [characterBefore_cons],
            by rwa [characterBefore_cons]⟩
  | @replace before matched rest replacement result hit more inductionHypothesis =>
      obtain ⟨-, rfl, -, halts⟩ := fieldRule_hit sensitive' hit
      rcases List.append_eq_append_iff.mp isResult with
        ⟨inner, isFront, isBack⟩ | ⟨inner, isReplacement, isRest⟩
      -- a place right behind a replacement has nothing of the field left in it
      · subst isFront
        rw [characterBefore_append] at place
        by_cases started : inner = []
        · subst started
          rw [List.nil_append] at isBack
          subst isBack
          exact absurd place
            (not_fieldAt_of_halts sensitive
              (halts_of_rewrites sensitive' more halts))
        · rw [characterBefore_of_ne_nil started] at place
          obtain ⟨left, right, rfl, onward, found⟩ :=
            inductionHypothesis isBack place
          exact ⟨matched ++ left, right, by simp, by rwa [characterBefore_append],
            by rwa [characterBefore_append]⟩
      · subst isRest
        have whole : (fieldRule other).Rewrites before (matched ++ rest)
            (fieldReplacement other ++ result) := .replace hit more
        by_cases started : front = []
        · subst started
          rw [List.nil_append] at isReplacement
          subst isReplacement
          exact ⟨[], _, rfl, whole,
            fieldAt_of_rewrites sensitive sensitive' whole place⟩
        · by_cases ended : inner = []
          · subst ended
            rw [List.nil_append] at place
            exact absurd place
              (not_fieldAt_of_halts sensitive
                (halts_of_rewrites sensitive' more halts))
          · exact absurd place
              (not_fieldAt_inside sensitive sensitive' isReplacement started ended)

/-! ## Settled fields -/

/-- Whether a text begins with what a field is replaced by, and halts behind it. -/
def Literal (field : String) (text : List Char) : Prop :=
  ∃ rest, text = fieldReplacement field ++ rest ∧ Halts isFieldValueCharacter rest

/-- Whether all places of a field in a text are literal. -/
def Settled (field : String) (text : List Char) : Prop :=
  ∀ front back, text = front ++ back → FieldAt field front.getLast? back →
    Literal field back

/-- The rule of a field settles it. -/
theorem settled_apply
    (sensitive : field ∈ sensitiveFields)
    (text : List Char) :
    Settled field ((fieldRule field).apply text) := by
  intro front back isResult place
  rw [← characterBefore_none] at place
  obtain ⟨left, right, -, steps, found⟩ := place_of_rewrites sensitive sensitive
    (rewrites_apply (proper_fieldRule field) text) isResult place
  cases steps with
  | nil =>
      obtain ⟨first, rest, isEmpty, -⟩ := found.exists_cons sensitive
      cases isEmpty
  | keep missed more =>
      exact absurd missed (fieldRule_ne_none_iff.mpr found)
  | @replace _ matched rest replacement result hit more =>
      obtain ⟨-, rfl, -, halts⟩ := fieldRule_hit sensitive hit
      exact ⟨result, rfl, halts_of_rewrites sensitive more halts⟩

/-- The rule of another field leaves a field settled. -/
theorem Settled.apply
    (sensitive : field ∈ sensitiveFields)
    (sensitive' : other ∈ sensitiveFields)
    (different : other ≠ field)
    (settled : Settled field text) :
    Settled field ((fieldRule other).apply text) := by
  intro front back isResult place
  rw [← characterBefore_none] at place
  obtain ⟨left, right, isText, steps, found⟩ :=
    place_of_rewrites sensitive sensitive'
    (rewrites_apply (proper_fieldRule other) text) isResult place
  rw [characterBefore_none] at found
  obtain ⟨rest, rfl, halts⟩ := settled left right isText found
  obtain ⟨later, rfl, onward⟩ :=
    steps.of_misses (misses_replacement sensitive' sensitive different) rfl
  exact ⟨later, rfl, halts_of_rewrites sensitive' onward halts⟩

/-- Nothing changes where a field is settled. -/
theorem Settled.apply_eq_self
    (sensitive : field ∈ sensitiveFields)
    (settled : Settled field text) :
    (fieldRule field).apply text = text := by
  refine Rule.apply_eq_self (proper_fieldRule field) ?_
  intro front matched rest replacement isText hit
  have place : FieldAt field (characterBefore none front) (matched ++ rest) :=
    fieldRule_ne_none_iff.mp (by rw [hit]; simp)
  rw [List.append_assoc] at isText
  rw [characterBefore_none] at place hit
  obtain ⟨later, isLiteral, halts⟩ := settled front _ isText place
  rw [isLiteral, fieldRule_replacement sensitive place.1 halts] at hit
  obtain ⟨rfl, length⟩ := Replacement.mk.inj (Option.some.inj hit)
  exact (List.append_inj isLiteral length.symm).1.symm

end PolicyReconciler.Redaction

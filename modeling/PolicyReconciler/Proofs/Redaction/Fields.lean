import PolicyReconciler.Proofs.Redaction.Origin
import PolicyReconciler.Proofs.Redaction.Pattern

namespace PolicyReconciler.Redaction

/-!
# The places of fields

A field has a place in a text where its name starts at the start of a word and a
value follows it behind separators.  These are the places that the rule of the field
replaces.
-/

open Recogniser

/-! ## Values of fields -/

/-- Behind separators a value is what reaches to the last visible character. -/
theorem fieldValue_append
    {separators rest : List Char}
    (areSeparators : ∀ character ∈ separators, isFieldSeparator character = true)
    (halts : Halts isFieldSeparator rest) :
    fieldValue (separators ++ rest) =
      if separators.isEmpty then none
      else if !(rest.takeWhile isFieldValueCharacter).isEmpty then
        some (separators.length + (rest.takeWhile isFieldValueCharacter).length)
      else if 2 ≤ (separators.reverse.dropWhile Text.isBlank).length then
        some (separators.reverse.dropWhile Text.isBlank).length
      else none := by
  simp only [fieldValue, takeWhile_append_of_halts areSeparators halts,
    List.drop_left]

/-- A separator that is not blank can be a value itself. -/
theorem isFieldValueCharacter_of_isFieldSeparator
    {character : Char}
    (separator : isFieldSeparator character = true)
    (visible : Text.isBlank character = false) :
    isFieldValueCharacter character = true := by
  simp only [isFieldSeparator, visible, Bool.or_false, Bool.or_eq_true, beq_iff_eq]
    at separator
  rcases separator with rfl | rfl <;> decide

/-- Blanks put off no halt. -/
theorem halts_of_blank
    {blanks rest : List Char}
    (blank : ∀ character ∈ blanks, Text.isBlank character = true)
    (halts : Halts isFieldValueCharacter rest) :
    Halts isFieldValueCharacter (blanks ++ rest) := by
  cases blanks with
  | nil =>
      exact halts
  | cons first blanks =>
      intro character isHead
      cases isHead
      simp [isFieldValueCharacter, blank first List.mem_cons_self]

/-- A class halts where it accepts nothing. -/
theorem halts_of_takeWhile_eq_nil
    {accepts : Char → Bool}
    {text : List Char}
    (nothing : text.takeWhile accepts = []) :
    Halts accepts text := by
  intro character isHead
  obtain ⟨rest, rfl⟩ := List.head?_eq_some_iff.mp isHead
  by_contra accepted
  simp [Bool.not_eq_false _ ▸ accepted] at nothing

/--
Separators without a value behind them end with one that is not blank, and blanks.
-/
theorem last_visible
    {separators : List Char}
    (enough : 2 ≤ (separators.reverse.dropWhile Text.isBlank).length) :
    ∃ front value blanks, separators = front ++ value :: blanks ∧ front ≠ [] ∧
      Text.isBlank value = false ∧
        (∀ character ∈ blanks, Text.isBlank character = true) ∧
      (separators.reverse.dropWhile Text.isBlank).length = front.length + 1 := by
  have isReverse :=
    List.takeWhile_append_dropWhile (p := Text.isBlank) (l := separators.reverse)
  have halts := halts_dropWhile Text.isBlank separators.reverse
  cases kept : separators.reverse.dropWhile Text.isBlank with
  | nil =>
      simp [kept] at enough
  | cons value front =>
      rw [kept] at isReverse halts enough
      refine ⟨front.reverse, value,
        (separators.reverse.takeWhile Text.isBlank).reverse, ?_, ?_,
        halts value rfl, ?_, by simp⟩
      · have again := congrArg List.reverse isReverse.symm
        simpa using again
      · have some : front ≠ [] := by
          rintro rfl
          simp at enough
        simpa using some
      · exact fun character member =>
          List.mem_takeWhile_imp (List.mem_reverse.mp member)

/-- How separators, the value of a field and the text behind it may meet. -/
inductive Valued : List Char → List Char → List Char → Prop where
  | plain {separators value rest : List Char}
      (areSeparators : separators ∈ atLeastOne isFieldSeparator)
      (isValue : value ∈ atLeastOne isFieldValueCharacter)
      (apart : Halts isFieldSeparator value)
      (halts : Halts isFieldValueCharacter rest) :
      Valued separators value rest
  /-- Where no value follows, the last separator that is not blank is the value. -/
  | bare {separators blanks rest : List Char} {value : Char}
      (areSeparators : separators ∈ atLeastOne isFieldSeparator)
      (separator : isFieldSeparator value = true)
      (visible : Text.isBlank value = false)
      (blank : ∀ character ∈ blanks, Text.isBlank character = true)
      (apart : Halts isFieldSeparator rest)
      (halts : Halts isFieldValueCharacter rest) :
      Valued separators [value] (blanks ++ rest)

namespace Valued

variable {separators value rest : List Char}

/-- At least one separator stands in front of a value. -/
theorem areSeparators
    (valued : Valued separators value rest) :
    separators ∈ atLeastOne isFieldSeparator := by
  cases valued <;> assumption

/-- A value has at least one character. -/
theorem isValue
    (valued : Valued separators value rest) :
    value ∈ atLeastOne isFieldValueCharacter := by
  cases valued with
  | plain _ isValue =>
      exact isValue
  | bare _ separator visible =>
      exact ⟨by simp, by
        simpa using isFieldValueCharacter_of_isFieldSeparator separator visible⟩

/-- A value goes on as far as it can. -/
theorem halts
    (valued : Valued separators value rest) :
    Halts isFieldValueCharacter rest := by
  cases valued with
  | plain _ _ _ halts =>
      exact halts
  | bare _ _ _ blank _ halts =>
      exact halts_of_blank blank halts

end Valued

/-- What the recogniser accepts is separators with a value. -/
theorem valued_of_fieldValue
    {text : List Char}
    {length : Nat}
    (accepted : fieldValue text = some length) :
    ∃ separators value rest, text = separators ++ (value ++ rest) ∧
      Valued separators value rest ∧ length = (separators ++ value).length := by
  obtain ⟨leading, rest, rfl, areSeparators, halts⟩ :
      ∃ leading rest, text = leading ++ rest ∧
        (∀ character ∈ leading, isFieldSeparator character = true) ∧
          Halts isFieldSeparator rest :=
    ⟨_, _, (List.takeWhile_append_dropWhile (p := isFieldSeparator)).symm,
      fun _ member =>
        List.mem_takeWhile_imp member, halts_dropWhile isFieldSeparator text⟩
  rw [fieldValue_append areSeparators halts] at accepted
  split at accepted
  · cases accepted
  · rename_i some
    split at accepted
    · rename_i follows
      have isRest :=
        List.takeWhile_append_dropWhile (p := isFieldValueCharacter) (l := rest)
      have apart :
          Halts isFieldSeparator (rest.takeWhile isFieldValueCharacter) := by
        intro character isHead
        obtain ⟨more, isValue⟩ := List.head?_eq_some_iff.mp isHead
        exact halts character (by rw [← isRest, isValue]; rfl)
      refine ⟨leading, _, _, congrArg _ isRest.symm,
        .plain ⟨by simpa using some, areSeparators⟩
        ⟨by simpa using follows, fun _ member =>
          List.mem_takeWhile_imp member⟩ apart
        (halts_dropWhile _ rest), ?_⟩
      rw [List.length_append]
      exact (Option.some.inj accepted).symm
    · rename_i nothing
      split at accepted
      · rename_i enough
        -- nothing follows the separators, so the last of them serves as the value
        obtain ⟨front, value, blanks, rfl, nonempty, visible, blank, isLength⟩ :=
          last_visible enough
        have stops : Halts isFieldValueCharacter rest :=
          halts_of_takeWhile_eq_nil (by simpa using nothing)
        have leading : front ∈ atLeastOne isFieldSeparator :=
          ⟨nonempty, fun character member =>
            areSeparators character (by simp [member])⟩
        refine ⟨front, [value], blanks ++ rest, by simp,
          .bare leading (areSeparators value (by simp)) visible blank halts stops,
            ?_⟩
        rw [isLength] at accepted
        simpa using (Option.some.inj accepted).symm
      · cases accepted

/-- Dropped blanks end at the last visible character. -/
theorem length_of_last_visible
    {separators more : List Char}
    {value : Char}
    (visible : Text.isBlank value = false) :
    ((separators ++ value :: more).reverse.dropWhile Text.isBlank).length =
      (more.reverse.dropWhile Text.isBlank).length + (separators.length + 1) := by
  have isReverse : (separators ++ value :: more).reverse =
      more.reverse ++ value :: separators.reverse := by
    simp
  rw [isReverse, List.dropWhile_append]
  split
  · rename_i isEmpty
    simp [visible, List.isEmpty_iff.mp isEmpty]
  · simp

/-- Separators with a value are accepted whole. -/
theorem fieldValue_of_valued
    {separators value rest : List Char}
    (valued : Valued separators value rest) :
    fieldValue (separators ++ (value ++ rest)) =
      some (separators ++ value).length := by
  cases valued with
  | plain areSeparators isValue apart halts =>
      obtain ⟨some, accepted⟩ := isValue
      obtain ⟨first, more, rfl⟩ := List.exists_cons_of_ne_nil some
      have further : Halts isFieldSeparator (first :: more ++ rest) := apart
      rw [fieldValue_append areSeparators.2 further,
        takeWhile_append_of_halts accepted halts]
      simp [areSeparators.1]
  | @bare blanks rest value areSeparators separator visible blank apart halts =>
      have leading : ∀ character ∈ separators ++ value :: blanks,
          isFieldSeparator character = true := by
        refine List.forall_mem_append.mpr ⟨areSeparators.2, List.forall_mem_cons.mpr
          ⟨separator, fun character member => ?_⟩⟩
        simp [isFieldSeparator, blank character member]
      have whole : separators ++ ([value] ++ (blanks ++ rest)) =
          separators ++ value :: blanks ++ rest := by
        simp
      have nothing : ([] ++ rest).takeWhile isFieldValueCharacter = [] :=
        takeWhile_append_of_halts (by simp) halts
      rw [List.nil_append] at nothing
      have noBlank : blanks.reverse.dropWhile Text.isBlank = [] :=
        List.dropWhile_eq_nil_iff.mpr fun character member =>
          blank character (List.mem_reverse.mp member)
      have some : 0 < separators.length := List.length_pos_iff.mpr areSeparators.1
      rw [whole, fieldValue_append leading apart, nothing,
        length_of_last_visible visible, noBlank]
      simp only [List.isEmpty_nil, List.length_nil, Nat.zero_add]
      rw [if_neg (by simp), if_neg (by simp), if_pos (by omega)]
      simp

/--
The accepted characters are separators and a value, as they meet at the start of the
text.
-/
theorem fieldValue_iff
    {text : List Char}
    {length : Nat} :
    fieldValue text = some length ↔
      ∃ separators value rest, text = separators ++ (value ++ rest) ∧
        Valued separators value rest ∧ length = (separators ++ value).length := by
  constructor
  · exact valued_of_fieldValue
  · rintro ⟨separators, value, rest, rfl, valued, rfl⟩
    exact fieldValue_of_valued valued

/-- Separators and a value behind them are accepted, whatever follows. -/
theorem fieldValue_ne_none
    {separators rest : List Char}
    {value : Char}
    (areSeparators : separators ∈ atLeastOne isFieldSeparator)
    (isValue : isFieldValueCharacter value = true) :
    fieldValue (separators ++ value :: rest) ≠ none := by
  obtain ⟨nonempty, areSeparators⟩ := areSeparators
  cases separator : isFieldSeparator value with
  | false =>
      rw [fieldValue_append areSeparators (by rintro _ ⟨⟩; exact separator)]
      simp [nonempty, isValue]
  | true =>
      have visible : Text.isBlank value = false := by
        simp only [isFieldValueCharacter, Bool.not_eq_true', Bool.or_eq_false_iff]
          at isValue
        exact isValue.1.1.1
      obtain ⟨more, later, rfl, areMore, halts⟩ :
          ∃ more later, rest = more ++ later ∧
            (∀ character ∈ more, isFieldSeparator character = true) ∧
              Halts isFieldSeparator later :=
        ⟨_, _, (List.takeWhile_append_dropWhile (p := isFieldSeparator)).symm,
          fun _ member =>
            List.mem_takeWhile_imp member, halts_dropWhile isFieldSeparator rest⟩
      have leading : ∀ character ∈ separators ++ value :: more,
          isFieldSeparator character = true :=
        List.forall_mem_append.mpr
          ⟨areSeparators, List.forall_mem_cons.mpr ⟨separator, areMore⟩⟩
      have enough :
          2 ≤ ((separators ++ value :: more).reverse.dropWhile
            Text.isBlank).length := by
        have some : 0 < separators.length := List.length_pos_iff.mpr nonempty
        rw [length_of_last_visible visible]
        omega
      have whole : separators ++ value :: (more ++ later) =
          separators ++ value :: more ++ later := by
        simp
      rw [whole, fieldValue_append leading halts, if_neg (by simp), if_pos enough]
      split <;> simp

/-! ## Places -/

/--
Whether a field has a place at the start of a text, given the character before it.
-/
def FieldAt (field : String) (before : Option Char) (text : List Char) : Prop :=
  before.any Text.isWordCharacter = false ∧
    ∃ name separators value rest, text = name ++ (separators ++ value :: rest) ∧
      name ∈ spelled field.toList ∧ separators ∈ atLeastOne isFieldSeparator ∧
      isFieldValueCharacter value = true

variable {field : String}
variable {before : Option Char}
variable {text : List Char}

/-- What the rule of a field matches, and what it puts in its place. -/
theorem fieldRule_sound
    {replacement : Replacement}
    (hit : fieldRule field before text = some replacement) :
    before.any Text.isWordCharacter = false ∧
      ∃ name separators value rest, text = name ++ (separators ++ (value ++ rest)) ∧
        name ∈ spelled field.toList ∧ Valued separators value rest ∧
        replacement =
          ⟨fieldReplacement field, (name ++ (separators ++ value)).length⟩ := by
  unfold fieldRule at hit
  split at hit
  · cases hit
  · rename_i boundary
    obtain ⟨length, accepted, rfl⟩ := Option.map_eq_some_iff.mp hit
    unfold Recogniser.followedBy at accepted
    cases found : wordOf field.toList text with
    | none =>
        simp [found] at accepted
    | some taken =>
        obtain ⟨name, rest, rfl, isName, rfl⟩ :=
          (reads_wordOf field.toList).sound found
        simp only [found, List.drop_left, Option.map_eq_some_iff] at accepted
        obtain ⟨further, acceptedValue, rfl⟩ := accepted
        obtain ⟨separators, value, rest, rfl, valued, rfl⟩ :=
          fieldValue_iff.mp acceptedValue
        exact ⟨by simpa using boundary, name, separators, value, rest,
          rfl, isName, valued, by simp⟩

/-- A field's name at a boundary is redacted with its value. -/
theorem fieldRule_of_name
    {name rest : List Char}
    {length : Nat}
    (boundary : before.any Text.isWordCharacter = false)
    (isName : name ∈ spelled field.toList)
    (valued : fieldValue rest = some length) :
    fieldRule field before (name ++ rest) =
      some ⟨fieldReplacement field, name.length + length⟩ := by
  have found : wordOf field.toList (name ++ rest) = some name.length :=
    (reads_wordOf field.toList).exact isName fun _ _ => rfl
  simp [fieldRule, boundary, Recogniser.followedBy, found, valued]

/-- The rule of a field matches at its places and nowhere else. -/
theorem fieldRule_ne_none_iff :
    fieldRule field before text ≠ none ↔ FieldAt field before text := by
  constructor
  · intro matched
    obtain ⟨replacement, hit⟩ := Option.ne_none_iff_exists'.mp matched
    obtain ⟨boundary, name, separators, value, rest, rfl, isName, valued, -⟩ :=
      fieldRule_sound hit
    obtain ⟨some, accepted⟩ := valued.isValue
    obtain ⟨first, more, rfl⟩ := List.exists_cons_of_ne_nil some
    exact ⟨boundary, name, separators, first, more ++ rest, rfl, isName,
      valued.areSeparators, accepted first List.mem_cons_self⟩
  · rintro ⟨boundary, name, separators, value, rest, rfl, isName,
      areSeparators, isValue⟩
    obtain ⟨length, valued⟩ :
        ∃ length, fieldValue (separators ++ value :: rest) = some length :=
      Option.ne_none_iff_exists'.mp (fieldValue_ne_none areSeparators isValue)
    rw [fieldRule_of_name boundary isName valued]
    simp

end PolicyReconciler.Redaction

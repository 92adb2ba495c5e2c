import PolicyReconciler.Proofs.Redaction.Accounts
import PolicyReconciler.Proofs.Redaction.Places

namespace PolicyReconciler.Redaction

/-!
# Redacted texts are clean

Each rule makes sure that the words of its own pattern are absent, and no later rule
brings back the words of an earlier one.  So a redacted text holds no credential, no
account number and no place of a field that is not written out, and redaction does
not change it any more.
-/

open Rule

/-- Whether none of the words of a language occurs in a text. -/
def Absent (words : Language Char) (text : List Char) : Prop :=
  ∀ word ∈ words, ¬ word <:+: text

variable {rule : Rule}
variable {words : Language Char}
variable {word text result : List Char}

/-! ## Words under the rule of a credential -/

theorem CredentialLike.ne_nil
    (like : CredentialLike word) :
    word ≠ [] := by
  obtain ⟨character, rest, rfl, -⟩ := like.begins
  exact List.cons_ne_nil character rest

/-- No credential lies in a text without separators. -/
theorem CredentialLike.not_infix_of_unseparated
    {letters : List Char}
    (like : CredentialLike word)
    (unseparated : ∀ character ∈ letters, isSeparator character = false) :
    ¬ word <:+: letters := by
  intro inside
  obtain ⟨character, member, separator⟩ := like.separated
  rw [unseparated character (inside.subset member)] at separator
  cases separator

theorem markLetters_unseparated :
    ∀ character ∈ markLetters, isSeparator character = false := by
  decide

/-- What is removed is what was recognised. -/
theorem removal_sound
    {recogniser : Recogniser}
    {before : Option Char}
    {replacement : Replacement}
    (hit : removal recogniser before text = some replacement) :
    ∃ length, recogniser text = some length ∧
      replacement = ⟨redactedMark, length⟩ := by
  obtain ⟨length, accepted, rfl⟩ := Option.map_eq_some_iff.mp hit
  exact ⟨length, accepted, rfl⟩

/-- A removal never takes an empty text. -/
theorem proper_removal
    {recogniser : Recogniser}
    (recognises : Recognises recogniser words) :
    (removal recogniser).Proper := by
  intro before text replacement hit
  obtain ⟨length, accepted, rfl⟩ := removal_sound hit
  obtain ⟨word, rest, rfl, isWord, rfl⟩ := recognises.sound accepted
  exact ⟨List.length_pos_iff.mpr (recognises.like word isWord).ne_nil, by simp⟩

theorem lead_of_mark
    (length : Nat) :
    Replacement.lead ⟨redactedMark, length⟩ = [] := by
  simp [Replacement.lead, redactedMark_eq]

/-- A removal leaves the bare mark. -/
theorem marks_removal
    (recogniser : Recogniser) :
    (removal recogniser).Marks [] := by
  intro before text replacement hit
  obtain ⟨length, -, rfl⟩ := removal_sound hit
  simp [lead_of_mark]

/--
A plain word that is not part of the mark stands in the text where nothing is
removed.
-/
theorem word_of_removal
    {recogniser : Recogniser}
    (recognises : Recognises recogniser words)
    (plain : Plain word)
    (nonempty : word ≠ [])
    (unmarked : ¬ word <:+: markLetters)
    (occurs : word <:+: (removal recogniser).apply text) :
    ∃ front rest, text = front ++ (word ++ rest) ∧
      recogniser (word ++ rest) = none := by
  have leadless : ∀ {before text replacement},
      removal recogniser before text = some replacement →
        replacement.lead = [] := by
    intro before text replacement hit
    obtain ⟨length, -, rfl⟩ := removal_sound hit
    exact lead_of_mark length
  have steps := rewrites_apply (proper_removal recognises) text
  cases steps.origin (marks_removal recogniser) plain nonempty occurs with
  | @kept front kept part rest isText isWord _ missed onward =>
      rcases onward with rfl | ⟨replacement, hit, more, isPart⟩
      · rw [List.append_nil] at isWord
        subst isWord
        exact ⟨front, rest, by rw [isText, List.append_assoc],
          Option.map_eq_none_iff.mp missed⟩
      · rw [leadless hit] at isPart
        exact absurd (List.eq_nil_of_prefix_nil isPart) more
  | lead _ hit inside =>
      rw [leadless hit] at inside
      exact absurd (List.eq_nil_of_infix_nil inside) nonempty
  | mark inside =>
      exact absurd inside unmarked
  | tail begins =>
      obtain ⟨_, member, -⟩ := begins
      cases member

/-- A removal leaves nothing that it recognises. -/
theorem absent_removal
    {recogniser : Recogniser}
    (recognises : Recognises recogniser words)
    (text : List Char) :
    Absent words ((removal recogniser).apply text) := by
  intro word isWord occurs
  have like := recognises.like word isWord
  obtain ⟨front, rest, -, missed⟩ :=
    word_of_removal recognises like.plain like.ne_nil
    (like.not_infix_of_unseparated markLetters_unseparated) occurs
  exact recognises.finds word isWord rest missed

/--
Without words of its pattern, the rule of a credential does not change a text.
-/
theorem removal_eq_self
    {recogniser : Recogniser}
    (recognises : Recognises recogniser words)
    (absent : Absent words text) :
    (removal recogniser).apply text = text := by
  refine apply_eq_self (proper_removal recognises) ?_
  intro front matched rest replacement isText hit
  obtain ⟨length, accepted, -⟩ := removal_sound hit
  obtain ⟨word, later, isRest, isWord, -⟩ := recognises.sound accepted
  rw [List.append_assoc, isRest] at isText
  exact absurd ⟨front, later, by rw [isText, List.append_assoc]⟩
    (absent word isWord)

/-- Another removal brings no credential back. -/
theorem Absent.removal
    {recogniser : Recogniser}
    {others : Language Char}
    (absent : Absent words text)
    (like : ∀ word ∈ words, CredentialLike word)
    (recognises : Recognises recogniser others) :
    Absent words ((removal recogniser).apply text) := by
  intro word isWord occurs
  obtain ⟨front, rest, rfl, -⟩ :=
    word_of_removal recognises (like word isWord).plain
    (like word isWord).ne_nil
    ((like word isWord).not_infix_of_unseparated markLetters_unseparated) occurs
  exact absent word isWord ⟨front, rest, List.append_assoc ..⟩

/-! ## Words under the rule for account numbers -/

/--
A plain word stands where no number is hidden, or inside the part before a number.
-/
theorem word_of_account
    (plain : Plain word)
    (nonempty : word ≠ [])
    (unmarked : ¬ word <:+: markLetters)
    (begins : word.head? ≠ some ':')
    (occurs : word <:+: accountRule.apply text) :
    word <:+: text ∧
      ((∃ before rest, accountRule before (word ++ rest) = none) ∨
        ∃ name ∈ resourceNameWords, word <:+: name) := by
  have steps := rewrites_apply proper_accountRule text
  cases steps.origin marks_accountRule plain nonempty occurs with
  | @kept front kept part rest isText isWord _ missed onward =>
      -- The part of a name that the word runs into is the text itself.
      obtain ⟨more, rfl⟩ : ∃ more, rest = part ++ more := by
        rcases onward with rfl | ⟨replacement, hit, -, isPart⟩
        · exact ⟨rest, rfl⟩
        · obtain ⟨more, isRest⟩ := isPart.trans (lead_of_account hit).2.2
          exact ⟨more, isRest.symm⟩
      subst isWord
      rw [← List.append_assoc] at missed
      refine ⟨⟨front, more, ?_⟩, .inl ⟨_, more, missed⟩⟩
      rw [isText]
      simp
  | @lead front rest replacement isText hit inside =>
      obtain ⟨-, isName, isFront⟩ := lead_of_account hit
      refine ⟨?_, .inr ⟨_, isName, inside⟩⟩
      rw [isText]
      exact (inside.trans isFront.isInfix).trans
        (List.suffix_append front rest).isInfix
  | mark inside =>
      exact absurd inside unmarked
  | tail isTail =>
      obtain ⟨character, member, isHead⟩ := isTail
      rw [List.mem_singleton.mp member] at isHead
      exact absurd isHead begins

/-- The redaction of accounts brings no credential back. -/
theorem Absent.account
    (absent : Absent words text)
    (like : ∀ word ∈ words, CredentialLike word) :
    Absent words (accountRule.apply text) := by
  intro word isWord occurs
  have credential := like word isWord
  refine absent word isWord (word_of_account credential.plain credential.ne_nil
    (credential.not_infix_of_unseparated markLetters_unseparated) ?_ occurs).1
  obtain ⟨character, rest, rfl, letter⟩ := credential.begins
  rintro ⟨⟩
  exact absurd letter (by decide)

theorem AccountLike.not_mem_marks
    (like : AccountLike word) :
    word ≠ [] ∧ ¬ word <:+: markLetters ∧ word.head? ≠ some ':' := by
  obtain ⟨rest, rfl⟩ := like.begins
  refine ⟨List.cons_ne_nil _ _, fun inside => ?_, by simp⟩
  exact absurd (inside.subset List.mem_cons_self) (by decide)

/-- The redaction of accounts leaves none. -/
theorem absent_account
    (text : List Char) :
    Absent accountWords (accountRule.apply text) := by
  intro word isWord occurs
  have like := accountLike isWord
  obtain ⟨nonempty, unmarked, begins⟩ := like.not_mem_marks
  rcases (word_of_account like.plain nonempty unmarked begins occurs).2 with
    ⟨before, rest, missed⟩ | ⟨name, isName, inside⟩
  · exact accountRule_ne_none isWord before rest missed
  · have fewer := inside.sublist.count_le ':'
    rw [like.colons, (resourceName_facts isName).2.1] at fewer
    omega

/--
Without words of its pattern, the rule for account numbers does not change a text.
-/
theorem account_eq_self
    (absent : Absent accountWords text) :
    accountRule.apply text = text := by
  refine apply_eq_self proper_accountRule
    fun front matched rest replacement isText hit => ?_
  obtain ⟨name, number, later, isRest, isName, isNumber, -⟩ := accountRule_sound hit
  rw [List.append_assoc, isRest] at isText
  exact absurd ⟨front, later, by simp [isText]⟩
    (absent _ (Language.append_mem_mul isName isNumber))

/-! ## Words under the rule of a field -/

/-- What a replacement for a field holds before the mark. -/
def fieldLead (field : String) : List Char :=
  field.toList ++ [':', ' ']

/-- A field's replacement begins with its name. -/
theorem lead_of_field
    {field : String}
    {length : Nat}
    (sensitive : field ∈ sensitiveFields) :
    Replacement.lead ⟨fieldReplacement field, length⟩ = fieldLead field := by
  have listed : ∀ field ∈ sensitiveFields,
      (fieldReplacement field).takeWhile (· != '[') = fieldLead field := by
    decide
  exact listed field sensitive

/--
A plain word of the result occurs in the text, or it runs into the name of the
field, of which the text has another spelling, or it lies inside of what is written
before the mark.
-/
theorem word_of_field
    {field : String}
    (sensitive : field ∈ sensitiveFields)
    (plain : Plain word)
    (nonempty : word ≠ [])
    (unmarked : ¬ word <:+: markLetters)
    (occurs : word <:+: (fieldRule field).apply text) :
    word <:+: text ∨
      (∃ kept part name, word = kept ++ part ∧ part ≠ [] ∧
        part <+: fieldLead field ∧
        name ∈ spelled field.toList ∧ kept ++ name <:+: text) ∨
      word <:+: fieldLead field := by
  have steps := rewrites_apply (proper_fieldRule field) text
  cases steps.origin (marks_fieldRule sensitive) plain nonempty occurs with
  | @kept front kept part rest isText isWord _ missed onward =>
      rcases onward with rfl | ⟨replacement, hit, more, isPart⟩
      · rw [List.append_nil] at isWord
        exact .inl ⟨front, rest, by rw [isText, isWord]⟩
      · obtain ⟨-, name, separators, value, later, rfl, isName, -, -, -, rfl⟩ :=
          fieldRule_sound hit
        rw [lead_of_field sensitive] at isPart
        refine .inr (.inl ⟨kept, part, name, isWord, more, isPart, isName,
          front, separators ++ (value ++ later), ?_⟩)
        rw [isText]
        simp
  | lead _ hit inside =>
      obtain ⟨-, _, _, _, _, -, -, -, rfl⟩ := fieldRule_sound hit
      rw [lead_of_field sensitive] at inside
      exact .inr (.inr inside)
  | mark inside =>
      exact absurd inside unmarked
  | tail begins =>
      obtain ⟨_, member, -⟩ := begins
      cases member

/--
A text that ends with a character not in the back of another does not reach into
that back.
-/
theorem prefix_of_getLast_not_mem
    {start front back : List Char}
    {last : Char}
    (isLast : start.getLast? = some last)
    (absent : last ∉ back)
    (isStart : start <+: front ++ back) :
    start <+: front := by
  obtain ⟨later, same⟩ := isStart
  rcases List.append_eq_append_iff.mp same with ⟨more, rfl, -⟩ | ⟨more, rfl, rfl⟩
  · exact List.prefix_append start more
  · by_cases none : more = []
    · simp [none]
    · rw [List.getLast?_append, List.getLast?_eq_some_getLast none, Option.some_or]
        at isLast
      cases isLast
      exact absurd (List.mem_append_left later (List.getLast_mem none)) absent

/-- The redaction of a field brings no credential back. -/
theorem Absent.field
    {field : String}
    (sensitive : field ∈ sensitiveFields)
    (absent : Absent words text)
    (like : ∀ word ∈ words, CredentialLike word)
    (caseless : Caseless words) :
    Absent words ((fieldRule field).apply text) := by
  intro word isWord occurs
  have credential := like word isWord
  obtain ⟨last, isLast, secret⟩ := credential.ends
  have notBehind : last ∉ [':', ' '] := by
    intro member
    have listed :
        ∀ character ∈ [':', ' '], isSecretCharacter character = false := by
      decide
    rw [listed last member] at secret
    cases secret
  rcases word_of_field sensitive credential.plain credential.ne_nil
      (credential.not_infix_of_unseparated markLetters_unseparated) occurs with
    inside | ⟨kept, part, name, rfl, more, isPart, isName, inText⟩ | inside
  · exact absent word isWord inside
  · -- The same word in the spelling of the text was there before.
    have endsPart : part.getLast? = some last := by
      rwa [List.getLast?_append, List.getLast?_eq_some_getLast more, Option.some_or,
        ← List.getLast?_eq_some_getLast more] at isLast
    obtain ⟨later, isField⟩ := prefix_of_getLast_not_mem endsPart notBehind isPart
    have spelling :
        (name.take part.length).map foldLetter = part.map foldLetter := by
      have folded :
          part.map foldLetter ++ later.map foldLetter = name.map foldLetter := by
        rw [← List.map_append, isField, name_self sensitive, isName]
      rw [List.map_take, ← folded, List.take_left' (by simp)]
    refine absent (kept ++ name.take part.length) ?_ ?_
    · exact caseless _ isWord _ (by rw [List.map_append, List.map_append, spelling])
    · exact ((List.prefix_append_right_inj kept).mpr
        (List.take_prefix _ name)).isInfix.trans inText
  · obtain ⟨front, later, same⟩ := inside
    have isStart : front ++ word <+: field.toList ++ [':', ' '] := ⟨later, same⟩
    have endsStart : (front ++ word).getLast? = some last := by
      rw [List.getLast?_append, isLast, Option.some_or]
    have inside := prefix_of_getLast_not_mem endsStart notBehind isStart
    refine credential.not_infix_of_unseparated (fun character member => ?_)
      ((List.suffix_append front word).isInfix.trans inside.isInfix)
    have letter := mem_nameLetters_of_sensitive sensitive member
    exact isSeparator_of_foldLetter_mem
      (by rwa [foldLetter_of_mem_nameLetters letter])

/-- The redaction of a field brings no account back. -/
theorem Absent.account_field
    {field : String}
    (sensitive : field ∈ sensitiveFields)
    (absent : Absent accountWords text) :
    Absent accountWords ((fieldRule field).apply text) := by
  intro word isWord occurs
  have like := accountLike isWord
  obtain ⟨nonempty, unmarked, -⟩ := like.not_mem_marks
  obtain ⟨front, digit, isEnd, isDigit⟩ := like.ends
  have notInside : digit ∉ fieldLead field := by
    intro member
    have noDigit : Text.isDecimalDigit digit = false := by
      rcases List.mem_append.mp member with inName | behind
      · exact isDecimalDigit_of_mem_nameLetters digit
          (mem_nameLetters_of_sensitive sensitive inName)
      · have listed :
            ∀ character ∈ [':', ' '], Text.isDecimalDigit character = false := by
          decide
        exact listed digit behind
    rw [noDigit] at isDigit
    cases isDigit
  rcases word_of_field sensitive like.plain nonempty unmarked occurs with
    inside | ⟨kept, part, name, rfl, more, isPart, -, -⟩ | inside
  · exact absent word isWord inside
  · -- What the word shares with the replacement goes beyond its colon to a digit.
    rcases List.append_eq_append_iff.mp isEnd with ⟨_, -, rfl⟩ | ⟨before, -, isRest⟩
    · exact notInside (isPart.subset (by simp))
    · match before, isRest with
      | [], isRest =>
          rw [List.nil_append] at isRest
          exact notInside (isPart.subset (isRest ▸ List.mem_cons_self))
      | [_], isRest =>
          obtain ⟨-, rfl⟩ := List.cons.inj isRest
          obtain ⟨first, rest, isName⟩ :=
            List.exists_cons_of_ne_nil (sensitive_ne_nil sensitive)
          have letter : first ∈ nameLetters :=
            mem_nameLetters_of_sensitive sensitive
              (by rw [isName]; exact List.mem_cons_self)
          rw [fieldLead, isName] at isPart
          obtain ⟨later, same⟩ := isPart
          rw [← (List.cons.inj same).1] at letter
          exact absurd letter (by decide)
      | _ :: _ :: before, isRest =>
          obtain ⟨-, isRest⟩ := List.cons.inj isRest
          obtain ⟨-, isRest⟩ := List.cons.inj isRest
          exact more (List.append_eq_nil_iff.mp isRest.symm).2
  · exact notInside (inside.subset (by rw [isEnd]; simp))

/-! ## All rules in sequence -/

/-- A text in which nothing is left to redact. -/
structure Redacted (text : List Char) : Prop where
  credentials : ∀ words ∈ credentialWords, Absent words text
  accounts : Absent accountWords text
  fields : ∀ field ∈ sensitiveFields, Settled field text

/-- All removals together leave no credential. -/
theorem credentials_absent
    {recognisers : List Recogniser}
    {patterns : List (Language Char)}
    (recognised : List.Forall₂ Recognises recognisers patterns)
    (text : List Char) :
    ∀ words : Language Char, (∀ word ∈ words, CredentialLike word) →
      words ∈ patterns ∨ Absent words text →
      Absent words
        (recognisers.foldl (fun current one =>
        (removal one).apply current) text) := by
  induction recognised generalizing text with
  | nil =>
      intro words _ absent
      exact absent.resolve_left (List.not_mem_nil)
  | cons recognises _ inductionHypothesis =>
      intro words like found
      refine inductionHypothesis _ words like ?_
      rcases found with listed | absent
      · rcases List.mem_cons.mp listed with rfl | later
        · exact .inr (absent_removal recognises text)
        · exact .inl later
      · exact .inr (absent.removal like recognises)

/-- What each field's redaction keeps is kept by all. -/
theorem foldl_fields
    (property : List Char → Prop)
    {fields : List String}
    (kept : ∀ field ∈ fields, ∀ text, property text →
      property ((fieldRule field).apply text))
    (holds : property text) :
    property (fields.foldl (fun current field =>
      (fieldRule field).apply current) text) := by
  induction fields generalizing text with
  | nil =>
      exact holds
  | cons field fields inductionHypothesis =>
      obtain ⟨first, later⟩ := List.forall_mem_cons.mp kept
      exact inductionHypothesis later (first text holds)

/-- A listed field is settled once all fields were redacted. -/
theorem fields_settled
    {fields : List String}
    {field : String}
    (sensitive : ∀ field ∈ fields, field ∈ sensitiveFields)
    (listed : field ∈ fields)
    (text : List Char) :
    Settled field
      (fields.foldl (fun current field =>
      (fieldRule field).apply current) text) := by
  induction fields generalizing text with
  | nil =>
      cases listed
  | cons first fields inductionHypothesis =>
      obtain ⟨isFirst, later⟩ := List.forall_mem_cons.mp sensitive
      rw [List.foldl_cons]
      by_cases again : field ∈ fields
      · exact inductionHypothesis later again _
      · obtain rfl : field = first := (List.mem_cons.mp listed).resolve_right again
        refine foldl_fields (Settled field) (fun other member text settled => ?_)
          (settled_apply isFirst text)
        exact settled.apply isFirst (later other member) fun same =>
          again (same ▸ member)

/-- The redacted message is free of every pattern, in whatever order. -/
theorem redacted_of_perm
    {fields : List String}
    (order : fields.Perm sensitiveFields)
    (message : List Char) :
    Redacted (redactCharacters fields message) where
  credentials := by
    intro words isPattern
    obtain ⟨recogniser, recognises⟩ := exists_recogniser isPattern
    refine foldl_fields (Absent words) (fun field member text absent => ?_)
      (Absent.account ?_ recognises.like)
    · exact absent.field (order.subset member) recognises.like recognises.caseless
    · exact credentials_absent credentials_recognised message words recognises.like
        (.inl isPattern)
  accounts :=
    foldl_fields (Absent accountWords)
      (fun _ member _ absent => absent.account_field (order.subset member))
        (absent_account _)
  fields := fun field sensitive =>
    fields_settled (fun _ member => order.subset member)
      (order.symm.subset sensitive) _

/-- Without credentials the removals change nothing. -/
theorem credentials_unchanged
    {recognisers : List Recogniser}
    {patterns : List (Language Char)}
    (recognised : List.Forall₂ Recognises recognisers patterns)
    (absent : ∀ words ∈ patterns, Absent words text) :
    recognisers.foldl (fun current one => (removal one).apply current) text =
      text := by
  induction recognised with
  | nil =>
      rfl
  | cons recognises _ inductionHypothesis =>
      obtain ⟨first, later⟩ := List.forall_mem_cons.mp absent
      rw [List.foldl_cons, removal_eq_self recognises first]
      exact inductionHypothesis later

/-- Redaction does not change a text in which nothing is left to redact. -/
theorem Redacted.unchanged
    {fields : List String}
    (redacted : Redacted text)
    (sensitive : ∀ field ∈ fields, field ∈ sensitiveFields) :
    redactCharacters fields text = text := by
  simp only [redactCharacters,
    credentials_unchanged credentials_recognised redacted.credentials,
    account_eq_self redacted.accounts]
  refine foldl_fields (· = text) (fun field member current same => ?_) rfl
  subst same
  exact (redacted.fields field (sensitive field member)).apply_eq_self
    (sensitive field member)

/--
Whichever order the sensitive fields are taken in, a redacted message is clean: it
holds no word of the patterns for credentials and account numbers, all places of
fields are written out literally, and redacting it again, in any order, does not
change it.
-/
theorem redaction_settles
    {fields again : List String}
    (order : fields.Perm sensitiveFields)
    (order' : again.Perm sensitiveFields)
    (message : List Char) :
    Redacted (redactCharacters fields message) ∧
      redactCharacters again (redactCharacters fields message) =
        redactCharacters fields message := by
  have redacted := redacted_of_perm order message
  exact ⟨redacted, redacted.unchanged fun _ member => order'.subset member⟩

/-- A message in which the value of one field is another field with a value. -/
def nestedMessage : List Char :=
  "secret: token: x".toList

theorem redaction_settles_nested :
    sensitiveFields.reverse.Perm sensitiveFields ∧
      sensitiveFields.Perm sensitiveFields ∧
      Redacted (redactCharacters sensitiveFields.reverse nestedMessage) ∧
      redactCharacters sensitiveFields
          (redactCharacters sensitiveFields.reverse nestedMessage) =
        redactCharacters sensitiveFields.reverse nestedMessage :=
  ⟨List.reverse_perm _, .refl _,
    redaction_settles (List.reverse_perm _) (.refl _) nestedMessage⟩

end PolicyReconciler.Redaction

import PolicyReconciler.Proofs.Redaction.Clean

namespace PolicyReconciler.Redaction

/-!
# The order of the fields

Where no field has a place inside the match of another, the rules of the fields do
not meet, and their order does not matter.  Otherwise it does: the value of one
field may be the name of another, and the rule that comes first hides the place from
the other rule.
-/

open Rule

/-! ## Matches of one field under the rule of another -/

variable {field other : String}
variable {before : Option Char}
variable {text rest later result : List Char}

theorem sheltered_of_blank
    {blanks : List Char}
    (before : Option Char)
    (blank : ∀ character ∈ blanks, Text.isBlank character = true) :
    Sheltered before blanks := by
  intro left character right isBlanks
  refine .inr fun letter => ?_
  have separator : isFieldSeparator character = true := by
    simp [isFieldSeparator, blank character (by simp [isBlanks])]
  rw [isFieldSeparator_of_foldLetter_mem letter] at separator
  cases separator

/-- A value ends where it ended before the text behind it was scanned. -/
theorem Valued.of_rewrites
    {separators value : List Char}
    (sensitive : other ∈ sensitiveFields)
    (valued : Valued separators value rest)
    (steps : (fieldRule other).Rewrites before rest later) :
    Valued separators value later := by
  cases valued with
  | plain areSeparators isValue apart halts =>
      exact .plain areSeparators isValue apart
        (halts_of_rewrites sensitive steps halts)
  | @bare blanks behind value areSeparators separator visible blank apart halts =>
      obtain ⟨last, rfl, onward⟩ := steps.of_misses
        (misses_of_sheltered sensitive (sheltered_of_blank before blank)) rfl
      refine .bare areSeparators separator visible blank ?_
        (halts_of_rewrites sensitive onward halts)
      rwa [Halts, head?_of_rewrites sensitive onward halts]

/-- The match of a field is the same after a scan of the text behind it. -/
theorem fieldRule_hit_of_rewrites
    {matched : List Char}
    {replacement : List Char}
    {before' : Option Char}
    (sensitive : other ∈ sensitiveFields)
    (hit :
      fieldRule field before (matched ++ rest) = some ⟨replacement, matched.length⟩)
    (steps : (fieldRule other).Rewrites before' rest later) :
    fieldRule field before (matched ++ later) =
      some ⟨replacement, matched.length⟩ := by
  obtain ⟨boundary, name, separators, value, behind, isText, isName,
      valued, same⟩ :=
    fieldRule_sound hit
  obtain ⟨rfl, length⟩ := Replacement.mk.inj same
  have whole : matched ++ rest = name ++ (separators ++ value) ++ behind := by
    rw [isText]
    simp
  obtain ⟨rfl, rfl⟩ := List.append_inj whole length
  have accepted := fieldValue_of_valued (valued.of_rewrites sensitive steps)
  rw [List.append_assoc, List.append_assoc,
    fieldRule_of_name boundary isName accepted]
  simp

/-- A rule that misses a text misses its end. -/
theorem Rule.Misses.suffix
    {rule : Rule}
    {left right : List Char}
    (misses : rule.Misses before (left ++ right) rest) :
    rule.Misses (characterBefore before left) right rest := by
  intro front character back isRight
  have missed :=
    misses (left ++ front) character back (by rw [isRight, List.append_assoc])
  rwa [characterBefore_append] at missed

/--
Where a field has no place, it has none after a scan that keeps the characters
there.
-/
theorem Rule.Misses.of_rewrites
    {front : List Char}
    (sensitive : field ∈ sensitiveFields)
    (sensitive' : other ∈ sensitiveFields)
    (misses : (fieldRule field).Misses before front rest)
    (kept : (fieldRule other).Misses before front rest)
    (steps : (fieldRule other).Rewrites (characterBefore before front) rest later) :
    (fieldRule field).Misses before front later := by
  intro left character right isFront
  by_contra matched
  subst isFront
  rw [characterBefore_append] at steps
  have place := fieldAt_of_rewrites sensitive sensitive' (kept.suffix.keeps steps)
    (fieldRule_ne_none_iff.mp matched)
  exact fieldRule_ne_none_iff.mpr place (misses left character right rfl)

/-- A scan that begins at a match replaces it. -/
theorem Rule.Rewrites.of_hit
    {rule : Rule}
    {matched replacement : List Char}
    (steps : rule.Rewrites before text result)
    (isText : text = matched ++ rest)
    (nonempty : matched ≠ [])
    (hit : rule before (matched ++ rest) = some ⟨replacement, matched.length⟩) :
    ∃ later, result = replacement ++ later ∧
      rule.Rewrites (characterBefore before matched) rest later := by
  cases steps with
  | nil =>
      exact absurd (List.append_eq_nil_iff.mp isText.symm).1 nonempty
  | keep missed more =>
      rw [← isText, missed] at hit
      cases hit
  | @replace _ matched' rest' replacement' result hit' more =>
      rw [isText, hit] at hit'
      obtain ⟨rfl, length⟩ := Replacement.mk.inj (Option.some.inj hit')
      obtain ⟨rfl, rfl⟩ := List.append_inj isText length.symm
      exact ⟨result, rfl, more⟩

/-! ## All fields at once -/

/--
How pending fields change a text if none of them has a place inside the match of
another: each match is replaced, whatever order the fields are taken in.
-/
inductive Unfolds
    (pending : List String) :
    Option Char → List Char → List Char → Prop where
  | nil {before : Option Char} :
      Unfolds pending before [] []
  | keep {before : Option Char} {character : Char} {rest result : List Char}
      (free : ∀ field ∈ pending, fieldRule field before (character :: rest) = none)
      (more : Unfolds pending (some character) rest result) :
      Unfolds pending before (character :: rest) (character :: result)
  | replace {before : Option Char} {matched rest result : List Char}
        {field : String}
      (isPending : field ∈ pending)
      (hit : fieldRule field before (matched ++ rest) =
        some ⟨fieldReplacement field, matched.length⟩)
      (alone : ∀ other ∈ pending, other ≠ field →
        (fieldRule other).Misses before matched rest)
      (more : Unfolds pending (characterBefore before matched) rest result) :
      Unfolds pending before (matched ++ rest) (fieldReplacement field ++ result)

namespace Unfolds

variable {pending : List String}

/-- Only which fields are pending matters. -/
theorem of_mem_iff
    {pending' : List String}
    (unfolds : Unfolds pending before text result)
    (same : ∀ field, field ∈ pending' ↔ field ∈ pending) :
    Unfolds pending' before text result := by
  induction unfolds with
  | nil =>
      exact .nil
  | keep free _ inductionHypothesis =>
      exact .keep (fun field member => free field ((same field).mp member))
        inductionHypothesis
  | replace isPending hit alone _ inductionHypothesis =>
      exact .replace ((same _).mpr isPending) hit
        (fun other member => alone other ((same other).mp member))
          inductionHypothesis

/-- Without pending fields nothing unfolds. -/
theorem eq_of_nil
    (unfolds : Unfolds [] before text result) :
    result = text := by
  induction unfolds with
  | nil =>
      rfl
  | keep _ _ inductionHypothesis =>
      rw [inductionHypothesis]
  | replace isPending =>
      cases isPending

/-- Where a text halts, it does not matter what stands before it. -/
theorem behind
    {before' : Option Char}
    (sensitive : ∀ field ∈ pending, field ∈ sensitiveFields)
    (unfolds : Unfolds pending before text result)
    (halts : Halts isFieldValueCharacter text) :
    Unfolds pending before' text result := by
  cases unfolds with
  | nil =>
      exact .nil
  | keep free more =>
      refine .keep (fun field member => ?_) more
      by_contra matched
      exact not_fieldAt_of_halts (sensitive field member) halts
        (fieldRule_ne_none_iff.mp matched)
  | @replace _ matched rest result field isPending hit alone more =>
      have place : FieldAt field before (matched ++ rest) :=
        fieldRule_ne_none_iff.mp (by rw [hit]; simp)
      exact absurd place (not_fieldAt_of_halts (sensitive field isPending) halts)

/-- A stretch that every pending field misses is kept. -/
theorem keepAll
    {front : List Char}
    (free : ∀ field ∈ pending, (fieldRule field).Misses before front rest)
    (more : Unfolds pending (characterBefore before front) rest result) :
    Unfolds pending before (front ++ rest) (front ++ result) := by
  induction front generalizing before with
  | nil =>
      exact more
  | cons character front inductionHypothesis =>
      rw [characterBefore_cons] at more
      exact .keep (fun field member => (free field member).head)
        (inductionHypothesis (fun field member => (free field member).tail) more)

/--
The rule of a pending field does its part, and leaves the rest to the other fields.
-/
theorem after
    (sensitive : ∀ field ∈ pending, field ∈ sensitiveFields)
    (isPending : other ∈ pending)
    (unfolds : Unfolds pending before text result)
    (steps : (fieldRule other).Rewrites before text later) :
    Unfolds (pending.filter (· ≠ other)) before later result := by
  have remains :
      ∀ field ∈ pending.filter (· ≠ other), field ∈ pending ∧ field ≠ other := by
    simp
  have known : other ∈ sensitiveFields := sensitive other isPending
  -- the rule's own steps follow the pieces of the text, kept or replaced
  induction unfolds generalizing later with
  | nil =>
      obtain rfl := (rewrites_iff (proper_fieldRule other)).mp steps
      exact .nil
  | @keep before character rest result free more inductionHypothesis =>
      have kept :
          ∀ field ∈ pending, (fieldRule field).Misses before [character] rest :=
        fun field member => .cons (free field member) .nil
      obtain ⟨later, rfl, onward⟩ := steps.of_misses (kept other isPending) rfl
      refine .keep (fun field member => ?_) (inductionHypothesis onward)
      obtain ⟨member, -⟩ := remains field member
      exact ((kept field member).of_rewrites (sensitive field member) known
        (kept other isPending) onward).head
  | @replace before matched rest result field member hit alone more
        inductionHypothesis =>
      have isSensitive := sensitive field member
      obtain ⟨boundary, -, ⟨first, others, isMatched, -⟩, halts⟩ :=
        fieldRule_hit isSensitive hit
      by_cases same : field = other
      · subst same
        obtain ⟨later, rfl, onward⟩ := steps.of_hit rfl (by simp [isMatched]) hit
        refine keepAll (fun field' member' => ?_) ?_
        · obtain ⟨member', different⟩ := remains field' member'
          exact misses_replacement (sensitive field' member') known different
        · refine (inductionHypothesis onward).behind (fun field' member' => ?_)
            (halts_of_rewrites known onward halts)
          exact sensitive field' (remains field' member').1
      -- the piece is another field's, and the rule goes over it without a match
      · have kept := alone other isPending fun isField => same isField.symm
        obtain ⟨later, rfl, onward⟩ := steps.of_misses kept rfl
        refine .replace (by simp [member, same])
          (fieldRule_hit_of_rewrites known hit onward)
          (fun field' member' different => ?_) (inductionHypothesis onward)
        obtain ⟨member', -⟩ := remains field' member'
        exact (alone field' member' different).of_rewrites
          (sensitive field' member') known kept
          onward

/-- The rules of all pending fields in sequence do what they do at once. -/
theorem foldl_eq
    {fields : List String}
    (sensitive : ∀ field ∈ fields, field ∈ sensitiveFields)
    (distinct : fields.Nodup)
    (unfolds : Unfolds fields none text result) :
    fields.foldl (fun current field => (fieldRule field).apply current) text =
      result := by
  induction fields generalizing text with
  | nil =>
      exact unfolds.eq_of_nil.symm
  | cons field fields inductionHypothesis =>
      obtain ⟨different, distinct⟩ := List.nodup_cons.mp distinct
      have after := unfolds.after sensitive List.mem_cons_self
        (rewrites_apply (proper_fieldRule field) text)
      have later := (List.forall_mem_cons.mp sensitive).2
      refine inductionHypothesis later distinct (after.of_mem_iff fun other => ?_)
      simp only [List.mem_filter, List.mem_cons, decide_eq_true_eq]
      constructor
      · exact fun member => ⟨.inr member, fun same => different (same ▸ member)⟩
      · exact fun ⟨member, other⟩ => member.resolve_left other

end Unfolds

/-! ## Texts in which the fields do not meet -/

/-- What the rule of a field does at a position of a text. -/
def fieldMatch
    (field : String)
    (text : List Char)
    (position : Nat) :
    Option Replacement :=
  fieldRule field (text.take position).getLast? (text.drop position)

/-- Whether no field has a place inside the match of another. -/
def Unnested (text : List Char) : Prop :=
  ∀ field ∈ sensitiveFields, ∀ other ∈ sensitiveFields, other ≠ field →
    ∀ start < text.length, ∀ replacement ∈ fieldMatch field text start,
      ∀ offset < replacement.length, fieldMatch other text (start + offset) = none

instance : DecidablePred Unnested := fun text =>
  inferInstanceAs <| Decidable <|
    ∀ field ∈ sensitiveFields, ∀ other ∈ sensitiveFields, other ≠ field →
      ∀ start < text.length, ∀ replacement ∈ fieldMatch field text start,
        ∀ offset < replacement.length, fieldMatch other text (start + offset) = none

/-- A match inside a text is a match of the rule there. -/
theorem fieldMatch_append (field : String) (front back : List Char) :
    fieldMatch field (front ++ back) front.length =
      fieldRule field (characterBefore none front) back := by
  rw [fieldMatch, List.take_left, List.drop_left, characterBefore_none]

/-- In an unnested text no field is matched inside another's match. -/
theorem Unnested.misses
    {front matched replacement : List Char}
    (unnested : Unnested (front ++ (matched ++ rest)))
    (sensitive : field ∈ sensitiveFields)
    (sensitive' : other ∈ sensitiveFields)
    (different : other ≠ field)
    (hit : fieldRule field (characterBefore none front) (matched ++ rest) =
      some ⟨replacement, matched.length⟩) :
    (fieldRule other).Misses (characterBefore none front) matched rest := by
  rintro left character right rfl
  rw [← fieldMatch_append] at hit
  have inside : left.length < (left ++ character :: right).length := by
    simp
  have missed := unnested field sensitive other sensitive' different front.length
    (by simp only [List.length_append, List.length_cons]; omega) _ hit
      left.length inside
  have whole : front ++ (left ++ character :: right ++ rest) =
      front ++ left ++ (character :: right ++ rest) := by
    simp
  rwa [whole, ← List.length_append, fieldMatch_append, characterBefore_append]
    at missed

/-- An unnested text unfolds. -/
theorem Unnested.unfolds
    (unnested : Unnested text) :
    ∃ result, Unfolds sensitiveFields none text result := by
  have unfolds : ∀ front back, text = front ++ back →
      ∃ result, Unfolds sensitiveFields (characterBefore none front)
        back result := by
    intro front back
    -- on the length of what is left, since a replacement goes over a whole piece
    induction length :
      back.length using Nat.strongRecOn generalizing front back with
    | ind size inductionHypothesis =>
        intro isText
        cases back with
        | nil =>
            exact ⟨[], .nil⟩
        | cons character rest =>
            by_cases free : ∀ field ∈ sensitiveFields,
                fieldRule field (characterBefore none front) (character :: rest) =
                  none
            · obtain ⟨result, more⟩ :=
                inductionHypothesis rest.length (by simp [← length])
                (front ++ [character]) rest rfl (by simp [isText])
              rw [characterBefore_append] at more
              exact ⟨_, .keep free more⟩
            · push Not at free
              obtain ⟨field, sensitive, matches'⟩ := free
              obtain ⟨replacement, hit⟩ := Option.ne_none_iff_exists'.mp matches'
              obtain ⟨-, name, separators, value, later, isRest, -, valued, rfl⟩ :=
                fieldRule_sound hit
              have whole :
                  character :: rest = name ++ (separators ++ value) ++ later := by
                rw [isRest]
                simp
              rw [whole] at hit isText length ⊢
              have some : 0 < separators.length :=
                List.length_pos_iff.mpr valued.areSeparators.1
              obtain ⟨result, more⟩ := inductionHypothesis later.length
                (by simp only [List.length_append] at length; omega)
                (front ++ (name ++ (separators ++ value))) later rfl
                (by rw [isText, List.append_assoc front])
              rw [characterBefore_append] at more
              refine ⟨_, .replace sensitive hit
                (fun other sensitive' different => ?_) more⟩
              subst isText
              exact unnested.misses sensitive sensitive' different hit
  exact unfolds [] text rfl

/-- A message as it is when the rules of the fields are applied to it. -/
def withoutCredentials (message : List Char) : List Char :=
  accountRule.apply
    (credentials.foldl (fun current one => (removal one).apply current) message)

/--
Where no field has a place inside the match of another, once credentials and account
numbers are removed, redaction does not depend on the order that the fields are
taken in.
-/
theorem redaction_order_free
    {fields others : List String}
    (order : fields.Perm sensitiveFields)
    (order' : others.Perm sensitiveFields)
    (message : List Char)
    (unnested : Unnested (withoutCredentials message)) :
    redactCharacters fields message = redactCharacters others message := by
  obtain ⟨result, unfolds⟩ := unnested.unfolds
  have distinct : sensitiveFields.Nodup := by
    decide
  have redacted : ∀ {fields : List String}, fields.Perm sensitiveFields →
      redactCharacters fields message = result := by
    intro fields order
    exact (unfolds.of_mem_iff fun _ => order.mem_iff).foldl_eq
      (fun _ member => order.subset member) (order.nodup_iff.mpr distinct)
  rw [redacted order, redacted order']

/--
A message in which the value of one field is the name of another, and no place of
it.
-/
def namedMessage : List Char :=
  "secret=token, token: x".toList

theorem redaction_order_free_named :
    sensitiveFields.Perm sensitiveFields ∧
      sensitiveFields.reverse.Perm sensitiveFields ∧
      Unnested (withoutCredentials namedMessage) ∧
      redactCharacters sensitiveFields namedMessage =
        redactCharacters sensitiveFields.reverse namedMessage := by
  have unnested : Unnested (withoutCredentials namedMessage) := by
    decide +kernel
  exact ⟨.refl _, List.reverse_perm _, unnested,
    redaction_order_free (.refl _) (List.reverse_perm _) namedMessage unnested⟩

/-- A field in the value of another is redacted only if its rule comes first. -/
theorem redaction_not_always_order_free :
    ¬ ∀ (fields others : List String) (message : List Char),
      fields.Perm sensitiveFields → others.Perm sensitiveFields →
      redactCharacters fields message = redactCharacters others message := by
  intro orderFree
  have same :=
    orderFree sensitiveFields sensitiveFields.reverse nestedMessage (.refl _)
    (List.reverse_perm _)
  exact absurd same (by decide +kernel)

end PolicyReconciler.Redaction

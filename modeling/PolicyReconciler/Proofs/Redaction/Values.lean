import PolicyReconciler.Proofs.Redaction.Framed
import PolicyReconciler.Proofs.Redaction.Order

namespace PolicyReconciler.Redaction

/-!
# What redaction shows of a value

The value of a field is replaced by the rule of the field, unless the field is the
name of a credential and the value begins like one: then the rule of the credential
takes the name and the beginning of the value away, and shows the remainder.
-/

open Recogniser Rule

/-! ## Recognisers that stop before a character -/

namespace Recogniser

/--
Whether a recogniser never reads a character, so that it does not look behind it.
-/
structure Shuns (recogniser : Recogniser) (character : Char) : Prop where
  same : ∀ front rest, recogniser (front ++ character :: rest) = recogniser front
  within : ∀ {text length}, recogniser text = some length → length ≤ text.length

variable {character : Char}

/-- A word shuns the signs that it does not hold. -/
theorem shuns_wordOf
    {letters : List Char}
    (foreign : foldLetter character ∉ letters) :
    (wordOf letters).Shuns character where
  same := by
    intro front rest
    induction letters generalizing front with
    | nil =>
        rfl
    | cons letter letters inductionHypothesis =>
        obtain ⟨other, others⟩ := not_or.mp (mt List.mem_cons.mpr foreign)
        cases front with
        | nil =>
            simp [wordOf, other]
        | cons first front =>
            simp only [List.cons_append, wordOf, inductionHypothesis others]
  within := by
    intro text length accepted
    obtain ⟨word, rest, rfl, -, rfl⟩ := (reads_wordOf letters).sound accepted
    simp

theorem shuns_optional
    {accepts : Char → Bool}
    (foreign : accepts character = false) :
    (optional accepts).Shuns character where
  same := by
    intro front rest
    cases front with
    | nil =>
        simp [optional, foreign]
    | cons first front =>
        rfl
  within := by
    intro text length accepted
    obtain ⟨word, rest, rfl, -, rfl⟩ := (reads_optional accepts).sound accepted
    simp

theorem shuns_countOf
    {accepts : Char → Bool}
    (count : Nat)
    (foreign : accepts character = false) :
    (countOf accepts count).Shuns character where
  same := by
    intro front rest
    by_cases enough : count ≤ front.length
    · simp only [countOf, List.take_append_of_le_length enough]
    · have short : (front.take count).length ≠ count := by
        rw [List.length_take]
        omega
      have member : character ∈ (front ++ character :: rest).take count := by
        rw [List.take_append, List.take_of_length_le (by omega)]
        obtain ⟨further, isFurther⟩ :=
          Nat.exists_eq_add_of_lt (Nat.not_le.mp enough)
        rw [show count - front.length = further + 1 by omega]
        simp
      have refused :
          ¬ ((front ++ character :: rest).take count).all accepts = true := by
        intro accepted
        rw [List.all_eq_true.mp accepted character member] at foreign
        cases foreign
      simp only [countOf, short, refused, false_and, and_false, if_false,
        Bool.false_eq_true]
  within := by
    intro text length accepted
    obtain ⟨word, rest, rfl, -, rfl⟩ := (reads_countOf accepts count).sound accepted
    simp

/-- A class never takes a sign that it does not hold. -/
theorem takeWhile_before
    {accepts : Char → Bool}
    (foreign : accepts character = false)
    (front rest : List Char) :
    (front ++ character :: rest).takeWhile accepts = front.takeWhile accepts := by
  induction front with
  | nil =>
      simp [foreign]
  | cons first front inductionHypothesis =>
      simp only [List.cons_append, List.takeWhile_cons, inductionHypothesis]

theorem shuns_someOf
    {accepts : Char → Bool}
    (foreign : accepts character = false) :
    (someOf accepts).Shuns character where
  same := by
    intro front rest
    simp only [someOf, takeWhile_before foreign]
  within := by
    intro text length accepted
    obtain ⟨word, rest, rfl, -, rfl⟩ := (reads_someOf accepts).sound accepted
    simp

/-- Two recognisers that shun a sign shun it one after the other. -/
theorem Shuns.followedBy
    {first second : Recogniser}
    (shuns : first.Shuns character)
    (shunsLater : second.Shuns character) :
    (first.followedBy second).Shuns character where
  same := by
    intro front rest
    simp only [Recogniser.followedBy, shuns.same]
    cases found : first front with
    | none =>
        rfl
    | some taken =>
        simp only [List.drop_append_of_le_length (shuns.within found),
          shunsLater.same]
  within := by
    intro text length accepted
    unfold Recogniser.followedBy at accepted
    cases found : first text with
    | none =>
        simp [found] at accepted
    | some taken =>
        simp only [found, Option.map_eq_some_iff] at accepted
        obtain ⟨more, foundLater, rfl⟩ := accepted
        have inside := shuns.within found
        have further := shunsLater.within foundLater
        rw [List.length_drop] at further
        omega

/-- Recognisers that shun a sign shun it in sequence. -/
theorem shuns_inSequence
    {recognisers : List Recogniser}
    (shuns : ∀ recogniser ∈ recognisers, recogniser.Shuns character) :
    (inSequence recognisers).Shuns character := by
  induction recognisers with
  | nil =>
      exact ⟨fun _ _ => rfl, by rintro text _ ⟨⟩; exact Nat.zero_le _⟩
  | cons recogniser rest inductionHypothesis =>
      obtain ⟨first, later⟩ := List.forall_mem_cons.mp shuns
      exact first.followedBy (inductionHypothesis later)

/-- Recognisers can be grouped at will. -/
theorem followedBy_assoc (first second third : Recogniser) :
    (first.followedBy second).followedBy third =
      first.followedBy (second.followedBy third) := by
  funext text
  simp only [Recogniser.followedBy]
  cases first text with
  | none =>
      rfl
  | some taken =>
      cases found : second (text.drop taken) with
      | none =>
          simp [found]
      | some more =>
          simp only [found, Option.map_some, List.drop_drop, Option.map_map]
          congr 1
          funext further
          exact Nat.add_assoc ..

/-- A joined sequence is one sequence after the other. -/
theorem inSequence_append (front back : List Recogniser) :
    inSequence (front ++ back) =
      (inSequence front).followedBy (inSequence back) := by
  induction front with
  | nil =>
      funext text
      simp [inSequence, Recogniser.followedBy]
  | cons recogniser front inductionHypothesis =>
      rw [List.cons_append, inSequence, inductionHypothesis, inSequence,
        followedBy_assoc]

end Recogniser

/-! ## Credentials as a name and a value -/

/-- The words of a name, with joiners between them or without. -/
def joinedWords : List (List Char) → List Recogniser
  | [] => []
  | [word] => [wordOf word]
  | word :: next :: rest =>
      wordOf word :: optional isJoiner :: joinedWords (next :: rest)

/--
A credential: the field that is named like it, the words of its name, and its value.
-/
structure Credential where
  field : String
  words : List (List Char)
  value : Recogniser

/-- The recogniser of a credential's name. -/
def Credential.name (credential : Credential) : Recogniser :=
  inSequence (joinedWords credential.words)

/-- The recogniser of a credential: its name, a separator and its value. -/
def Credential.recogniser (credential : Credential) : Recogniser :=
  inSequence (joinedWords credential.words ++
    [someOf isSeparator, credential.value])

/-- The three credentials that the service hands out. -/
def usualCredentials : List Credential :=
  [{ field := "access_key_id"
     words := ["access".toList, "key".toList, "id".toList]
     value := countOf isKeyCharacter 20 },
   { field := "secret_access_key"
     words := ["secret".toList, "access".toList, "key".toList]
     value := countOf isSecretCharacter 40 },
   { field := "session_token"
     words := ["session".toList, "token".toList]
     value := someOf isSecretCharacter }]

/-- The three credentials in their usual form. -/
theorem credentials_eq : credentials = usualCredentials.map Credential.recogniser :=
  rfl

/-- How many characters the rule of a credential takes from the value of a field. -/
def secretLength
    (listed : List Credential)
    (field : String)
    (value : List Char) :
    Option Nat :=
  listed.findSome? fun credential =>
    if credential.field = field then credential.value value else none

/-- A field with its value, as messages state it. -/
def stated (field : String) (value : List Char) : List Char :=
  field.toList ++ ([':', ' '] ++ value)

/-- What the rules of credentials leave of a stated field. -/
def exposed
    (listed : List Credential)
    (field : String)
    (value : List Char) :
    List Char :=
  match secretLength listed field value with
  | some length => redactedMark ++ value.drop length
  | none => stated field value

/-- What redaction leaves of a stated field. -/
def shown (field : String) (value : List Char) : List Char :=
  match secretLength usualCredentials field value with
  | some length => redactedMark ++ value.drop length
  | none => fieldReplacement field

/-- Whether a text holds no separator, so that no field has a place in it. -/
def Unbroken (text : List Char) : Prop :=
  ∀ character ∈ text, isFieldSeparator character = false

variable {credential : Credential}
variable {before : Option Char}
variable {front middle back rest text value : List Char}
variable {field : String}

/-- Joined words shun the signs that none of them holds. -/
theorem shuns_joinedWords
    {character : Char}
    {words : List (List Char)}
    (foreign : ∀ word ∈ words, foldLetter character ∉ word)
    (noJoiner : isJoiner character = false) :
    ∀ recogniser ∈ joinedWords words, recogniser.Shuns character := by
  induction words using joinedWords.induct with
  | case1 =>
      simp [joinedWords]
  | case2 word =>
      simpa [joinedWords] using Recogniser.shuns_wordOf (foreign word (by simp))
  | case3 word next rest inductionHypothesis =>
      obtain ⟨first, later⟩ := List.forall_mem_cons.mp foreign
      simp only [joinedWords, List.forall_mem_cons]
      exact ⟨Recogniser.shuns_wordOf first, Recogniser.shuns_optional noJoiner,
        inductionHypothesis later⟩

/-- The names of credentials end before a colon and before a closing sign. -/
theorem shuns_name
    {character : Char}
    (usual : credential ∈ usualCredentials)
    (foreign : character ∈ ':' :: closingSigns) :
    credential.name.Shuns character := by
  have letters : ∀ credential ∈ usualCredentials, ∀ character ∈ ':' :: closingSigns,
      (∀ word ∈ credential.words, foldLetter character ∉ word) ∧
        isJoiner character = false := by
    decide
  obtain ⟨other, noJoiner⟩ := letters credential usual character foreign
  exact Recogniser.shuns_inSequence (shuns_joinedWords other noJoiner)

/-- The values of credentials end before a closing sign. -/
theorem shuns_value
    {character : Char}
    (usual : credential ∈ usualCredentials)
    (foreign : character ∈ closingSigns) :
    credential.value.Shuns character := by
  have others : ∀ character ∈ closingSigns,
      isKeyCharacter character = false ∧ isSecretCharacter character = false := by
    decide
  obtain ⟨noKey, noSecret⟩ := others character foreign
  have values :
      ∀ credential ∈ usualCredentials, credential.value.Shuns character := by
    simp only [usualCredentials, List.forall_mem_cons]
    exact ⟨Recogniser.shuns_countOf 20 noKey, Recogniser.shuns_countOf 40 noSecret,
      Recogniser.shuns_someOf noSecret, by simp⟩
  exact values credential usual

/-- A recogniser that shuns the closing signs does not look beyond them. -/
theorem Recogniser.Shuns.closed
    {recogniser : Recogniser}
    (shuns : ∀ character ∈ closingSigns, recogniser.Shuns character)
    (closed : Closed back)
    (front : List Char) :
    recogniser (front ++ back) = recogniser front := by
  cases back with
  | nil =>
      rw [List.append_nil]
  | cons character rest =>
      exact (shuns character (closed character rfl)).same front rest

/-- A credential is its name, a separator and its value. -/
theorem Credential.recogniser_eq (credential : Credential) :
    credential.recogniser =
      credential.name.followedBy
        ((someOf isSeparator).followedBy credential.value) := by
  rw [recogniser, Recogniser.inSequence_append, inSequence,
    Recogniser.inSequence_singleton]
  rfl

theorem Unbroken.drop
    (unbroken : Unbroken text)
    (length : Nat) :
    Unbroken (text.drop length) :=
  fun character member => unbroken character (List.mem_of_mem_drop member)

/-- An unbroken text has no separator. -/
theorem halts_isSeparator
    (unbroken : Unbroken middle)
    (closed : Closed back) :
    Halts isSeparator (middle ++ back) := by
  intro character isHead
  refine isSeparator_of_isFieldSeparator ?_
  cases middle with
  | nil =>
      exact (closing_sign character (closed character isHead)).1
  | cons first middle =>
      cases isHead
      exact unbroken _ List.mem_cons_self

theorem someOf_eq_none
    {accepts : Char → Bool}
    (halts : Halts accepts text) :
    someOf accepts text = none := by
  have nothing : ([] ++ text).takeWhile accepts = [] :=
    takeWhile_append_of_halts (by simp) halts
  rw [List.nil_append] at nothing
  simp [someOf, nothing]

/-- Without separators there is no credential. -/
theorem recogniser_unbroken
    (usual : credential ∈ usualCredentials)
    (unbroken : Unbroken middle)
    (closed : Closed back) :
    credential.recogniser (middle ++ back) = none := by
  have named : credential.name (middle ++ back) = credential.name middle :=
    Recogniser.Shuns.closed
      (fun character member =>
        shuns_name usual (List.mem_cons_of_mem ':' member)) closed middle
  have shuns : credential.name.Shuns ':' := shuns_name usual List.mem_cons_self
  rw [Credential.recogniser_eq, Recogniser.followedBy, named]
  cases found : credential.name middle with
  | none =>
      rfl
  | some taken =>
      have apart : Halts isSeparator (middle.drop taken ++ back) :=
        halts_isSeparator (unbroken.drop taken) closed
      simp only [List.drop_append_of_le_length (shuns.within found),
        Recogniser.followedBy, someOf_eq_none apart, Option.map_none]

/--
In the name of a field, the name of a credential is found only if both are the same.
-/
theorem name_of_field
    {position taken : Nat}
    (usual : credential ∈ usualCredentials)
    (sensitive : field ∈ sensitiveFields)
    (inside : position < field.toList.length)
    (found : credential.name (field.toList.drop position) = some taken) :
    position = 0 ∧ field = credential.field := by
  have listed : ∀ credential ∈ usualCredentials, ∀ field ∈ sensitiveFields,
      ∀ position < field.toList.length,
        credential.name (field.toList.drop position) ≠ none →
          position = 0 ∧ field = credential.field := by
    decide
  exact listed credential usual field sensitive position inside (by simp [found])

/-- A field's name is the name of its credential. -/
theorem name_of_own_field
    (usual : credential ∈ usualCredentials) :
    credential.name credential.field.toList =
      some credential.field.toList.length := by
  have listed : ∀ credential ∈ usualCredentials,
      credential.name credential.field.toList =
        some credential.field.toList.length := by
    decide
  exact listed credential usual

/--
A stated field is a credential if its value begins with the value of the credential.
-/
theorem recogniser_stated
    (usual : credential ∈ usualCredentials)
    (unbroken : Unbroken value)
    (closed : Closed back) :
    credential.recogniser (stated credential.field value ++ back) =
      (credential.value value).map fun length =>
        (credential.field.toList ++ [':', ' ']).length + length := by
  have named : credential.name (stated credential.field value ++ back) =
      some credential.field.toList.length := by
    have shuns : credential.name.Shuns ':' := shuns_name usual List.mem_cons_self
    simpa [stated, name_of_own_field usual] using
      shuns.same credential.field.toList (' ' :: value ++ back)
  have separated : someOf isSeparator ([':', ' '] ++ (value ++ back)) = some 2 :=
    (Recogniser.reads_someOf isSeparator).exact ⟨by simp, by decide⟩
      (halts_isSeparator unbroken closed)
  have valued : credential.value (value ++ back) = credential.value value :=
    Recogniser.Shuns.closed (fun _ => shuns_value usual) closed value
  rw [Credential.recogniser_eq, Recogniser.followedBy, named]
  have behind :
      (stated credential.field value ++ back).drop credential.field.toList.length =
      [':', ' '] ++ (value ++ back) := by
    rw [stated, List.append_assoc, List.drop_left, List.append_assoc]
  have further : ([':', ' '] ++ (value ++ back)).drop 2 = value ++ back :=
    rfl
  simp only [behind, Recogniser.followedBy, separated, further,
    valued, Option.map_map]
  congr 1
  funext length
  simp [Nat.add_assoc]

/-! ## The rules of credentials on a stated field -/

/-- The removal of a credential never takes an empty text. -/
theorem proper_credential
    (usual : credential ∈ usualCredentials) :
    (removal credential.recogniser).Proper := by
  have listed : credential.recogniser ∈ credentials := List.mem_map_of_mem usual
  obtain ⟨words, recognises⟩ := exists_words listed
  exact proper_removal recognises

/-- The removal of a credential starts at a telling word. -/
theorem telling_credential
    (usual : credential ∈ usualCredentials) :
    Telling (removal credential.recogniser) := by
  have named : ∀ credential ∈ usualCredentials,
      ∃ letters ∈ tellingWords, credential.words.head? = some letters := by
    decide
  obtain ⟨letters, telling, isHead⟩ := named credential usual
  obtain ⟨more, isWords⟩ := List.head?_eq_some_iff.mp isHead
  intro before text matched
  have read : wordOf letters text ≠ none := by
    intro missed
    have unread : credential.recogniser text = none := by
      rw [Credential.recogniser, isWords]
      cases more <;> simp [joinedWords, inSequence, Recogniser.followedBy, missed]
    exact matched (by rw [removal, unread]; rfl)
  obtain ⟨length, found⟩ := Option.ne_none_iff_exists'.mp read
  obtain ⟨word, rest, rfl, isWord, -⟩ :=
    (Recogniser.reads_wordOf letters).sound found
  exact ⟨letters, telling, word, isWord, List.prefix_append word rest⟩

/-- No credential lies in an unbroken text. -/
theorem misses_unbroken
    (usual : credential ∈ usualCredentials)
    (unbroken : Unbroken middle)
    (closed : Closed back) :
    (removal credential.recogniser).Misses before middle back := by
  rintro left character right rfl
  rw [removal, recogniser_unbroken usual
    (fun other member => unbroken other ?_) closed]
  · rfl
  · exact List.mem_append_right left member

/-- No credential starts inside a field's name, but where its own name does. -/
theorem recogniser_in_name
    {position : Nat}
    (usual : credential ∈ usualCredentials)
    (sensitive : field ∈ sensitiveFields)
    (inside : position < field.toList.length)
    (other : ¬ (position = 0 ∧ field = credential.field))
    (rest : List Char) :
    credential.recogniser (field.toList.drop position ++ ':' :: rest) = none := by
  have shuns : credential.name.Shuns ':' := shuns_name usual List.mem_cons_self
  rw [Credential.recogniser_eq, Recogniser.followedBy, shuns.same]
  cases found : credential.name (field.toList.drop position) with
  | none =>
      rfl
  | some taken =>
      exact absurd (name_of_field usual sensitive inside found) other

/--
A credential is not in a stated field, unless it is the field, with its value.
-/
theorem misses_stated
    (usual : credential ∈ usualCredentials)
    (sensitive : field ∈ sensitiveFields)
    (unbroken : Unbroken value)
    (closed : Closed back)
    (missed : field = credential.field → credential.value value = none) :
    (removal credential.recogniser).Misses before (stated field value) back := by
  refine .append ?_ (.append ?_ (misses_unbroken usual unbroken closed))
  · intro left character right isField
    by_cases own : left.length = 0 ∧ field = credential.field
    · obtain ⟨isEmpty, rfl⟩ := own
      rw [List.length_eq_zero_iff.mp isEmpty, List.nil_append] at isField
      have whole := recogniser_stated usual unbroken closed
      rw [missed rfl, stated, isField, List.append_assoc] at whole
      rw [removal, whole]
      rfl
    · have isDrop : character :: right = field.toList.drop left.length := by
        rw [isField, List.drop_left]
      have inside : left.length < field.toList.length := by
        simp [isField]
      have none :=
        recogniser_in_name usual sensitive inside own (' ' :: value ++ back)
      rw [← isDrop] at none
      rw [removal]
      simp only [List.cons_append, List.nil_append] at none ⊢
      rw [none]
      rfl
  · have telling := telling_credential usual
    have noWord := isWordCharacter_of_mem_replacement
    exact .cons (telling.eq_none (noWord ':' (by decide)))
      (.cons (telling.eq_none (noWord ' ' (by decide))) .nil)

/--
The rule of a credential takes a stated field and the beginning of its value away.
-/
theorem hit_stated
    {length : Nat}
    (usual : credential ∈ usualCredentials)
    (unbroken : Unbroken value)
    (closed : Closed back)
    (valued : credential.value value = some length) :
    removal credential.recogniser before
        (stated credential.field (value.take length) ++
          (value.drop length ++ back)) =
      some ⟨redactedMark,
        (stated credential.field (value.take length)).length⟩ := by
  have within : length ≤ value.length :=
    (shuns_value usual List.mem_cons_self).within valued
  have whole :
      stated credential.field (value.take length) ++ (value.drop length ++ back) =
      stated credential.field value ++ back := by
    simp only [stated, List.append_assoc]
    rw [← List.append_assoc (value.take length), List.take_append_drop]
  have isLength : (stated credential.field (value.take length)).length =
      (credential.field.toList ++ [':', ' ']).length + length := by
    simp only [stated, List.length_append, List.length_take_of_le within]
    omega
  rw [removal, whole, recogniser_stated usual unbroken closed, valued, isLength]
  rfl

/-- What a removal leaves of an unbroken value is unbroken. -/
theorem unbroken_remainder
    (unbroken : Unbroken value)
    (length : Nat) :
    Unbroken (redactedMark ++ value.drop length) := by
  have mark : Unbroken redactedMark := by
    unfold Unbroken
    decide
  exact List.forall_mem_append.mpr ⟨mark, unbroken.drop length⟩

/--
The rules of credentials do not act between a quiet front and back without
separators.
-/
theorem removals_unbroken
    (listed : List Credential)
    (usual : ∀ credential ∈ listed, credential ∈ usualCredentials)
    (frame : Frame front back)
    (unbroken : Unbroken middle) :
    (listed.map Credential.recogniser).foldl
      (fun current one => (removal one).apply current)
        (front ++ (middle ++ back)) =
      front ++ (middle ++ back) := by
  induction listed with
  | nil =>
      rfl
  | cons credential listed inductionHypothesis =>
      obtain ⟨first, later⟩ := List.forall_mem_cons.mp usual
      have same :=
        (telling_credential first).apply_framed_eq (proper_credential first) frame
        (misses_unbroken first unbroken frame.closed)
      rw [List.map_cons, List.foldl_cons, same]
      exact inductionHypothesis later

/--
The rules of credentials act on a stated field as one of them does, or not at all.
-/
theorem removals_stated
    (listed : List Credential)
    (usual : ∀ credential ∈ listed, credential ∈ usualCredentials)
    (sensitive : field ∈ sensitiveFields)
    (frame : Frame front back)
    (unbroken : Unbroken value) :
    (listed.map Credential.recogniser).foldl
      (fun current one => (removal one).apply current)
        (front ++ (stated field value ++ back)) =
      front ++ (exposed listed field value ++ back) := by
  induction listed with
  | nil =>
      rfl
  | cons credential listed inductionHypothesis =>
      obtain ⟨first, later⟩ := List.forall_mem_cons.mp usual
      rw [List.map_cons, List.foldl_cons]
      have telling := telling_credential first
      have proper := proper_credential first
      by_cases missed : field = credential.field → credential.value value = none
      · have same := telling.apply_framed_eq proper frame
          (misses_stated first sensitive unbroken frame.closed missed)
        have skipped :
            (if credential.field = field then credential.value value else none) =
              none := by
          split
          · rename_i own
            exact missed own.symm
          · rfl
        rw [same, inductionHypothesis later, exposed, exposed,
          secretLength, secretLength, List.findSome?_cons, skipped]
      · push Not at missed
        obtain ⟨rfl, taken⟩ := missed
        obtain ⟨length, valued⟩ := Option.ne_none_iff_exists'.mp taken
        have shortened : (removal credential.recogniser).apply
            (front ++ (stated credential.field value ++ back)) =
              front ++ (redactedMark ++ value.drop length ++ back) := by
          refine telling.apply_framed proper frame fun behind => ?_
          have split : stated credential.field value =
              stated credential.field (value.take length) ++ value.drop length := by
            simp [stated]
          rw [split, List.append_assoc, List.append_assoc]
          rw [split, characterBefore_append] at behind
          exact .replace (hit_stated first unbroken frame.closed valued)
            ((misses_unbroken first (unbroken.drop length) frame.closed).keeps
              behind)
        rw [shortened, removals_unbroken listed later frame
          (unbroken_remainder unbroken length)]
        simp [exposed, secretLength, valued]

/-! ## The rules of fields on a stated field -/

/-- No field lies in an unbroken text. -/
theorem field_misses_unbroken
    (sensitive : field ∈ sensitiveFields)
    (unbroken : Unbroken middle)
    (closed : Closed back) :
    (fieldRule field).Misses before middle back := by
  rintro left character right rfl
  by_contra matched
  obtain ⟨-, name, separators, value, rest, same, isName, areSeparators, -⟩ :=
    fieldRule_ne_none_iff.mp matched
  obtain ⟨separator, more, rfl⟩ := List.exists_cons_of_ne_nil areSeparators.1
  have separates := areSeparators.2 separator List.mem_cons_self
  -- The first separator stands in the text, which has none, or behind it, and then
  -- the name goes over the closing sign, or the separator is that sign.
  rcases split_around same.symm with ⟨inner, rfl, isBack⟩ | ⟨inner, isText, -⟩
  · cases inner with
    | nil =>
        obtain ⟨noSeparator, -⟩ :=
          closing_sign separator (closed separator (by rw [isBack]; rfl))
        rw [noSeparator] at separates
        cases separates
    | cons letter inner =>
        obtain ⟨-, -, -, noLetter⟩ :=
          closing_sign letter (closed letter (by rw [isBack]; rfl))
        exact noLetter (foldLetter_mem_of_name sensitive isName letter (by simp))
  · have inside : separator ∈ left ++ character :: right := by
      rw [isText]
      simp
    rw [unbroken separator inside] at separates
    cases separates

/--
A text that can be the value of a field: no blank, no separator and no closing sign
in it.
-/
structure Compact (value : List Char) : Prop where
  nonempty : value ≠ []
  accepted : ∀ character ∈ value, isFieldValueCharacter character = true
  unbroken : Unbroken value

/-- A stated field has its value. -/
theorem valued_stated
    (compact : Compact value)
    (closed : Closed back) :
    Valued [':', ' '] value back := by
  refine .plain separators_of_replacement ⟨compact.nonempty, compact.accepted⟩ ?_ ?_
  · exact fun character isHead =>
      compact.unbroken character (List.mem_of_mem_head? isHead)
  · exact fun character isHead =>
      (closing_sign character (closed character isHead)).2.1

/-- A stated field is redacted with its whole value. -/
theorem fieldRule_stated
    (sensitive : field ∈ sensitiveFields)
    (boundary : before.any Text.isWordCharacter = false)
    (compact : Compact value)
    (closed : Closed back) :
    fieldRule field before (stated field value ++ back) =
      some ⟨fieldReplacement field, (stated field value).length⟩ := by
  have accepted := fieldValue_of_valued (valued_stated compact closed)
  have hit := fieldRule_of_name boundary (name_self sensitive) accepted
  simp only [stated, List.append_assoc, List.length_append] at hit ⊢
  exact hit

/-- No other field lies in a stated one. -/
theorem field_misses_stated
    {other : String}
    (sensitive : field ∈ sensitiveFields)
    (sensitive' : other ∈ sensitiveFields)
    (different : other ≠ field)
    (boundary : before.any Text.isWordCharacter = false)
    (compact : Compact value)
    (closed : Closed back) :
    (fieldRule other).Misses before (stated field value) back := by
  have place : FieldAt field before (stated field value ++ back) :=
    fieldRule_ne_none_iff.mp
      (by rw [fieldRule_stated sensitive boundary compact closed]; simp)
  obtain ⟨first, more, isName, -, -⟩ :=
    exists_cons_of_name sensitive (name_self sensitive)
  have split : stated field value = first :: (more ++ [':', ' '] ++ value) := by
    simp [stated, isName]
  have named := foldLetter_mem_of_name sensitive (name_self sensitive)
  rw [isName] at named
  have sheltered := sheltered_of_name named separators_of_replacement.2
  rw [split] at place ⊢
  refine .cons ?_ (.append (misses_of_sheltered sensitive' sheltered)
    (field_misses_unbroken sensitive' compact.unbroken closed))
  by_contra matched
  exact different
    ((fieldRule_ne_none_iff.mp matched).field_eq sensitive' sensitive place)

/-- Fields are replaced between a quiet front and a quiet back only. -/
theorem unfolds_framed
    {replaced : List Char}
    (frame : Frame front back)
    (between : (∀ before, Unfolds sensitiveFields before back back) →
      Unfolds sensitiveFields (characterBefore none front) (middle ++ back)
        (replaced ++ back)) :
    Unfolds sensitiveFields none (front ++ (middle ++ back))
      (front ++ (replaced ++ back)) := by
  have behind : ∀ before, Unfolds sensitiveFields before back back := by
    intro before
    have kept : Unfolds sensitiveFields before (back ++ []) (back ++ []) :=
      .keepAll (fun _ sensitive =>
        (telling_fieldRule sensitive).misses_back frame.quietBack) .nil
    rwa [List.append_nil] at kept
  exact .keepAll (fun _ sensitive =>
    (telling_fieldRule sensitive).misses_front frame.quietFront frame.boundary)
      (between behind)

/-- A framed field unfolds to what is shown of it. -/
theorem unfolds_exposed
    (sensitive : field ∈ sensitiveFields)
    (frame : Frame front back)
    (compact : Compact value) :
    Unfolds sensitiveFields none
      (front ++ (exposed usualCredentials field value ++ back))
      (front ++ (shown field value ++ back)) := by
  have boundary :
      (characterBefore none front).any Text.isWordCharacter = false := by
    rw [characterBefore_none]
    exact frame.boundary
  refine unfolds_framed frame fun behind => ?_
  unfold exposed shown
  cases secretLength usualCredentials field value with
  | none =>
      refine .replace sensitive
        (fieldRule_stated sensitive boundary compact frame.closed) ?_
        (behind _)
      exact fun other sensitive' different =>
        field_misses_stated sensitive sensitive' different boundary
          compact frame.closed
  | some length =>
      refine .keepAll (fun other sensitive' => ?_) (behind _)
      exact field_misses_unbroken sensitive'
        (unbroken_remainder compact.unbroken length)
        frame.closed

/-! ## What redaction shows -/

theorem count_colon_of_unbroken
    (unbroken : Unbroken text) :
    text.count ':' = 0 := by
  refine List.count_eq_zero.mpr fun member => ?_
  have separates : isFieldSeparator ':' = true := by
    decide
  rw [unbroken ':' member] at separates
  cases separates

/-- The rule for account numbers leaves a stated field as it is. -/
theorem account_exposed
    (sensitive : field ∈ sensitiveFields)
    (frame : Frame front back)
    (compact : Compact value) :
    accountRule.apply (front ++ (exposed usualCredentials field value ++ back)) =
      accountRule.apply front ++
        (exposed usualCredentials field value ++ accountRule.apply back) := by
  unfold exposed
  cases secretLength usualCredentials field value with
  | none =>
      have noColon : field.toList.count ':' = 0 :=
        count_colon_of_unbroken fun character member => by
          have letter := mem_nameLetters_of_sensitive sensitive member
          exact isFieldSeparator_of_foldLetter_mem
            (by rwa [foldLetter_of_mem_nameLetters letter])
      refine account_framed frame ?_ ?_
      · simp [stated, List.count_append, noColon,
          count_colon_of_unbroken compact.unbroken]
      · rw [stated, List.append_assoc, List.append_assoc]
        exact unreached_name sensitive _
  | some length =>
      refine account_framed frame ?_ ?_
      · rw [count_colon_of_unbroken (unbroken_remainder compact.unbroken length)]
        decide
      · rw [List.append_assoc]
        exact unreached_mark _

/--
Between a quiet front and back, redaction shows of a stated field what is left to
show.
-/
theorem redact_stated
    {fields : List String}
    (order : fields.Perm sensitiveFields)
    (sensitive : field ∈ sensitiveFields)
    (frame : Frame front back)
    (compact : Compact value) :
    redactCharacters fields (front ++ (stated field value ++ back)) =
      accountRule.apply front ++ (shown field value ++ accountRule.apply back) := by
  have distinct : sensitiveFields.Nodup := by
    decide
  have removed :=
    removals_stated usualCredentials (fun _ usual => usual) sensitive frame
    compact.unbroken
  rw [← credentials_eq] at removed
  simp only [redactCharacters, removed, account_exposed sensitive frame compact]
  exact ((unfolds_exposed sensitive frame.account compact).of_mem_iff fun _ =>
    order.mem_iff).foldl_eq (fun _ member =>
      order.subset member) (order.nodup_iff.mpr distinct)

/--
The value of a field that is not the name of a credential is replaced as a whole.
-/
theorem shown_of_not_credential
    (other : field ∉ usualCredentials.map Credential.field)
    (value : List Char) :
    shown field value = fieldReplacement field := by
  have nothing : secretLength usualCredentials field value = none := by
    refine List.findSome?_eq_none_iff.mpr fun credential usual => if_neg fun same =>
      other ?_
    exact same ▸ List.mem_map_of_mem usual
  rw [shown, nothing]

/--
Of a field that is not the name of a credential, redaction shows nothing of the
value.
-/
theorem redaction_hides_of_not_credential
    {fields : List String}
    {value' : List Char}
    (order : fields.Perm sensitiveFields)
    (sensitive : field ∈ sensitiveFields)
    (other : field ∉ usualCredentials.map Credential.field)
    (frame : Frame front back)
    (compact : Compact value)
    (compact' : Compact value') :
    redactCharacters fields (front ++ (stated field value ++ back)) =
      redactCharacters fields (front ++ (stated field value' ++ back)) := by
  rw [redact_stated order sensitive frame compact,
    redact_stated order sensitive frame compact', shown_of_not_credential other,
    shown_of_not_credential other]

/--
Redaction tells two values of a field apart if and only if it shows different
remainders of them: the mark and the characters behind a credential, or the
replacement of the whole.
-/
theorem redaction_hides_iff
    {fields : List String}
    {value' : List Char}
    (order : fields.Perm sensitiveFields)
    (sensitive : field ∈ sensitiveFields)
    (frame : Frame front back)
    (compact : Compact value)
    (compact' : Compact value') :
    redactCharacters fields (front ++ (stated field value ++ back)) =
        redactCharacters fields (front ++ (stated field value' ++ back)) ↔
      shown field value = shown field value' := by
  rw [redact_stated order sensitive frame compact,
    redact_stated order sensitive frame compact', List.append_cancel_left_eq,
    List.append_cancel_right_eq]

theorem redaction_hides_iff_remainder :
    sensitiveFields.reverse.Perm sensitiveFields ∧
      "session_token" ∈ sensitiveFields ∧
      Frame "denied (".toList "); retry".toList ∧
      Compact "abc-def".toList ∧ Compact "x-def".toList ∧
      redactCharacters sensitiveFields.reverse
          ("denied (".toList ++
            (stated "session_token" "abc-def".toList ++ "); retry".toList)) =
        redactCharacters sensitiveFields.reverse
          ("denied (".toList ++
            (stated "session_token" "x-def".toList ++ "); retry".toList)) := by
  have frame : Frame "denied (".toList "); retry".toList :=
    ⟨quiet_iff.mpr (by decide +kernel), by decide +kernel,
      quiet_iff.mpr (by decide +kernel), by rintro _ ⟨⟩; decide⟩
  have compact : Compact "abc-def".toList :=
    ⟨by decide, by decide, by unfold Unbroken; decide⟩
  have compact' : Compact "x-def".toList :=
    ⟨by decide, by decide, by unfold Unbroken; decide⟩
  exact ⟨List.reverse_perm _, by decide, frame, compact, compact',
    (redaction_hides_iff (List.reverse_perm _) (by decide) frame
      compact compact').mpr
      (by decide +kernel)⟩

/--
The rule of a session token stops at a hyphen, and what follows the hyphen is shown.
-/
theorem redaction_not_always_hides :
    ¬ ∀ (field : String) (front back value value' : List Char),
      field ∈ sensitiveFields → Frame front back → Compact value → Compact value' →
      redactCharacters sensitiveFields (front ++ (stated field value ++ back)) =
        redactCharacters sensitiveFields
          (front ++ (stated field value' ++ back)) := by
  intro hides
  have same := hides "session_token" [] [] "abc".toList "abc-def".toList (by decide)
    ⟨quiet_iff.mpr (by decide), rfl, quiet_iff.mpr (by decide), by simp [Closed]⟩
    ⟨by decide, by decide, by unfold Unbroken; decide⟩
    ⟨by decide, by decide, by unfold Unbroken; decide⟩
  exact absurd same (by decide +kernel)

end PolicyReconciler.Redaction

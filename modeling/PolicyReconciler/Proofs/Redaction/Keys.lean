import PolicyReconciler.Proofs.Text.Lowercase
import PolicyReconciler.Redaction.Members

namespace PolicyReconciler

/-!
# Places in redacted objects

Nested objects lead to a place along the keys above it.  If none of these keys is
sensitive, redaction keeps the place, and the key of the place alone decides whether
the mark stands there afterwards.

A key is looked for in lower case, and the extra names are looked for as they are
given.  So an extra name makes its own key sensitive if and only if it is in lower
case itself.
-/

namespace Json

/-- What stands at the end of a path of keys through nested objects. -/
def at? : Json → List String → Option Json
  | value, [] => some value
  | .obj members, key :: path => (Members.find? members key).bind fun value =>
      value.at? path
  | _, _ :: _ => none

/-- A joined path leads on from where its first part led. -/
theorem at?_append (value : Json) (path onward : List String) :
    value.at? (path ++ onward) = (value.at? path).bind fun inner =>
      inner.at? onward := by
  induction path generalizing value with
  | nil =>
      cases value <;> rfl
  | cons key path inductionHypothesis =>
      cases value with
      | obj members =>
          cases found : Members.find? members key with
          | none =>
              simp only [List.cons_append, at?, found, Option.bind_none]
          | some inner =>
              simp only [List.cons_append, at?, found, Option.bind_some,
                inductionHypothesis]
      | null | bool | int | float | str | arr =>
          rfl

/-- The last step of a path leads out of an object. -/
theorem at?_concat_inv
    {value inner : Json}
    {path : List String}
    {key : String}
    (placed : value.at? (path ++ [key]) = some inner) :
    ∃ members, value.at? path = some (.obj members) ∧
      Members.find? members key = some inner := by
  rw [at?_append, Option.bind_eq_some_iff] at placed
  obtain ⟨outer, reached, last⟩ := placed
  cases outer with
  | obj members =>
      obtain ⟨value, found, isInner⟩ := Option.bind_eq_some_iff.mp last
      cases value <;> exact ⟨members, reached, isInner ▸ found⟩
  | null | bool | int | float | str | arr =>
      cases last

end Json

namespace Redaction

variable {order : FieldOrder}
variable {names : List String}

/-- The mark as a value. -/
def mark : Json := .str (String.ofList redactedMark)

/-- What redaction leaves of a member. -/
def leftUnder
    (order : FieldOrder)
    (names : List String)
    (key : String)
    (value : Json) :
    Json :=
  if isSensitiveKey names key then mark else redactValue order names value

/-- What is left under a key of redacted members. -/
theorem find?_redactMembersWith (members : Members) (key : String) :
    Members.find? (redactMembersWith order names members) key =
      (Members.find? members key).map (leftUnder order names key) := by
  induction members with
  | nil =>
      rfl
  | cons member rest inductionHypothesis =>
      obtain ⟨first, value⟩ := member
      simp only [redactMembersWith, Members.find?, inductionHypothesis]
      split
      · rename_i same
        subst same
        rfl
      · rfl

/-- Redaction keeps a place that no sensitive key leads to. -/
theorem at?_redactValue
    (order : FieldOrder)
    {path : List String}
    (reached : ∀ outer ∈ path, isSensitiveKey names outer = false)
    (value : Json) :
    (redactValue order names value).at? path =
      (value.at? path).map (redactValue order names) := by
  induction path generalizing value with
  | nil =>
      cases value <;> rfl
  | cons key path inductionHypothesis =>
      obtain ⟨plain, others⟩ := List.forall_mem_cons.mp reached
      cases value with
      | obj members =>
          simp only [redactValue, Json.at?, find?_redactMembersWith]
          cases Members.find? members key with
          | none =>
              rfl
          | some inner =>
              simp only [Option.map_some, Option.bind_some, leftUnder, plain,
                Bool.false_eq_true, if_false, inductionHypothesis others]
      | null | bool | int | float | str | arr =>
          rfl

/-- What redaction leaves at a place that no sensitive key leads to. -/
theorem at?_redacted
    {data : Members}
    {path : List String}
    {key : String}
    {value : Json}
    (placed : (Json.obj data).at? (path ++ [key]) = some value)
    (reached : ∀ outer ∈ path, isSensitiveKey names outer = false) :
    (Json.obj (redactMembersWith order names data)).at? (path ++ [key]) =
      some (leftUnder order names key value) := by
  obtain ⟨members, above, found⟩ := Json.at?_concat_inv placed
  have kept := at?_redactValue order reached (.obj data)
  rw [above, Option.map_some] at kept
  simp only [redactValue] at kept
  rw [Json.at?_append, kept, Option.bind_some]
  simp only [Json.at?, find?_redactMembersWith, found, Option.map_some,
    Option.bind_some]

/--
Names that are all texts are taken as they are, in whatever form they are given.
-/
theorem redactObject_eq
    {given : Json}
    {extra : List String}
    (named : namesOf given = .ok (extra.map .str))
    (data : Members) :
    redactObject order given (.obj data) =
      .ok (.obj (redactMembers order extra data)) := by
  have texts : (extra.map Json.str).filterMap Json.string? = extra := by
    simp [List.filterMap_map, Function.comp_def, Json.string?]
  have allTexts :
      (extra.map Json.str).find? (fun name => name.string?.isNone) = none := by
    simp [List.find?_eq_none, Json.string?]
  simp only [redactObject, named, texts, allTexts]

/-- A list of texts names those texts. -/
theorem namesOf_texts (extra : List String) :
    namesOf (.arr (extra.map .str)) = .ok (extra.map .str) := by
  change (extra.map Json.str).mapM Json.key = _
  induction extra with
  | nil =>
      rfl
  | cons name rest inductionHypothesis =>
      rw [List.map_cons, List.mapM_cons, inductionHypothesis]
      rfl

/-- An object is redacted by the names given as texts. -/
theorem redactObject_texts (extra : List String) (data : Members) :
    redactObject order (.arr (extra.map .str)) (.obj data) =
      .ok (.obj (redactMembers order extra data)) :=
  redactObject_eq (namesOf_texts extra) data

/-- Whether a name occurs in the lower case of a key. -/
def Covers (name key : String) : Prop :=
  Text.occursIn name.toList (Text.lower key.toList) = true

/-- A key is sensitive exactly if some name covers it. -/
theorem isSensitiveKey_iff (key : String) :
    isSensitiveKey names key = true ↔ ∃ name ∈ names, Covers name key := by
  simp only [isSensitiveKey, List.any_eq_true, Covers]

/--
Whether a listed key has its effect: it is in lower case, or another name covers it.
-/
def Honoured (names : List String) (key : String) : Prop :=
  Text.IsLower key.toList ∨ ∃ other ∈ names, other ≠ key ∧ Covers other key

/-- A listed key is sensitive exactly if it is honoured. -/
theorem isSensitiveKey_of_mem_iff
    {key : String}
    (listed : key ∈ names) :
    isSensitiveKey names key = true ↔ Honoured names key := by
  rw [isSensitiveKey_iff, Honoured]
  constructor
  · rintro ⟨name, inside, covers⟩
    by_cases same : name = key
    · subst same
      exact .inl ((Text.occursIn_lower_iff _).mp covers)
    · exact .inr ⟨name, inside, same, covers⟩
  · rintro (isLower | ⟨other, inside, -, covers⟩)
    · exact ⟨key, listed, (Text.occursIn_lower_iff _).mpr isLower⟩
    · exact ⟨other, inside, covers⟩

/--
An extra key is redacted at every place that no sensitive key leads to, exactly if
it is in lower case or another name covers it; else its value is redacted like that
of any other key.
-/
theorem extra_key_redacted
    (order : FieldOrder)
    {extra : List String}
    {data : Members}
    {path : List String}
    {key : String}
    {value : Json}
    (listed : key ∈ extra)
    (placed : (Json.obj data).at? (path ++ [key]) = some value)
    (reached :
      ∀ outer ∈ path, isSensitiveKey (sensitiveFields ++ extra) outer = false) :
    ∃ redacted, redactObject order (.arr (extra.map .str)) (.obj data) =
      .ok redacted ∧
      (Honoured (sensitiveFields ++ extra) key →
        redacted.at? (path ++ [key]) = some mark) ∧
      (¬ Honoured (sensitiveFields ++ extra) key →
        redacted.at? (path ++ [key]) =
          some (redactValue order (sensitiveFields ++ extra) value)) := by
  have sensitive :=
    isSensitiveKey_of_mem_iff (List.mem_append_right sensitiveFields listed)
  refine ⟨_, redactObject_texts extra data, fun covered => ?_, fun uncovered => ?_⟩
  · rw [redactMembers, at?_redacted placed reached, leftUnder,
      if_pos (sensitive.mpr covered)]
  · rw [redactMembers, at?_redacted placed reached, leftUnder,
      if_neg (mt sensitive.mp uncovered)]

/-- Data about a login, with a key inside an object and one in capitals. -/
def loginData : Members :=
  [("login", .obj [("пароль", .str "весна"), ("attempt", .int 2)]),
    ("ApiKey", .str "k-17")]

/-- A key of another script is in lower case too, and redacted inside an object. -/
theorem extra_key_redacted_nested :
    "пароль" ∈ ["пароль", "ApiKey"] ∧
      (Json.obj loginData).at? ["login", "пароль"] = some (.str "весна") ∧
      (∀ outer ∈ ["login"],
        isSensitiveKey (sensitiveFields ++ ["пароль", "ApiKey"]) outer = false) ∧
      ∃ redacted,
        redactObject .listed (.arr [.str "пароль", .str "ApiKey"])
          (.obj loginData) = .ok redacted ∧
        redacted.at? ["login", "пароль"] = some mark := by
  have placed : (Json.obj loginData).at? (["login"] ++ ["пароль"]) =
      some (.str "весна") := rfl
  have reached : ∀ outer ∈ ["login"],
      isSensitiveKey (sensitiveFields ++ ["пароль", "ApiKey"]) outer = false := by
    decide +kernel
  obtain ⟨redacted, returned, honoured, -⟩ :=
    extra_key_redacted .listed
      (List.mem_cons_self (a := "пароль") (l := ["ApiKey"])) placed reached
  exact ⟨by decide, placed, reached, redacted, returned,
    honoured (.inl (by decide +kernel))⟩

/--
An extra key with capitals is looked for in a text without any, and its value is
shown.
-/
theorem extra_key_not_always_redacted :
    ¬ ∀ (order : FieldOrder) (extra : List String) (data : Members)
        (path : List String) (key : String) (value : Json),
      key ∈ extra →
      (Json.obj data).at? (path ++ [key]) = some value →
      (∀ outer ∈ path, isSensitiveKey (sensitiveFields ++ extra) outer = false) →
      ∃ redacted, redactObject order (.arr (extra.map .str)) (.obj data) =
        .ok redacted ∧
        redacted.at? (path ++ [key]) = some mark := by
  intro honoured
  obtain ⟨redacted, returned, marked⟩ :=
    honoured .listed ["ApiKey"] [("ApiKey", .str "k-17")]
    [] "ApiKey" (.str "k-17") (by decide) rfl (by simp)
  rw [redactObject_texts] at returned
  cases returned
  have plain : isSensitiveKey (sensitiveFields ++ ["ApiKey"]) "ApiKey" = false := by
    decide +kernel
  have placed : (Json.obj [("ApiKey", .str "k-17")]).at? ([] ++ ["ApiKey"]) =
      some (.str "k-17") := rfl
  rw [redactMembers, at?_redacted placed (by simp), leftUnder,
    if_neg (by simp [plain])] at marked
  simp only [redactValue, mark, Option.some.injEq, Json.str.injEq] at marked
  exact absurd marked (by decide +kernel)

end Redaction

end PolicyReconciler

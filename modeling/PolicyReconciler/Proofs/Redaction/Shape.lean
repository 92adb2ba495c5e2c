import PolicyReconciler.Proofs.Redaction.Clean
import PolicyReconciler.Proofs.Redaction.Keys

namespace PolicyReconciler

/-!
# The shape of redacted objects

Redaction replaces what stands under sensitive keys and rewrites texts.  It leaves
the keys of all objects that it goes into, and every value that is neither a text
nor an object.  What it has left, it leaves again: a mark stands under a sensitive
key still, and a redacted text holds nothing to redact.
-/

namespace Json

/-- The keys of an object, in their order. -/
def keys? (value : Json) : Option (List String) :=
  value.members?.map (List.map Prod.fst)

/-- Whether a value is a number, a truth value, null or an array. -/
def isInert (value : Json) : Bool :=
  value.string?.isNone && value.members?.isNone

end Json

namespace Redaction

variable {order : FieldOrder}
variable {names : List String}

/-- Redacting a message twice changes nothing more. -/
theorem redact_redact (message : String) :
    redact order (redact order message) = redact order message := by
  have redacted := redacted_of_perm order.complete message.toList
  have unchanged :
      redactCharacters order.fields (redactCharacters order.fields message.toList) =
        redactCharacters order.fields message.toList :=
    redacted.unchanged fun _ inside => order.complete.subset inside
  rw [redact, redact, String.toList_ofList, unchanged]

mutual

/-- Redacting a value twice changes nothing more. -/
theorem redactValue_redactValue : ∀ value : Json,
    redactValue order names (redactValue order names value) =
      redactValue order names value
  | .obj members => by
      simp only [redactValue, redactMembersWith_redactMembersWith members]
  | .str text => by
      simp only [redactValue, redact_redact]
  | .null | .bool _ | .int _ | .float _ | .arr _ => rfl

/-- A key is sensitive in the second pass if and only if it was in the first. -/
theorem redactMembersWith_redactMembersWith : ∀ members : Members,
    redactMembersWith order names (redactMembersWith order names members) =
      redactMembersWith order names members
  | [] => rfl
  | (key, value) :: rest => by
      simp only [redactMembersWith, redactMembersWith_redactMembersWith rest]
      by_cases sensitive : isSensitiveKey names key = true
      · simp only [sensitive, if_true]
      · simp only [sensitive, Bool.false_eq_true, if_false,
          redactValue_redactValue value]

end

/-- Redaction keeps the keys and their order. -/
theorem keys_redactMembersWith (members : Members) :
    (redactMembersWith order names members).map Prod.fst =
      members.map Prod.fst := by
  induction members with
  | nil =>
      rfl
  | cons member rest inductionHypothesis =>
      simp only [redactMembersWith, List.map_cons, inductionHypothesis]

theorem keys?_redactValue
    (value : Json) :
    (redactValue order names value).keys? = value.keys? := by
  cases value with
  | obj members =>
      simp only [redactValue, Json.keys?, Json.members?, Option.map_some,
        keys_redactMembersWith]
  | str text =>
      simp only [redactValue, Json.keys?, Json.members?]
  | null | bool | int | float | arr =>
      rfl

/-- Redaction leaves an inert value, and gives one for no other value. -/
theorem redactValue_eq_iff
    {inert : Json}
    (isInert : inert.isInert = true)
    (value : Json) :
    redactValue order names value = inert ↔ value = inert := by
  cases value with
  | obj _ | str _ =>
      simp only [redactValue]
      constructor <;>
        · rintro rfl
          simp [Json.isInert, Json.string?, Json.members?] at isInert
  | null | bool | int | float | arr =>
      exact Iff.rfl

/--
What redaction leaves of the places that no sensitive key leads to, and of those
below.
-/
structure SameShape
    (order : FieldOrder)
    (names : List String)
    (data redacted : Json) :
    Prop where
  keys :
    ∀ {path : List String}, (∀ outer ∈ path, isSensitiveKey names outer = false) →
    (redacted.at? path).bind Json.keys? = (data.at? path).bind Json.keys?
  inert :
    ∀ {path : List String}, (∀ outer ∈ path, isSensitiveKey names outer = false) →
    ∀ value : Json, value.isInert = true →
      (redacted.at? path = some value ↔ data.at? path = some value)
  texts :
    ∀ {path : List String}, (∀ outer ∈ path, isSensitiveKey names outer = false) →
    ∀ text, data.at? path = some (.str text) →
      redacted.at? path = some (.str (redact order text))
  marks :
    ∀ {path : List String}, (∀ outer ∈ path, isSensitiveKey names outer = false) →
    ∀ key value, isSensitiveKey names key = true →
      data.at? (path ++ [key]) = some value →
      redacted.at? (path ++ [key]) = some mark

/-- Redaction keeps the shape of an object. -/
theorem sameShape_redactMembersWith (names : List String) (data : Members) :
    SameShape order names (.obj data)
      (.obj (redactMembersWith order names data)) := by
  have placed :
      ∀ {path : List String}, (∀ outer ∈ path, isSensitiveKey names outer = false) →
      (Json.obj (redactMembersWith order names data)).at? path =
        ((Json.obj data).at? path).map (redactValue order names) :=
    fun reached => at?_redactValue order reached (.obj data)
  constructor
  · intro path reached
    rw [placed reached]
    cases (Json.obj data).at? path with
    | none =>
        rfl
    | some value =>
        exact keys?_redactValue value
  · intro path reached value isInert
    rw [placed reached]
    cases (Json.obj data).at? path with
    | none =>
        simp
    | some before =>
        rw [Option.map_some, Option.some_inj, Option.some_inj,
          redactValue_eq_iff isInert]
  · intro path reached text isText
    rw [placed reached, isText, Option.map_some, redactValue]
  · intro path reached key value sensitive isValue
    rw [at?_redacted isValue reached, leftUnder, if_pos sensitive]

/--
Redacting an object keeps its shape: wherever no sensitive key leads to, an object
has the same keys in the same order, and a value that is neither a text nor an
object stays as it is. Redacting it once more changes nothing.
-/
theorem redaction_keeps_shape
    (order : FieldOrder)
    {given : Json}
    {extra : List String}
    (named : namesOf given = .ok (extra.map .str))
    (data : Members) :
    ∃ redacted, redactObject order given (.obj data) = .ok (.obj redacted) ∧
      SameShape order (sensitiveFields ++ extra) (.obj data) (.obj redacted) ∧
      redactObject order given (.obj redacted) = .ok (.obj redacted) := by
  refine ⟨_, redactObject_eq named data, sameShape_redactMembersWith _ data, ?_⟩
  rw [redactObject_eq named]
  simp only [redactMembers, redactMembersWith_redactMembersWith]

/-- Data about a request: an object under an extra key, and one inside an array. -/
def requestData : Members :=
  [("request", .obj [("apikey", .obj [("id", .int 7)]), ("attempt", .int 2),
    ("roles", .arr [.obj [("password", .str "hunter2")]])]), ("done", .bool false)]

theorem requestData_keeps_shape :
    namesOf (.arr [.str "apikey"]) = .ok [.str "apikey"] ∧
      (∀ outer ∈ ["request"], isSensitiveKey (sensitiveFields ++ ["apikey"]) outer =
        false) ∧
      isSensitiveKey (sensitiveFields ++ ["apikey"]) "apikey" = true ∧
      ∃ redacted,
        redactObject .listed (.arr [.str "apikey"]) (.obj requestData) =
          .ok (.obj redacted) ∧
          ((Json.obj redacted).at? ["request"]).bind Json.keys? =
            some ["apikey", "attempt", "roles"] ∧
          (Json.obj redacted).at? ["request", "apikey"] = some mark ∧
          redactObject .listed (.arr [.str "apikey"]) (.obj redacted) =
            .ok (.obj redacted) := by
  have named : namesOf (.arr [.str "apikey"]) = .ok (["apikey"].map Json.str) := rfl
  have reached : ∀ outer ∈ ["request"],
      isSensitiveKey (sensitiveFields ++ ["apikey"]) outer = false := by
    decide +kernel
  have sensitive :
      isSensitiveKey (sensitiveFields ++ ["apikey"]) "apikey" = true := by
    decide +kernel
  obtain ⟨redacted, returned, shape, again⟩ :=
    redaction_keeps_shape .listed named requestData
  exact ⟨named, reached, sensitive, redacted, returned, shape.keys reached,
    shape.marks reached "apikey" (.obj [("id", .int 7)]) sensitive rfl, again⟩

end Redaction

end PolicyReconciler

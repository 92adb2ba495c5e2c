import PolicyReconciler.Observation.Log

namespace PolicyReconciler

/-!
# Redacted objects

What stands under a sensitive key is replaced wherever nested objects lead to it.
So two objects are redacted alike if and only if they are the same apart from such
values and from texts that are redacted alike, and then a line about an error does
not tell them apart.

Arrays are not looked into.  An object inside an array is shown with all that it
holds.
-/

namespace Redaction

mutual

/--
Values that are the same apart from what stands under sensitive keys, at any depth.
-/
inductive SameApart (names : List String) : Json → Json → Prop where
  | same (value : Json) :
      SameApart names value value
  | arrays {left right : List Json}
      (items : ItemsSameApart names left right) :
      SameApart names (.arr left) (.arr right)
  | objects {left right : Members}
      (members : MembersSameApart names left right) :
      SameApart names (.obj left) (.obj right)

/--
Lists whose entries are pairwise the same apart from what sensitive keys hold.
-/
inductive ItemsSameApart (names : List String) : List Json → List Json → Prop where
  | nil :
      ItemsSameApart names [] []
  | cons {left right : Json} {lefts rights : List Json}
      (first : SameApart names left right)
      (rest : ItemsSameApart names lefts rights) :
      ItemsSameApart names (left :: lefts) (right :: rights)

/-- Members that are the same apart from what sensitive keys hold. -/
inductive MembersSameApart (names : List String) : Members → Members → Prop where
  | nil :
      MembersSameApart names [] []
  | hidden {key : String} {left right : Json} {lefts rights : Members}
      (sensitive : isSensitiveKey names key = true)
      (rest : MembersSameApart names lefts rights) :
      MembersSameApart names ((key, left) :: lefts) ((key, right) :: rights)
  | plain {key : String} {left right : Json} {lefts rights : Members}
      (first : SameApart names left right)
      (rest : MembersSameApart names lefts rights) :
      MembersSameApart names ((key, left) :: lefts) ((key, right) :: rights)

end

mutual

/--
Values of which redaction shows the same: in nested objects only sensitive keys
hide.
-/
inductive ShownAlike
    (order : FieldOrder)
    (names : List String) :
    Json → Json → Prop where
  | same (value : Json) :
      ShownAlike order names value value
  | texts {left right : String}
      (redacted : redact order left = redact order right) :
      ShownAlike order names (.str left) (.str right)
  | objects {left right : Members}
      (members : MembersShownAlike order names left right) :
      ShownAlike order names (.obj left) (.obj right)

/-- Members that are shown alike once they are redacted. -/
inductive MembersShownAlike
    (order : FieldOrder)
    (names : List String) :
    Members → Members → Prop where
  | nil :
      MembersShownAlike order names [] []
  | hidden {key : String} {left right : Json} {lefts rights : Members}
      (sensitive : isSensitiveKey names key = true)
      (rest : MembersShownAlike order names lefts rights) :
      MembersShownAlike order names ((key, left) :: lefts) ((key, right) :: rights)
  | plain {key : String} {left right : Json} {lefts rights : Members}
      (first : ShownAlike order names left right)
      (rest : MembersShownAlike order names lefts rights) :
      MembersShownAlike order names ((key, left) :: lefts) ((key, right) :: rights)

end

variable {order : FieldOrder}
variable {names : List String}

mutual

/-- Values that are shown alike are redacted to the same. -/
theorem ShownAlike.redactValue_eq : ∀ {left right : Json},
    ShownAlike order names left right →
      redactValue order names left = redactValue order names right
  | _, _, .same _ => rfl
  | _, _, .texts redacted => by
      simp only [redactValue, redacted]
  | _, _, .objects members => by
      simp only [redactValue, members.redactMembersWith_eq]

/-- Members that are shown alike are redacted to the same members. -/
theorem MembersShownAlike.redactMembersWith_eq : ∀ {left right : Members},
    MembersShownAlike order names left right →
      redactMembersWith order names left = redactMembersWith order names right
  | _, _, .nil => rfl
  | _, _, .hidden sensitive rest => by
      simp only [redactMembersWith, sensitive, if_true, rest.redactMembersWith_eq]
  | _, _, .plain first rest => by
      simp only [redactMembersWith, first.redactValue_eq, rest.redactMembersWith_eq]

end

mutual

/-- Values that are redacted to the same are shown alike. -/
theorem shownAlike_of_redactValue_eq : ∀ (left right : Json),
    redactValue order names left = redactValue order names right →
      ShownAlike order names left right
  | .obj left, right, same => by
      cases right with
      | obj right =>
          simp only [redactValue, Json.obj.injEq] at same
          exact .objects (membersShownAlike_of_redactMembersWith_eq left right same)
      | null | bool | int | float | str | arr =>
          simp only [redactValue, reduceCtorEq] at same
  | .str left, right, same => by
      cases right with
      | str right =>
          simp only [redactValue, Json.str.injEq] at same
          exact .texts same
      | null | bool | int | float | arr | obj =>
          simp only [redactValue, reduceCtorEq] at same
  | .null, right, same => by
      cases right with
      | null =>
          exact .same .null
      | bool | int | float | str | arr | obj =>
          simp only [redactValue, reduceCtorEq] at same
  | .bool _, right, same | .int _, right, same
  | .float _, right, same | .arr _, right, same => by
      cases right with
      | str | obj =>
          simp only [redactValue, reduceCtorEq] at same
      | null | bool | int | float | arr =>
          simp only [redactValue] at same
          exact same ▸ .same _

/-- Members that are redacted to the same members are shown alike. -/
theorem membersShownAlike_of_redactMembersWith_eq : ∀ (left right : Members),
    redactMembersWith order names left = redactMembersWith order names right →
      MembersShownAlike order names left right
  | [], [], _ => .nil
  | [], _ :: _, same | _ :: _, [], same => by
      cases same
  | (key, left) :: lefts, (key', right) :: rights, same => by
      simp only [redactMembersWith, List.cons.injEq, Prod.mk.injEq] at same
      obtain ⟨⟨rfl, shown⟩, others⟩ := same
      have rest := membersShownAlike_of_redactMembersWith_eq lefts rights others
      by_cases sensitive : isSensitiveKey names key = true
      · exact .hidden sensitive rest
      · rw [if_neg sensitive, if_neg sensitive] at shown
        exact .plain (shownAlike_of_redactValue_eq left right shown) rest

end

/-- Members are redacted to the same exactly if they are shown alike. -/
theorem redactMembersWith_eq_iff {left right : Members} :
    redactMembersWith order names left = redactMembersWith order names right ↔
      MembersShownAlike order names left right :=
  ⟨membersShownAlike_of_redactMembersWith_eq left right,
    MembersShownAlike.redactMembersWith_eq⟩

namespace MembersShownAlike

variable {left right : Members}

/-- Members that are shown alike have the same keys. -/
theorem keys_eq
    (alike : MembersShownAlike order names left right) :
    left.map Prod.fst = right.map Prod.fst := by
  induction left generalizing right with
  | nil =>
      cases alike
      rfl
  | cons member rest inductionHypothesis =>
      cases alike with
      | hidden sensitive others | plain first others =>
          simp only [List.map_cons, inductionHypothesis others]

/-- Leaving out members by their keys leaves members that are shown alike. -/
theorem filter
    (alike : MembersShownAlike order names left right)
    (kept : String → Bool) :
    MembersShownAlike order names (left.filter fun member => kept member.1)
      (right.filter fun member => kept member.1) := by
  induction left generalizing right with
  | nil =>
      cases alike
      exact .nil
  | cons member rest inductionHypothesis =>
      cases alike with
      | @hidden key _ _ _ _ sensitive others =>
          cases keeps : kept key <;> simp only [List.filter_cons, keeps]
          · exact inductionHypothesis others
          · exact .hidden sensitive (inductionHypothesis others)
      | @plain key _ _ _ _ first others =>
          cases keeps : kept key <;> simp only [List.filter_cons, keeps]
          · exact inductionHypothesis others
          · exact .plain first (inductionHypothesis others)

end MembersShownAlike

end Redaction

/-! ## Lines about errors -/

namespace HandlerNote

/-- Notes that differ only in extra fields of which redaction shows the same. -/
structure ShownAlike
    (order : Redaction.FieldOrder)
    (first second : HandlerNote) :
    Prop where
  metadata : first.metadata = second.metadata
  message : first.message = second.message
  event : first.event = second.event
  reason : first.reason = second.reason
  extra : Redaction.MembersShownAlike order Redaction.sensitiveFields
    first.extra second.extra
  /-- An event or a reason among the extra fields is written as it is. -/
  named : ∀ key ∈ ["event", "reason"],
    Members.find? first.extra key = Members.find? second.extra key

namespace ShownAlike

variable {order : Redaction.FieldOrder}
variable {first second : HandlerNote}

theorem any_extra_eq
    (alike : ShownAlike order first second)
    (tells : String → Bool) :
    (first.extra.any fun field => tells field.1) =
      second.extra.any fun field => tells field.1 := by
  have keys := congrArg (List.any · tells) alike.extra.keys_eq
  simpa only [List.any_map, Function.comp_def] using keys

/-- Notes that are shown alike clash alike. -/
theorem clashes_eq
    (alike : ShownAlike order first second) :
    first.clashes = second.clashes := by
  unfold clashes
  rw [alike.event, alike.reason]
  exact alike.any_extra_eq fun key =>
    reservedNames.contains key || (key == "event" && second.event.isSome) ||
      (key == "reason" && second.reason.isSome)

/-- A clash names a key, and the keys of notes that are shown alike are the same. -/
theorem clash_eq
    (alike : ShownAlike order first second)
    (caller : String)
    (keywords : List String) :
    first.clash caller keywords = second.clash caller keywords := by
  simp only [clash, alike.extra.keys_eq]

/-- Notes that are shown alike have the same fields on an error line. -/
theorem errorFields_eq
    (alike : ShownAlike order first second)
    (fault : Option Fault) :
    first.errorFields order fault = second.errorFields order fault := by
  have fields := (alike.extra.filter fun key => key != "event" && key != "reason")
  have redacted : Redaction.redactMembers order [] first.otherFields =
      Redaction.redactMembers order [] second.otherFields := by
    simp only [Redaction.redactMembers, List.append_nil]
    exact fields.redactMembersWith_eq
  simp only [errorFields, redacted]

/-- Notes that are shown alike name the same event and reason. -/
theorem named_eq
    (alike : ShownAlike order first second)
    (given : Option Json)
    {key : String}
    (default : String)
    (listed : key ∈ ["event", "reason"]) :
    first.named given key default = second.named given key default := by
  simp only [HandlerNote.named, Members.getD, alike.named key listed]

/-- Notes that are shown alike are reported in the same way. -/
theorem report_eq
    {Time : Type}
    (alike : ShownAlike order first second)
    (kind : Json)
    (fault : Option Fault) :
    (first.report order kind fault : Program Time Unit) =
      second.report order kind fault := by
  have described :
      Members.has first.extra "error" = Members.has second.extra "error" :=
    alike.any_extra_eq (· == "error")
  simp only [report, writeWith, keywords, alike.clashes_eq,
    alike.clash_eq, described, alike.errorFields_eq, alike.metadata, alike.message,
    alike.event, alike.reason, alike.named_eq _ _ List.mem_cons_self,
    alike.named_eq _ _
      (List.mem_cons_of_mem "event" (List.mem_singleton_self "reason"))]

end ShownAlike

end HandlerNote

namespace Redaction

/--
Redaction tells two objects apart if and only if they differ in more than what
sensitive keys and redacted texts hide; a line about an error does not tell apart
what redaction does not.
-/
theorem objects_redacted_alike_iff
    {Time : Type}
    (order : FieldOrder)
    (extra : List String)
    (left right : Members)
    (first second : HandlerNote)
    (kind : Json)
    (fault : Option Fault) :
    (redactMembers order extra left = redactMembers order extra right ↔
        MembersShownAlike order (sensitiveFields ++ extra) left right) ∧
      (HandlerNote.ShownAlike order first second →
        (first.report order kind fault : Program Time Unit) =
      second.report order kind fault) :=
  ⟨redactMembersWith_eq_iff, fun alike => alike.report_eq kind fault⟩

/-- A note about a login with a password inside two objects. -/
def loginNote (password : String) : HandlerNote where
  metadata := .obj [("name", .str "entrance")]
  message := .str "login failed"
  event := none
  reason := some (.str "Login")
  extra := [("request", .obj [("attempt", .int 2),
    ("user", .obj [("Password", .str password), ("roles", .arr [.str "edge"])])])]

/-- A login is shown without its password. -/
theorem loginNote_shownAlike (order : FieldOrder) (password password' : String) :
    HandlerNote.ShownAlike order (loginNote password) (loginNote password') where
  metadata := rfl
  message := rfl
  event := rfl
  reason := rfl
  extra := .plain (.objects (.plain (.same _) (.plain
    (.objects (.hidden (by decide +kernel) (.plain (.same _) .nil))) .nil))) .nil
  named := by
    intro key listed
    simp only [List.mem_cons, List.not_mem_nil, or_false] at listed
    rcases listed with rfl | rfl <;> rfl

theorem loginNote_redacted_alike :
    HandlerNote.ShownAlike .listed (loginNote "hunter2") (loginNote "12345") ∧
      redactMembers .listed [] (loginNote "hunter2").extra =
        redactMembers .listed [] (loginNote "12345").extra ∧
      ((loginNote "hunter2").report .listed (.str "IAMAuthPolicy") none :
        Program Rat Unit) =
        (loginNote "12345").report .listed (.str "IAMAuthPolicy") none := by
  have alike := loginNote_shownAlike .listed "hunter2" "12345"
  obtain ⟨redacted, reported⟩ :=
    objects_redacted_alike_iff .listed [] (loginNote "hunter2").extra
      (loginNote "12345").extra
      (loginNote "hunter2") (loginNote "12345") (.str "IAMAuthPolicy") none
  exact ⟨alike, redacted.mpr alike.extra, reported alike⟩

/-- A password in an object inside an array is shown. -/
theorem objects_not_always_redacted_alike :
    ¬ ∀ order, ∀ left right : Members, MembersSameApart sensitiveFields left right →
      redactMembers order [] left = redactMembers order [] right := by
  intro hides
  have inside : MembersSameApart sensitiveFields
      [("items", .arr [.obj [("password", .str "hunter2")]])]
      [("items", .arr [.obj [("password", .str "[REDACTED]")]])] :=
    .plain (.arrays (.cons (.objects (.hidden (by decide +kernel) .nil)) .nil)) .nil
  have plain : isSensitiveKey sensitiveFields "items" = false := by
    decide +kernel
  have same := hides .listed _ _ inside
  simp [redactMembers, redactMembersWith, redactValue, plain] at same

end Redaction

end PolicyReconciler

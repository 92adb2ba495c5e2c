import PolicyReconciler.Proofs.Json.Documents
import PolicyReconciler.Proofs.Reconcile.Calls
import PolicyReconciler.Proofs.Reconcile.Stages

namespace PolicyReconciler.Reconcile

/-!
# The documents that a reconcile attaches

What is attached to a resource is the policy in the spec of the record that was
read: a text as it stands there, and any other value in its written form, from which
the value can be read back.  So policies that differ are never attached by the same
text.
-/

open Program Policy VpcLattice PolicyStore

variable {Time : Type} [TimeScale Time]
variable {operator : Operator Time}
variable {address : Address}
variable {history : History}
variable {document : Json}

/-- A reconcile that has made some exchanges and is about to attach a document. -/
def Attaches (operator : Operator Time) (address : Address) (history : History)
    (document : Json) : Prop :=
  ∃ identifier rest,
    (reconcile operator address).Leads history
      (.perform (.call (.putAuthPolicy identifier document)) rest)

/-- Whether the record that was read asks for a policy that is no text. -/
def AsksFor (operator : Operator Time) (address : Address) (history : History)
    (value : Json) : Prop :=
  ∃ record spec,
    ⟨readCall operator address, .ok (.obj record)⟩ ∈ history ∧
      Members.find? record "spec" = some (.obj spec) ∧
      Members.find? spec "policy" = some value ∧ value.string? = none

/-- A policy plans to attach its own document only. -/
theorem document_of_planned
    {policy : Policy}
    {resource identifier : Json}
    (planned : .ok (.putAuthPolicy identifier document) ∈ plan policy resource) :
    document = .str policy.document := by
  unfold plan at planned
  split at planned
  · rcases List.mem_cons.mp planned with isDelete | isChange
    · cases isDelete
    · obtain ⟨_, _, same⟩ :=
        eq_of_typeChange_ok (List.mem_singleton.mp isChange).symm
      cases same
  · rcases List.mem_cons.mp planned with isChange | isPut
    · obtain ⟨_, _, same⟩ := eq_of_typeChange_ok isChange.symm
      cases same
    · cases List.mem_singleton.mp isPut
      rfl

/-- A document is attached for the one record that was read before. -/
theorem Underway.attach_inv
    {identifier : Json}
    (underway :
      Underway operator address history (.putAuthPolicy identifier document)) :
    ∃ record policy, ∃ kind : TargetKind,
      Policy.ofMembers record = .ok policy ∧ policy.target.kind = .str kind.text ∧
        document = .str policy.document ∧
        ∀ body, ⟨readCall operator address, .ok body⟩ ∈ history ↔
          body = .obj record := by
  generalize made : Call.putAuthPolicy identifier document = call at underway
  cases underway with
  | reading reading =>
      cases made
  | listing token read supported lists =>
      cases made
  | writing read supported lookup change =>
      cases made
  | @changing reads lookups changes policy kind resource earlier rest call
      read supported lookup planned change =>
      subst made
      have member :
          .ok (.putAuthPolicy identifier document) ∈ plan policy resource := by
        rw [planned]
        exact List.mem_append_right _ List.mem_cons_self
      have earlierPlanned :
          ∀ exchange ∈ changes, .ok exchange.call ∈ plan policy resource := by
        intro exchange inside
        rw [planned]
        exact List.mem_append_left _ (change.mem_plan inside)
      obtain ⟨record, fit, only⟩ := only_record_of_stages read lookup earlierPlanned
      exact ⟨record, policy, kind, fit, supported, document_of_planned member, only⟩

/-- A record whose target is of a supported kind has a spec. -/
theorem exists_spec_of_supported
    {record : Members}
    {policy : Policy}
    {kind : TargetKind}
    (parsed : Policy.ofMembers record = .ok policy)
    (supported : policy.target.kind = .str kind.text) :
    ∃ spec : Members, Members.find? record "spec" = some (.obj spec) ∧
      policy.document = documentOf (spec.getD "policy" (.str "")) := by
  obtain ⟨spec, read, target, isDocument⟩ := spec_of_ofMembers parsed
  unfold section? Members.getD at read
  cases found : Members.find? record "spec" with
  | none =>
      rw [found] at read
      cases read
      injection target with target
      rw [← target] at supported
      injection supported with nameless
      cases kind <;> exact absurd nameless (by decide)
  | some value =>
      rw [found] at read
      cases value with
      | obj _ =>
          cases read
          exact ⟨_, rfl, isDocument⟩
      | null | bool | int | float | str | arr =>
          cases read

/--
A document is attached for the policy in the spec of the one record that was read.
-/
theorem Attaches.exists_spec
    (attaches : Attaches operator address history document) :
    ∃ record, ∃ spec : Members,
      (∀ body, ⟨readCall operator address, .ok body⟩ ∈ history ↔
        body = .obj record) ∧
        Members.find? record "spec" = some (.obj spec) ∧
        document = .str (documentOf (spec.getD "policy" (.str ""))) := by
  obtain ⟨identifier, rest, leads⟩ := attaches
  have underway := ((reconcile_meets operator address).of_leads leads).1
  obtain ⟨record, policy, kind, parsed, supported, isDocument, only⟩ :=
    underway.attach_inv
  obtain ⟨spec, inRecord, shown⟩ := exists_spec_of_supported parsed supported
  refine ⟨record, spec, only, inRecord, ?_⟩
  rw [isDocument, shown]

/-- A value that is no text is attached as a document. -/
theorem documentOf_of_not_string
    {value : Json}
    (structured : value.string? = none) :
    documentOf value = value.document := by
  cases value with
  | str text =>
      cases structured
  | null | bool | int | float | arr | obj =>
      rfl

/-- A policy that is no text is attached in its written form. -/
theorem Attaches.eq_document
    {value : Json}
    (attaches : Attaches operator address history document)
    (asks : AsksFor operator address history value) :
    document = .str value.document := by
  obtain ⟨record, spec, only, inRecord, isDocument⟩ := attaches.exists_spec
  obtain ⟨record', spec', read, inRecord', inSpec, structured⟩ := asks
  cases (only _).mp read
  cases inRecord.symm.trans inRecord'
  rw [isDocument, Members.getD, inSpec, Option.getD_some,
    documentOf_of_not_string structured]

/--
Every document that a reconcile attaches stands for the policy of the one record
that it has read.  A text is attached character for character.  Any other value
without fractions is attached as one line of printable ASCII which reads back as
that very value, so two reconciles that attach the same line for such values attach
it for one and the same value.
-/
theorem attached_document
    (attaches : Attaches operator address history document) :
    ∃ record, ∃ spec : Members, ∃ text,
      (∀ body, ⟨readCall operator address, .ok body⟩ ∈ history ↔
        body = .obj record) ∧
        Members.find? record "spec" = some (.obj spec) ∧
        document = .str text ∧
        (∀ original, Members.find? spec "policy" = some (.str original) →
          text = original) ∧
        ∀ value, Members.find? spec "policy" = some value → value.string? = none →
          value.isWhole = true →
          (∀ character ∈ text.toList, Json.IsPlain character) ∧
            Json.parse? text = some value ∧
            ∀ {operator' : Operator Time} {address' : Address} {history' : History}
                {other : Json},
              Attaches operator' address' history' document →
              AsksFor operator' address' history' other →
              other.isWhole = true → other = value := by
  obtain ⟨record, spec, only, inRecord, isDocument⟩ := attaches.exists_spec
  refine ⟨record, spec, _, only, inRecord, isDocument, ?_, ?_⟩
  · intro original inSpec
    rw [Members.getD, inSpec]
    rfl
  · intro value inSpec structured whole
    have asks : AsksFor operator address history value :=
      ⟨record, spec, (only _).mpr rfl, inRecord, inSpec, structured⟩
    rw [Members.getD, inSpec, Option.getD_some, documentOf_of_not_string structured]
    refine ⟨Json.isPlain_document whole, Json.parse?_document whole, ?_⟩
    intro operator' address' history' other attaches' asks' whole'
    have same :=
      (attaches'.eq_document asks').symm.trans (attaches.eq_document asks)
    injection same with same
    exact Json.eq_of_document_eq whole' whole same

/-! ## A structured policy of a gateway -/

/--
A policy with a quoted line break, a character beyond the first plane and big
integers.
-/
def gatewayRules : Json :=
  .obj [("Version", .int 20121017),
    ("Statement",
      .arr [.obj [("Sid", .str "first\n\"second\" 𝄞"), ("Effect", .str "Allow")],
      .int (-36893488147419103232), .bool true, .null, .obj [], .arr []])]

/-- The spec of a gateway's policy whose document is an object. -/
def gatewayRuledSpec : Members :=
  [("targetRef", .obj [("kind", .str "Gateway"), ("name", .str "front")]),
    ("policy", gatewayRules)]

/-- The record of the gateway with that policy. -/
def gatewayRuled : Members :=
  Members.set (gatewayRecord "1" []) "spec" (.obj gatewayRuledSpec)

/-- The exchanges of such a run up to the point where the document is put. -/
def gatewayRuling : History :=
  gatewayLookup gatewayRuled ++
    [⟨.setAuthType .serviceNetwork gatewayNetwork signedRequests, .ok (.obj [])⟩]

set_option maxRecDepth 2048 in
/-- The run is about to attach the document. -/
theorem gatewayRuling_attaches :
    Attaches gatewayOperator gatewayAddress gatewayRuling
      (.str gatewayRules.document) :=
  ⟨gatewayNetwork, _, leads_of_follow 0 ⟨.null, none⟩ (by with_unfolding_all rfl)⟩

theorem gatewayRuling_document :
    Attaches gatewayOperator gatewayAddress gatewayRuling
      (.str gatewayRules.document) ∧
      gatewayRules.isWhole = true ∧
        Json.parse? gatewayRules.document = some gatewayRules := by
  have attaches := gatewayRuling_attaches
  refine ⟨attaches, by decide, ?_⟩
  obtain ⟨record, spec, text, only, inRecord, isText, -, structured⟩ :=
    attached_document attaches
  have read : gatewayRuled = record :=
    Json.obj.inj ((only _).mp (List.mem_append_left _ List.mem_cons_self))
  have found : Members.find? gatewayRuled "spec" = some (.obj gatewayRuledSpec) :=
    rfl
  have same : gatewayRuledSpec = spec :=
    Json.obj.inj (Option.some.inj (found.symm.trans (read ▸ inRecord)))
  have inSpec : Members.find? spec "policy" = some gatewayRules :=
    same ▸ rfl
  rw [Json.str.inj isText]
  exact (structured gatewayRules inSpec rfl (by decide)).2.1

end PolicyReconciler.Reconcile

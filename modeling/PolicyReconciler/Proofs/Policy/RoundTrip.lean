import PolicyReconciler.Proofs.Policy.Record

namespace PolicyReconciler

/-!
# Reading a record and folding it back

While a policy is worked on, its finalizers and annotations change in memory.
Folding it back then changes these two in its record and nothing else, whether the
view knows it or not, and reading the result gives the same policy again.
-/

namespace Members

/--
Whether two objects have the same members, in the same order, apart from some keys.
-/
def SameBut (keys : List String) (first second : Members) : Prop :=
  first.filter (fun member => member.1 ∉ keys) =
    second.filter (fun member => member.1 ∉ keys)

variable {keys : List String}

/-- Setting an excepted key leaves members the same but for it. -/
theorem sameBut_set
    {key : String}
    (excepted : key ∈ keys)
    (members : Members)
    (value : Json) :
    SameBut keys (members.set key value) members := by
  unfold SameBut
  induction members with
  | nil =>
      simp [Members.set, excepted]
  | cons head rest inductionHypothesis =>
      by_cases same : head.1 = key
      · simp [Members.set, same, excepted]
      · simp only [Members.set, same, if_false, List.filter_cons,
          inductionHypothesis]

theorem SameBut.trans
    {first second third : Members}
    (left : SameBut keys first second)
    (right : SameBut keys second third) :
    SameBut keys first third :=
  Eq.trans left right

end Members

namespace Policy

/-- A change of a policy in memory. -/
inductive Edit where
  | add (finalizer : Json)
  | remove (finalizer : Json)
  | gate
  | annotate (key : String) (value : Json)

/-- A policy after an edit. -/
def Edit.apply (policy : Policy) : Edit → Policy
  | .add finalizer => policy.addFinalizer finalizer
  | .remove finalizer => policy.removeFinalizer finalizer
  | .gate => policy.gate
  | .annotate key value => policy.annotate key value

/-- A policy after some changes, the first one first. -/
def edited (policy : Policy) (edits : List Edit) : Policy :=
  edits.foldl Edit.apply policy

/--
A record with the finalizers and the annotations of a policy, and all else of
another.
-/
structure Folds (policy : Policy) (record new : Members) : Prop where
  others : Members.SameBut ["metadata"] new record
  metadata : ∃ metadata, Members.find? new "metadata" = some (.obj metadata) ∧
    Members.SameBut ["finalizers", "annotations"] metadata (metadataOf record) ∧
    Members.find? metadata "finalizers" = some (.arr policy.finalizers) ∧
    Members.find? metadata "annotations" = some (.obj policy.annotations)

/-- An edit changes finalizers and annotations alone. -/
theorem Edit.exists_apply_eq (policy : Policy) (edit : Edit) :
    ∃ finalizers annotations,
      edit.apply policy =
        { policy with finalizers := finalizers, annotations := annotations } := by
  cases edit with
  | add finalizer =>
      change ∃ finalizers annotations, policy.addFinalizer finalizer = _
      unfold addFinalizer
      split
      · exact ⟨policy.finalizers, policy.annotations, rfl⟩
      · exact ⟨_, policy.annotations, rfl⟩
  | remove finalizer =>
      exact ⟨_, policy.annotations, rfl⟩
  | gate =>
      exact ⟨_, policy.annotations, gate_eq policy⟩
  | annotate key value =>
      exact ⟨policy.finalizers, _, rfl⟩

/-- Edits change finalizers and annotations only. -/
theorem exists_edited_eq (policy : Policy) (edits : List Edit) :
    ∃ finalizers annotations,
      policy.edited edits =
        { policy with finalizers := finalizers, annotations := annotations } := by
  induction edits generalizing policy with
  | nil =>
      exact ⟨policy.finalizers, policy.annotations, rfl⟩
  | cons edit rest inductionHypothesis =>
      obtain ⟨listed, annotated, first⟩ := edit.exists_apply_eq policy
      obtain ⟨finalizers, annotations, others⟩ :=
        inductionHypothesis (edit.apply policy)
      refine ⟨finalizers, annotations, ?_⟩
      change (edit.apply policy).edited rest = _
      rw [others, first]

/--
A policy that shows the version of its record is written back under that version.
-/
theorem written_eq
    {policy : Policy}
    (shown : policy.version = versionOf policy.record) :
    policy.written =
      withMetadata policy.record
        (((metadataOf policy.record).set "finalizers" (.arr policy.finalizers)).set
          "annotations"
          (.obj policy.annotations)) := by
  rw [written, currentMetadata_eq shown]

/-- A written policy folds back into its record. -/
theorem folds_written
    {policy : Policy}
    (shown : policy.version = versionOf policy.record) :
    policy.Folds policy.record policy.written := by
  rw [written_eq shown]
  refine ⟨Members.sameBut_set (by simp) _ _, _,
    Members.find?_set_same _ _ _, ?_, ?_, ?_⟩
  · exact (Members.sameBut_set (by simp) _ _).trans
      (Members.sameBut_set (by simp) _ _)
  · rw [Members.find?_set_other _ _ (by decide), Members.find?_set_same]
  · rw [Members.find?_set_same]

/--
A policy with other finalizers and annotations is read back as it was written.
-/
theorem ofMembers_written
    {record : Members}
    {policy : Policy}
    (parsed : ofMembers record = .ok policy)
    (finalizers : List Json)
    (annotations : Members) :
    let changed :=
      { policy with finalizers := finalizers, annotations := annotations }
    ofMembers changed.written = .ok { changed with record := changed.written } := by
  intro changed
  have shown := shows_of_ofMembers parsed
  have same : changed.record = record := shown.record_eq
  have versioned : changed.version = versionOf changed.record := by
    rw [same]
    exact shown.version_eq
  have written := written_eq versioned
  rw [same] at versioned written
  have found : ∀ key, Members.find? (metadataOf changed.written) key =
      if key = "annotations" then some (.obj annotations)
      else if key = "finalizers" then some (.arr finalizers)
      else Members.find? (metadataOf record) key := by
    intro key
    rw [written, metadataOf_withMetadata, Members.find?_set, Members.find?_set]
  have current : (metadataOf changed.written).getD "resourceVersion" .null =
      changed.version := by
    rw [Members.getD, found]
    exact versioned.symm
  rw [written] at found current ⊢
  rw [metadataOf_withMetadata] at found current
  rw [ofMembers_withMetadata parsed (found "finalizers") (found "annotations")
    fun key notFinalizers notAnnotations _ => by
      rw [found, if_neg notAnnotations, if_neg notFinalizers], current]

/--
A record that a policy was read from, folded back after any edits of the policy:
only its finalizers and annotations are other than before, and they are those of the
policy.  Read again it gives the policy as it was edited, which is folded back into
the same record.
-/
theorem round_trip
    {record : Json}
    {policy : Policy}
    (read : ofRecord record = .ok policy)
    (edits : List Edit) :
    ∃ members new,
      record = .obj members ∧
        (policy.edited edits).toRecord = .obj new ∧
        (policy.edited edits).Folds members new ∧
        ofRecord (.obj new) = .ok { policy.edited edits with record := new } ∧
        { policy.edited edits with record := new }.toRecord = .obj new := by
  cases record with
  | obj members =>
      obtain ⟨finalizers, annotations, isEdited⟩ := policy.exists_edited_eq edits
      generalize policy.edited edits = edited at isEdited ⊢
      have shown := shows_of_ofMembers read
      have again : ofMembers edited.written =
          .ok { edited with record := edited.written } := by
        subst isEdited
        exact ofMembers_written read finalizers annotations
      have same : edited.record = members := by
        rw [isEdited, shown.record_eq]
      have versioned : edited.version = versionOf edited.record := by
        rw [isEdited, shown.version_eq, shown.record_eq]
      have folds := folds_written versioned
      rw [same] at folds
      refine ⟨members, edited.written, rfl, toRecord_eq edited, folds, again, ?_⟩
      obtain ⟨metadata, inside, _, listed, annotated⟩ := folds.metadata
      have isMetadata : metadataOf edited.written = metadata := by
        rw [metadataOf, inside]
      rw [toRecord_eq, written_eq_record]
      · exact isMetadata ▸ inside
      · exact isMetadata ▸ listed
      · exact isMetadata ▸ annotated
      · exact (shows_of_ofMembers again).version_eq
  | null | bool | int | float | str | arr =>
      cases read

/-! ## A record with members that the view does not know -/

/-- A policy document without a statement. -/
def guardedPolicy : Json :=
  .obj [("Version", .str "2012-10-17"), ("Statement", .arr [])]

/-- A record whose finalizers are given as a text and its annotations as pairs. -/
def guardedRecord (finalizers annotations : Json) : Members :=
  [("apiVersion", .str "application-networking.k8s.aws/v1alpha1"),
    ("metadata",
      .obj [("name", .str "entrance"), ("labels", .obj [("team", .str "edge")]),
      ("finalizers", finalizers), ("annotations", annotations)]),
    ("spec", .obj
      [("targetRef", .obj [("kind", .str "Gateway"), ("name", .str "front")]),
      ("policy", guardedPolicy)]),
    ("status", .null)]

/-- A gate, a finalizer taken off and an annotation set. -/
def guardedEdits : List Edit :=
  [.gate, .remove (.str "a"), .annotate "owner" (.str "edge")]

/-- The policy that the record describes. -/
def guarded : Policy where
  name := .str "entrance"
  recordNamespace := .str "default"
  target := ⟨.str "Gateway", .str "front", .null⟩
  document := guardedPolicy.document
  deletionRequested := false
  finalizers := [.str "a", .str "b"]
  annotations := [("note", .int 1)]
  uid := .str "unknown"
  version := .null
  record := guardedRecord (.str "ab") (.arr [.arr [.str "note", .int 1]])

/-- The policy is what the record reads as. -/
theorem guarded_read : ofRecord (.obj guarded.record) = .ok guarded := by
  with_unfolding_all rfl

theorem round_trip_guarded :
    ofRecord (.obj guarded.record) = .ok guarded ∧
      (guarded.edited guardedEdits).toRecord =
        .obj
          (guardedRecord (.arr [.str "b", operatorFinalizer])
            (.obj [("note", .int 1), ("owner", .str "edge")])) ∧
      ∃ members new,
        Json.obj guarded.record = .obj members ∧
          (guarded.edited guardedEdits).toRecord = .obj new ∧
          (guarded.edited guardedEdits).Folds members new ∧
          ofRecord (.obj new) =
            .ok { guarded.edited guardedEdits with record := new } ∧
          { guarded.edited guardedEdits with record := new }.toRecord = .obj new :=
  ⟨guarded_read, by with_unfolding_all rfl, round_trip guarded_read guardedEdits⟩

end Policy

end PolicyReconciler

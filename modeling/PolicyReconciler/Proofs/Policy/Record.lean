import PolicyReconciler.Policy.Finalizer
import PolicyReconciler.Program.Effect
import PolicyReconciler.Proofs.Json.Members

namespace PolicyReconciler.Policy

/-!
# Stored records and the policies read from them

What the API server knows of a record stands in its metadata: its address, its
version, its finalizers and whether it is being deleted.  A policy is a view of
its record, so folding it back changes only what a policy may change.
-/

/-- The version of a record, null if it has none. -/
def versionOf (record : Members) : Json :=
  (metadataOf record).getD "resourceVersion" .null

/-- The address that a record carries. -/
def addressOf (record : Members) : Address where
  recordNamespace := (metadataOf record).getD "namespace" (.str "default")
  name := (metadataOf record).getD "name" (.str "")

/-- The finalizers that a record lists, none if they are of the wrong shape. -/
def finalizersOf (record : Members) : List Json :=
  match ((metadataOf record).getD "finalizers" .null).optionalEntries with
  | .ok entries => entries
  | .error _ => []

/-- The annotations of a record, none if they are of the wrong shape. -/
def annotationsOf (record : Members) : Members :=
  match ((metadataOf record).getD "annotations" .null).optionalMembers with
  | .ok members => members
  | .error _ => []

/-- Whether a record carries the finalizer of the operator. -/
def Held (record : Members) : Prop :=
  operatorFinalizer ∈ finalizersOf record

/-- Whether a record is being deleted. -/
def Deleting (record : Members) : Prop :=
  ((metadataOf record).getD "deletionTimestamp" .null).truthy = true

/-- A record with other metadata. -/
def withMetadata (record metadata : Members) : Members :=
  record.set "metadata" (.obj metadata)

/-- A record as it is stored under a version. -/
def restamp (record : Members) (version : Json) : Members :=
  withMetadata record ((metadataOf record).set "resourceVersion" version)

/-- The members of the record that a policy is written back as. -/
def written (policy : Policy) : Members :=
  withMetadata policy.record (policy.currentMetadata (metadataOf policy.record))

/-- A policy is written as an object. -/
theorem toRecord_eq (policy : Policy) : policy.toRecord = .obj policy.written :=
  rfl

@[simp] theorem metadataOf_withMetadata (record metadata : Members) :
    metadataOf (withMetadata record metadata) = metadata := by
  unfold metadataOf withMetadata
  rw [Members.find?_set_same]

/-! ## Storing under a version -/

section Restamp

variable (record : Members) (version : Json)

/-- A new version leaves the other metadata. -/
theorem find?_metadataOf_restamp
    {key : String}
    (other : key ≠ "resourceVersion") :
    Members.find? (metadataOf (restamp record version)) key =
      Members.find? (metadataOf record) key := by
  unfold restamp
  rw [metadataOf_withMetadata, Members.find?_set_other _ _ other]

/-- A record has the version it was stamped with. -/
@[simp] theorem versionOf_restamp :
    versionOf (restamp record version) = version := by
  unfold versionOf restamp
  rw [metadataOf_withMetadata, Members.getD, Members.find?_set_same]
  rfl

/-- Of two versions the later counts. -/
@[simp] theorem restamp_restamp (next : Json) :
    restamp (restamp record version) next = restamp record next := by
  unfold restamp
  rw [metadataOf_withMetadata, Members.set_set]
  unfold withMetadata
  rw [Members.set_set]

@[simp] theorem addressOf_restamp :
    addressOf (restamp record version) = addressOf record := by
  unfold addressOf Members.getD
  rw [find?_metadataOf_restamp, find?_metadataOf_restamp] <;> decide

@[simp] theorem finalizersOf_restamp :
    finalizersOf (restamp record version) = finalizersOf record := by
  unfold finalizersOf Members.getD
  rw [find?_metadataOf_restamp]
  decide

@[simp] theorem held_restamp : Held (restamp record version) ↔ Held record := by
  unfold Held
  rw [finalizersOf_restamp]

@[simp] theorem deleting_restamp : Deleting (restamp record version) ↔
    Deleting record := by
  unfold Deleting Members.getD
  rw [find?_metadataOf_restamp]
  decide

end Restamp

/-! ## Reading a policy -/

/-- A policy shows the record that it was read from. -/
structure Shows (policy : Policy) (record : Members) : Prop where
  record_eq : policy.record = record
  address_eq : Address.mk policy.recordNamespace policy.name = addressOf record
  version_eq : policy.version = versionOf record
  finalizers_eq : policy.finalizers = finalizersOf record
  annotations_eq : policy.annotations = annotationsOf record
  deleting_iff : policy.deletionRequested = true ↔ Deleting record

/-- What two steps come to is what the second makes of the first's result. -/
theorem exists_of_bind_ok
    {First Last : Type}
    {first : Except Fault First}
    {next : First → Except Fault Last}
    {last : Last}
    (succeeds : first.bind next = .ok last) :
    ∃ middle, first = .ok middle ∧ next middle = .ok last := by
  cases first with
  | error fault =>
      cases succeeds
  | ok middle =>
      exact ⟨middle, rfl, succeeds⟩

/-- The metadata section that is read holds the metadata of the record. -/
theorem metadataOf_of_section?
    {record metadata : Members}
    (read : section? record "metadata" = .ok metadata) :
    metadataOf record = metadata := by
  unfold section? Members.getD at read
  unfold metadataOf
  cases found : Members.find? record "metadata" with
  | none =>
      rw [found] at read
      cases read
      rfl
  | some value =>
      rw [found] at read
      cases value with
      | obj members =>
          cases read
          rfl
      | null | bool | int | float | str | arr =>
          cases read

/-- A policy that was read shows its record. -/
theorem shows_of_ofMembers
    {record : Members}
    {policy : Policy}
    (read : ofMembers record = .ok policy) :
    policy.Shows record := by
  obtain ⟨spec, specRead, read⟩ := exists_of_bind_ok read
  obtain ⟨metadata, metadataRead, read⟩ := exists_of_bind_ok read
  obtain ⟨target, targetRead, read⟩ := exists_of_bind_ok read
  obtain ⟨finalizers, finalizersRead, read⟩ := exists_of_bind_ok read
  obtain ⟨annotations, annotationsRead, read⟩ := exists_of_bind_ok read
  cases read
  obtain rfl := metadataOf_of_section? metadataRead
  have listed : finalizersOf record = finalizers := by
    unfold finalizersOf
    rw [finalizersRead]
  have annotated : annotationsOf record = annotations := by
    unfold annotationsOf
    rw [annotationsRead]
  exact ⟨rfl, rfl, rfl, listed.symm, annotated.symm, Iff.rfl⟩

/-- What a policy calls for, and where, is read from the spec of its record. -/
theorem spec_of_ofMembers
    {record : Members}
    {policy : Policy}
    (read : ofMembers record = .ok policy) :
    ∃ spec, section? record "spec" = .ok spec ∧
      TargetRef.ofJson (spec.getD "targetRef" (.obj [])) = .ok policy.target ∧
      policy.document = documentOf (spec.getD "policy" (.str "")) := by
  obtain ⟨spec, specRead, read⟩ := exists_of_bind_ok read
  obtain ⟨metadata, metadataRead, read⟩ := exists_of_bind_ok read
  obtain ⟨target, targetRead, read⟩ := exists_of_bind_ok read
  obtain ⟨finalizers, finalizersRead, read⟩ := exists_of_bind_ok read
  obtain ⟨annotations, annotationsRead, read⟩ := exists_of_bind_ok read
  cases read
  exact ⟨spec, specRead, targetRead, rfl⟩

/-! ## Folding a policy back -/

section Fold

variable (policy : Policy)

/-- Writing a policy leaves the metadata that it does not hold. -/
theorem find?_metadataOf_written
    {key : String}
    (notFinalizers : key ≠ "finalizers")
    (notAnnotations : key ≠ "annotations")
    (notVersion : key ≠ "resourceVersion") :
    Members.find? (metadataOf policy.written) key =
      Members.find? (metadataOf policy.record) key := by
  unfold written currentMetadata
  rw [metadataOf_withMetadata]
  dsimp only
  split
  · rw [Members.find?_set_other _ _ notAnnotations,
      Members.find?_set_other _ _ notFinalizers]
  · rw [Members.find?_set_other _ _ notVersion,
      Members.find?_set_other _ _ notAnnotations,
      Members.find?_set_other _ _ notFinalizers]

/-- A written policy has the address of its record. -/
theorem addressOf_written : addressOf policy.written = addressOf policy.record := by
  unfold addressOf Members.getD
  rw [find?_metadataOf_written, find?_metadataOf_written] <;> decide

/-- A written policy is deleted exactly if its record is. -/
theorem deleting_written : Deleting policy.written ↔ Deleting policy.record := by
  unfold Deleting Members.getD
  rw [find?_metadataOf_written] <;> decide

/-- A written policy lists the policy's finalizers. -/
theorem finalizersOf_written : finalizersOf policy.written = policy.finalizers := by
  have found : Members.find? (metadataOf policy.written) "finalizers" =
      some (.arr policy.finalizers) := by
    unfold written currentMetadata
    rw [metadataOf_withMetadata]
    dsimp only
    split
    · rw [Members.find?_set_other _ _ (by decide), Members.find?_set_same]
    · rw [Members.find?_set_other _ _ (by decide),
        Members.find?_set_other _ _ (by decide), Members.find?_set_same]
  unfold finalizersOf Members.getD
  rw [found]
  cases policy.finalizers with
  | nil =>
      rfl
  | cons entry rest =>
      rfl

/-- A policy that shows its version is written back under it. -/
theorem versionOf_written
    (shown : policy.version = versionOf policy.record) :
    versionOf policy.written = policy.version := by
  unfold versionOf written currentMetadata
  rw [metadataOf_withMetadata]
  dsimp only
  split
  · rw [Members.getD, Members.find?_set_other _ _ (by decide),
      Members.find?_set_other _ _ (by decide)]
    exact shown.symm
  · rw [Members.getD, Members.find?_set_same]
    rfl

end Fold

/-! ## Reading back what was written -/

/-- The entries of a list are its items. -/
theorem optionalEntries_arr (items : List Json) :
    (Json.arr items).optionalEntries = .ok items := by
  cases items <;> rfl

/-- The members of an object are its own. -/
theorem optionalMembers_obj (members : Members) :
    (Json.obj members).optionalMembers = .ok members := by
  cases members <;> rfl

/-- The metadata of a stored policy. -/
theorem metadataOf_stored (policy : Policy) (version : Json) :
    metadataOf (restamp policy.written version) =
      (((metadataOf policy.record).set "finalizers" (.arr policy.finalizers)).set
        "annotations" (.obj policy.annotations)).set "resourceVersion" version := by
  unfold restamp written currentMetadata
  rw [metadataOf_withMetadata, metadataOf_withMetadata]
  dsimp only
  split
  · rfl
  · rw [Members.set_set]

/-- What is found in the metadata of a stored policy. -/
theorem find?_metadataOf_stored (policy : Policy) (version : Json) (key : String) :
    Members.find? (metadataOf (restamp policy.written version)) key =
      if key = "resourceVersion" then some version
      else if key = "annotations" then some (.obj policy.annotations)
      else if key = "finalizers" then some (.arr policy.finalizers)
      else Members.find? (metadataOf policy.record) key := by
  rw [metadataOf_stored, Members.find?_set, Members.find?_set, Members.find?_set]

/-- Storing a policy leaves all but the metadata. -/
theorem find?_stored
    (policy : Policy)
    (version : Json)
    {key : String}
    (other : key ≠ "metadata") :
    Members.find? (restamp policy.written version) key =
      Members.find? policy.record key := by
  unfold restamp written withMetadata
  rw [Members.find?_set_other _ _ other, Members.find?_set_other _ _ other]

/-- A stamped record has metadata. -/
theorem find?_metadata_restamp (record : Members) (version : Json) :
    Members.find? (restamp record version) "metadata" =
      some (.obj (metadataOf (restamp record version))) := by
  unfold restamp
  rw [metadataOf_withMetadata, withMetadata, Members.find?_set_same]

/-- A stored policy has the policy's annotations. -/
theorem annotationsOf_stored (policy : Policy) (version : Json) :
    annotationsOf (restamp policy.written version) = policy.annotations := by
  unfold annotationsOf Members.getD
  rw [find?_metadataOf_stored, if_neg (by decide), if_pos rfl, Option.getD_some,
    optionalMembers_obj]

/-- A policy is read from a record once its parts are. -/
theorem ofMembers_eq
    {record metadata spec annotations : Members}
    {target : TargetRef}
    {finalizers : List Json}
    (metadataRead : section? record "metadata" = .ok metadata)
    (specRead : section? record "spec" = .ok spec)
    (targetRead : TargetRef.ofJson (spec.getD "targetRef" (.obj [])) = .ok target)
    (finalizersRead :
      (metadata.getD "finalizers" .null).optionalEntries = .ok finalizers)
    (annotationsRead :
      (metadata.getD "annotations" .null).optionalMembers = .ok annotations) :
    ofMembers record = .ok
      { name := metadata.getD "name" (.str "")
        recordNamespace := metadata.getD "namespace" (.str "default")
        target := target
        document := documentOf (spec.getD "policy" (.str ""))
        deletionRequested := (metadata.getD "deletionTimestamp" .null).truthy
        finalizers := finalizers
        annotations := annotations
        uid := metadata.getD "uid" (.str "unknown")
        version := metadata.getD "resourceVersion" .null
        record := record } := by
  unfold ofMembers
  rw [specRead, metadataRead]
  dsimp only [Bind.bind, Except.bind]
  rw [targetRead, finalizersRead]
  dsimp only
  rw [annotationsRead]
  rfl

/--
A record whose metadata has other finalizers and annotations is read with those.
-/
theorem ofMembers_withMetadata
    {record metadata annotations : Members}
    {policy : Policy}
    {finalizers : List Json}
    (parsed : ofMembers record = .ok policy)
    (listed : Members.find? metadata "finalizers" = some (.arr finalizers))
    (annotated : Members.find? metadata "annotations" = some (.obj annotations))
    (kept :
      ∀ key, key ≠ "finalizers" → key ≠ "annotations" → key ≠ "resourceVersion" →
      Members.find? metadata key = Members.find? (metadataOf record) key) :
    ofMembers (withMetadata record metadata) =
      .ok
        { policy with
          finalizers := finalizers
          annotations := annotations
          version := metadata.getD "resourceVersion" .null
          record := withMetadata record metadata } := by
  obtain ⟨spec, specRead, parsed⟩ := exists_of_bind_ok parsed
  obtain ⟨before, metadataRead, parsed⟩ := exists_of_bind_ok parsed
  obtain ⟨target, targetRead, parsed⟩ := exists_of_bind_ok parsed
  obtain ⟨earlier, finalizersRead, parsed⟩ := exists_of_bind_ok parsed
  obtain ⟨noted, annotationsRead, parsed⟩ := exists_of_bind_ok parsed
  cases parsed
  obtain rfl := metadataOf_of_section? metadataRead
  have metadataNow : section? (withMetadata record metadata) "metadata" =
      .ok metadata := by
    unfold section? withMetadata Members.getD
    rw [Members.find?_set_same]
    rfl
  have specNow : section? (withMetadata record metadata) "spec" = .ok spec := by
    unfold section? Members.getD at specRead ⊢
    rw [withMetadata, Members.find?_set_other _ _ (by decide)]
    exact specRead
  have finalizersNow :
      (metadata.getD "finalizers" .null).optionalEntries = .ok finalizers := by
    rw [Members.getD, listed]
    exact optionalEntries_arr finalizers
  have annotationsNow :
      (metadata.getD "annotations" .null).optionalMembers = .ok annotations := by
    rw [Members.getD, annotated]
    exact optionalMembers_obj annotations
  rw [ofMembers_eq metadataNow specNow targetRead finalizersNow annotationsNow]
  simp [Members.getD, kept]

/--
A policy that is stored with other finalizers and annotations is read back with
them.
-/
theorem ofMembers_stored
    {record : Members}
    {policy : Policy}
    (parsed : ofMembers record = .ok policy)
    (finalizers : List Json)
    (annotations : Members)
    (version : Json) :
    let changed :=
      { policy with finalizers := finalizers, annotations := annotations }
    ofMembers (restamp changed.written version) =
      .ok { changed with
        version := version
        record := restamp changed.written version } := by
  intro changed
  have same : changed.record = record := (shows_of_ofMembers parsed).record_eq
  have found := find?_metadataOf_stored changed version
  have stored : restamp changed.written version =
      withMetadata record (metadataOf (restamp changed.written version)) := by
    unfold restamp written withMetadata
    rw [Members.set_set, same]
    simp [metadataOf, Members.find?_set_same]
  generalize metadataOf (restamp changed.written version) = metadata at found stored
  rw [stored]
  have reread :=
    ofMembers_withMetadata parsed (found "finalizers") (found "annotations")
    fun key notFinalizers notAnnotations notVersion => by
      rw [found, if_neg notVersion, if_neg notAnnotations,
        if_neg notFinalizers, same]
  rw [reread, Members.getD, found]
  rfl

/-! ## The finalizer of the operator -/

/-- Only the operator's finalizer is like it. -/
theorem alike_operatorFinalizer_iff (entry : Json) :
    entry.alike operatorFinalizer = true ↔ entry = operatorFinalizer :=
  Json.alike_str_iff entry _

/-- Behind the gate a live policy lists the operator's finalizer. -/
theorem mem_finalizers_gate_of_live
    {policy : Policy}
    (live : policy.deletionRequested = false) :
    operatorFinalizer ∈ policy.gate.finalizers := by
  unfold gate addFinalizer
  rw [if_neg (by simp [live])]
  split
  · rename_i carried
    obtain ⟨entry, member, same⟩ := List.any_eq_true.mp carried
    rw [← (alike_operatorFinalizer_iff entry).mp same]
    exact member
  · exact List.mem_append_right _ List.mem_cons_self

/-- The gate adds the finalizer to a live policy that lacks it, after all others. -/
theorem finalizers_gate_of_lacking
    {policy : Policy}
    (live : policy.deletionRequested = false)
    (lacking : operatorFinalizer ∉ policy.finalizers) :
    policy.gate.finalizers = policy.finalizers ++ [operatorFinalizer] := by
  have absent : policy.hasFinalizer operatorFinalizer = false := by
    rw [Bool.eq_false_iff]
    intro carried
    obtain ⟨entry, member, same⟩ := List.any_eq_true.mp carried
    rw [(alike_operatorFinalizer_iff entry).mp same] at member
    exact lacking member
  unfold gate addFinalizer
  rw [if_neg (by simp [live]), if_neg (by simp [absent])]

/-- Behind the gate a deleted policy does not list the operator's finalizer. -/
theorem not_mem_finalizers_gate_of_deleting
    {policy : Policy}
    (deleting : policy.deletionRequested = true) :
    operatorFinalizer ∉ policy.gate.finalizers := by
  unfold gate removeFinalizer
  rw [if_pos deleting]
  intro member
  have kept := (List.mem_filter.mp member).2
  rw [(alike_operatorFinalizer_iff operatorFinalizer).mpr rfl] at kept
  cases kept

/-- The gate changes the finalizers alone. -/
theorem gate_eq (policy : Policy) :
    policy.gate = { policy with finalizers := policy.gate.finalizers } := by
  unfold gate addFinalizer
  split
  · rfl
  · split <;> rfl

/-- A policy that the gate has nothing to change about. -/
theorem gate_eq_self
    {policy : Policy}
    (held :
      policy.deletionRequested = false → operatorFinalizer ∈ policy.finalizers)
    (released :
      policy.deletionRequested = true → operatorFinalizer ∉ policy.finalizers) :
    policy.gate = policy := by
  cases requested : policy.deletionRequested with
  | false =>
      have carried : policy.hasFinalizer operatorFinalizer = true :=
        List.any_eq_true.mpr
          ⟨_, held requested,
            (alike_operatorFinalizer_iff operatorFinalizer).mpr rfl⟩
      unfold gate addFinalizer
      rw [if_neg (by simp [requested]), if_pos carried]
  | true =>
      have kept :
          policy.finalizers.filter (fun entry => !entry.alike operatorFinalizer) =
          policy.finalizers := by
        apply List.filter_eq_self.mpr
        intro entry member
        rw [Bool.not_eq_true', Bool.eq_false_iff, ne_eq,
          alike_operatorFinalizer_iff]
        rintro rfl
        exact released requested member
      unfold gate removeFinalizer
      rw [if_pos requested, kept]

/-- The version of a policy that shows it changes nothing in the metadata. -/
theorem currentMetadata_eq
    {policy : Policy}
    {metadata : Members}
    (shown : policy.version = metadata.getD "resourceVersion" .null) :
    policy.currentMetadata metadata =
      (metadata.set "finalizers" (.arr policy.finalizers)).set "annotations"
        (.obj policy.annotations) := by
  unfold currentMetadata
  dsimp only
  split
  · rfl
  · rename_i different
    apply Members.set_of_find?
    rw [Members.find?_set_other _ _ (by decide),
      Members.find?_set_other _ _ (by decide)]
    cases found : Members.find? metadata "resourceVersion" with
    | none =>
        rw [Members.getD, found] at shown
        exact absurd shown different
    | some version =>
        rw [shown, Members.getD, found]
        rfl

/-- Folding a policy back into a record that already shows it changes nothing. -/
theorem written_eq_record
    {policy : Policy}
    (metadata : Members.find? policy.record "metadata" =
      some (.obj (metadataOf policy.record)))
    (finalizers : Members.find? (metadataOf policy.record) "finalizers" =
      some (.arr policy.finalizers))
    (annotations : Members.find? (metadataOf policy.record) "annotations" =
      some (.obj policy.annotations))
    (version : policy.version = versionOf policy.record) :
    policy.written = policy.record := by
  unfold written withMetadata
  rw [currentMetadata_eq version, Members.set_of_find? finalizers,
    Members.set_of_find? annotations, Members.set_of_find? metadata]

end PolicyReconciler.Policy

import PolicyReconciler.Proofs.Reconcile.Stages
import PolicyReconciler.Proofs.World.Stages

namespace PolicyReconciler.World

/-!
# Convergence

In a world without failures one reconcile brings the resource of a policy into the
auth state that the policy calls for, marks the record, and touches nothing else.
A second one finds everything in place, so it changes only the version.
-/

open Program Policy VpcLattice Reconcile PolicyStore

variable {Time State : Type} [TimeScale Time]
variable {operator : Operator Time}
variable {address : Address}
variable {record : Members}
variable {policy : Policy}
variable {kind : TargetKind}
variable {identifier : Json}

/--
Whether a record is a settled form of another: the finalizer stands as deletion
calls for, the annotation names the resource, and all else but the version is as
before.
-/
structure Settles
    (record : Members)
    (identifier : Json)
    (new : Members) :
    Prop where
  deleting : Deleting record →
    finalizersOf new = (finalizersOf record).filter fun entry =>
      !entry.alike operatorFinalizer
  held : ¬ Deleting record → Held record → finalizersOf new = finalizersOf record
  unheld : ¬ Deleting record → ¬ Held record →
    finalizersOf new = finalizersOf record ++ [operatorFinalizer]
  annotations :
    annotationsOf new = (annotationsOf record).set resourceAnnotation identifier
  metadata :
    ∀ key, key ≠ "finalizers" → key ≠ "annotations" → key ≠ "resourceVersion" →
    Members.find? (metadataOf new) key = Members.find? (metadataOf record) key
  others :
    ∀ key, key ≠ "metadata" → Members.find? new key = Members.find? record key

/-- A settled record keeps its address. -/
theorem Settles.addressOf_eq
    {new : Members}
    (settles : Settles record identifier new) :
    addressOf new = addressOf record := by
  unfold addressOf Members.getD
  rw [settles.metadata "namespace" (by decide) (by decide) (by decide),
    settles.metadata "name" (by decide) (by decide) (by decide)]

/-- The settled policy as it is stored is a settled form of its record. -/
theorem settles_stored
    (parsed : ofMembers record = .ok policy)
    (identifier version : Json) :
    Settles record identifier
      (restamp (settledPolicy policy identifier).written version) := by
  have shown := shows_of_ofMembers parsed
  have same : (settledPolicy policy identifier).record = record :=
    (gate_record policy).trans shown.record_eq
  have gated :
      finalizersOf (restamp (settledPolicy policy identifier).written version) =
      policy.gate.finalizers := by
    rw [finalizersOf_restamp, finalizersOf_written]
    rfl
  refine ⟨?_, ?_, ?_, ?_, ?_, ?_⟩
  · intro deleting
    rw [gated, gate, if_pos (shown.deleting_iff.mpr deleting), removeFinalizer,
      shown.finalizers_eq]
  · intro live held
    rw [gated, gate_eq_self, shown.finalizers_eq]
    · rw [shown.finalizers_eq]
      exact fun _ => held
    · exact fun requested => absurd (shown.deleting_iff.mp requested) live
  · intro live unheld
    rw [Held, ← shown.finalizers_eq] at unheld
    rw [gated, finalizers_gate_of_lacking _ unheld, shown.finalizers_eq]
    exact Bool.eq_false_iff.mpr fun requested =>
      live (shown.deleting_iff.mp requested)
  · rw [annotationsOf_stored, ← shown.annotations_eq]
    simp [settledPolicy, Policy.annotate]
  · intro key notFinalizers notAnnotations notVersion
    rw [find?_metadataOf_stored, if_neg notVersion, if_neg notAnnotations,
      if_neg notFinalizers, same]
  · intro key other
    rw [find?_stored _ _ other, same]

/-- Where the target of a policy is found, every course settles it. -/
theorem settled_of_replays
    {world last : World}
    {history : History}
    {outcome : Except Fault (ReconcileResult Nat)}
    (kubernetes : Limiter.turn operator.rates.kubernetes = .ok ())
    (lattice : Limiter.turn operator.rates.lattice = .ok ())
    (stored : world.records address = some record)
    (own : addressOf record = address)
    (parsed : ofMembers record = .ok policy)
    (supported : policy.target.kind = .str kind.text)
    (finds : world.Finds operator kind policy identifier)
    (accepted : resourceKindOf identifier = .ok (resourceKind kind))
    (course : Course operator address history outcome)
    (replays : Replays Answers world history last) :
    outcome = .ok settled ∧ ∃ version, last =
      (world.setAuth identifier (desired policy)).store address
        (restamp (settledPolicy policy identifier).written version) := by
  -- each stage has one answer in this world, which leaves the last course only
  cases course with
  | unread read | missing read =>
      obtain ⟨same, _⟩ := found_of_replays kubernetes stored parsed read replays
      cases same
  | unsupported read other =>
      obtain ⟨same, _⟩ := found_of_replays kubernetes stored parsed read replays
      cases same
      exact absurd supported (other kind)
  | targetMissing read supported' lookup | unresolved read supported' lookup =>
      obtain ⟨_, same, _⟩ :=
        looked_of_replays kubernetes lattice stored parsed supported finds
        read supported' lookup replays
      cases same
  | halted read supported' lookup change =>
      obtain ⟨middle, before, changes⟩ := replays.append_inv
      obtain ⟨rfl, same, rfl⟩ :=
        looked_of_replays kubernetes lattice stored parsed supported
        finds read supported' lookup before
      cases same
      obtain ⟨same, _⟩ := changed_of_replays lattice accepted change changes
      cases same
  | written read supported' lookup change write =>
      obtain ⟨final, before, writes⟩ := replays.append_inv
      obtain ⟨middle, looks, changes⟩ := before.append_inv
      obtain ⟨rfl, same, rfl⟩ :=
        looked_of_replays kubernetes lattice stored parsed supported
        finds read supported' lookup looks
      cases same
      obtain ⟨_, rfl⟩ := changed_of_replays lattice accepted change changes
      have shown := shows_of_ofMembers parsed
      have target : Address.mk (settledPolicy policy identifier).recordNamespace
          (settledPolicy policy identifier).name = address := by
        rw [← own, ← shown.address_eq]
        simp [settledPolicy, Policy.annotate]
      obtain ⟨_, versioned, _, _⟩ := settledPolicy_written identifier shown
      obtain ⟨rfl, version, rfl⟩ :=
        written_of_replays kubernetes (by rw [target]; exact stored)
          versioned write writes
      exact ⟨rfl, version, by rw [target]⟩

/-! ## Settled records -/

/-- Settling changes the finalizers and one annotation of a policy. -/
theorem settledPolicy_eq (policy : Policy) (identifier : Json) :
    settledPolicy policy identifier =
      { policy with
        finalizers := policy.gate.finalizers
        annotations := policy.annotations.set resourceAnnotation identifier } := by
  rw [settledPolicy, gate_eq]
  rfl

/-- A policy that is settled already is settled as it is. -/
theorem settledPolicy_eq_self
    (held :
      policy.deletionRequested = false → operatorFinalizer ∈ policy.finalizers)
    (released :
      policy.deletionRequested = true → operatorFinalizer ∉ policy.finalizers)
    (marked :
      policy.annotations.set resourceAnnotation identifier = policy.annotations) :
    settledPolicy policy identifier = policy := by
  rw [settledPolicy_eq, gate_eq_self held released, marked]

/--
A settled policy is read back from where it is stored, and settling it changes
nothing.
-/
theorem settledPolicy_again
    (parsed : ofMembers record = .ok policy)
    (identifier version : Json) :
    ∃ again,
      ofMembers (restamp (settledPolicy policy identifier).written version) =
        .ok again ∧
        again.target = policy.target ∧
          again.recordNamespace = policy.recordNamespace ∧
        desired again = desired policy ∧
        (settledPolicy again identifier).written =
          restamp (settledPolicy policy identifier).written version := by
  have found := find?_metadataOf_stored (settledPolicy policy identifier) version
  have metadata :=
    find?_metadata_restamp (settledPolicy policy identifier).written version
  have readBack := ofMembers_stored parsed policy.gate.finalizers
    (policy.annotations.set resourceAnnotation identifier) version
  dsimp only at readBack
  rw [← settledPolicy_eq] at readBack
  generalize restamp (settledPolicy policy identifier).written version = stored at *
  have held : policy.deletionRequested = false →
      operatorFinalizer ∈ policy.gate.finalizers :=
    mem_finalizers_gate_of_live
  have released : policy.deletionRequested = true →
      operatorFinalizer ∉ policy.gate.finalizers :=
    not_mem_finalizers_gate_of_deleting
  rw [settledPolicy_eq] at found
  refine ⟨_, readBack, rfl, rfl, rfl, ?_⟩
  have versioned : version = versionOf stored := by
    rw [versionOf, Members.getD, found]
    rfl
  rw [settledPolicy_eq_self]
  · exact written_eq_record metadata (found "finalizers")
      (found "annotations") versioned
  · exact held
  · exact released
  · exact Members.set_set _ _ _ _

/--
Where every call gets its turn and none fails, the target of a policy is found and
its identifier is one of the kind of its listing: a reconcile settles the policy.
The resource is in the auth state that the policy calls for, the record is settled,
and all other resources and records are as before.  Another reconcile after it
changes only the version of the record.
-/
theorem reconcile_converges
    {view : State → World}
    {handle : (effect : Effect Time) → State → effect.Reply × State}
    (shows : Program.Shows Answers view handle)
    (paced : ∀ api, Limiter.turn (operator.rates.of api) = .ok ())
    (start : State)
    (stored : (view start).records address = some record)
    (own : addressOf record = address)
    (parsed : ofMembers record = .ok policy)
    (supported : policy.target.kind = .str kind.text)
    (finds : (view start).Finds operator kind policy identifier)
    (accepted : resourceKindOf identifier = .ok (resourceKind kind)) :
    let first := (reconcile operator address).run handle start
    let second := (reconcile operator address).run handle first.2
    first.1 = .ok settled ∧ second.1 = .ok settled ∧
      ∃ new version, Settles record identifier new ∧
        view first.2 =
          ((view start).setAuth identifier (desired policy)).store address new ∧
        view second.2 = (view first.2).store address (restamp new version) := by
  intro first second
  have course : ∀ state, ∃ history,
      Course operator address history
        ((reconcile operator address).run handle state).1 ∧
        Replays Answers (view state) history
          (view ((reconcile operator address).run handle state).2) := by
    intro state
    obtain ⟨history, runs, replays⟩ :=
      shows.exists_runs (reconcile operator address) state
    exact ⟨history, (reconcile_meets operator address).of_runs runs, replays⟩
  obtain ⟨history, firstCourse, firstReplays⟩ := course start
  obtain ⟨succeeded, version, reached⟩ :=
    settled_of_replays (paced .kubernetes) (paced .lattice)
    stored own parsed supported finds accepted firstCourse firstReplays
  obtain ⟨again, readBack, sameTarget, sameNamespace, sameState, unchanged⟩ :=
    settledPolicy_again parsed identifier version
  have settles := settles_stored parsed identifier version
  generalize restamp (settledPolicy policy identifier).written version = new at *
  -- all that the first course relied on holds again where it has led
  obtain ⟨later, secondCourse, secondReplays⟩ := course first.2
  have pages : (view first.2).pages = (view start).pages := by
    rw [reached]
    rfl
  have findsAgain : (view first.2).Finds operator kind again identifier := by
    unfold Finds
    rw [pages, sameTarget, sameNamespace]
    exact finds
  obtain ⟨succeededAgain, next, reachedAgain⟩ :=
    settled_of_replays (paced .kubernetes)
    (paced .lattice) (by rw [reached, records_store_same])
      (settles.addressOf_eq.trans own) readBack
    (by rw [sameTarget, supported]) findsAgain accepted secondCourse secondReplays
  have inPlace : (view first.2).resources identifier = desired policy := by
    rw [reached, resources_store, resources_setAuth_same]
  refine ⟨succeeded, succeededAgain, new, next, settles, reached, ?_⟩
  rw [reachedAgain, sameState, unchanged, setAuth_of_eq inPlace]

/-! ## A world with a policy of a gateway -/

/-- A world that lists the network of the gateway and stores the live policy. -/
noncomputable def gatewayWorld : World :=
  World.store
    { resources := fun _ => ⟨noAuth, none⟩
      pages := fun _ _ =>
        .obj [("items",
          .arr [.obj [("name", .str "front"), ("id", gatewayNetwork)]])]
      records := fun _ => none }
    gatewayAddress (gatewayRecord "1" [])

/-- The gateway's record carries its address. -/
theorem gatewayWorld_own :
    ∀ address record, gatewayWorld.records address = some record →
      addressOf record = address :=
  own_store (fun _ _ impossible => (nomatch impossible)) rfl

theorem gatewayWorld_converges :
    let run := fun world =>
      (reconcile gatewayOperator gatewayAddress).run (World.handle (0 : Rat)) world
    let first := run gatewayWorld
    let second := run first.2
    first.1 = .ok settled ∧ second.1 = .ok settled ∧
      ∃ new version, Settles (gatewayRecord "1" []) gatewayNetwork new ∧
        first.2 = (gatewayWorld.setAuth gatewayNetwork
          ⟨signedRequests, some (.str "allow")⟩).store gatewayAddress new ∧
        second.2 = first.2.store gatewayAddress (restamp new version) := by
  have paced : ∀ api, Limiter.turn (gatewayOperator.rates.of api) = .ok () := by
    intro api
    cases api <;> rfl
  have finds : ∀ policy : Policy, policy.target.name = .str "front" →
      gatewayWorld.Finds gatewayOperator .gateway policy gatewayNetwork := by
    intro policy named
    exact ⟨.str "front", _, 1, congrArg Except.ok named,
      .last rfl rfl, by decide, rfl⟩
  exact reconcile_converges (shows_handle 0) paced gatewayWorld
    records_store_same rfl rfl rfl
    (finds _ rfl) rfl

end PolicyReconciler.World

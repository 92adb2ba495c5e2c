import PolicyReconciler.Proofs.Policy.Record

namespace PolicyReconciler.Policy

/-!
# Finalizers under the gate

The finalizers of a policy may be added, removed, asked for and sent through the
gate any number of times, while its deletion is requested or withdrawn.  Each step
changes the entries of one finalizer only, and adds none where there is one already,
so all other entries stay in their order.

The gate settles the operator's finalizer.  A settled finalizer stays as it is until
a step on it, or a change of the deletion, calls for another state.
-/

/-- A step of work on the finalizers of a policy, or a change of its deletion. -/
inductive Step where
  | add (finalizer : String)
  | remove (finalizer : String)
  | ask (finalizer : String)
  | gate
  | request (deletion : Bool)

namespace Step

/-- A policy after a step. -/
def apply (policy : Policy) : Step → Policy
  | .add finalizer => policy.addFinalizer (.str finalizer)
  | .remove finalizer => policy.removeFinalizer (.str finalizer)
  | .ask _ => policy
  | .gate => policy.gate
  | .request deletion => { policy with deletionRequested := deletion }

/-- The finalizer that a step is given. -/
def argument? : Step → Option String
  | .add finalizer | .remove finalizer | .ask finalizer => some finalizer
  | .gate | .request _ => none

/-- The finalizer whose entries a step may change. -/
def target? : Step → Option Json
  | .add finalizer | .remove finalizer => some (.str finalizer)
  | .gate => some operatorFinalizer
  | .ask _ | .request _ => none

/--
Whether a step leaves the operator's finalizer to the gate, and the deletion as it
is.
-/
def Leaves (deletion : Bool) : Step → Prop
  | .add finalizer | .remove finalizer => .str finalizer ≠ operatorFinalizer
  | .request requested => requested = deletion
  | .ask _ | .gate => True

end Step

/-- A policy after some steps, the first one first. -/
def after (policy : Policy) (steps : List Step) : Policy :=
  steps.foldl Step.apply policy

/-- How many entries of a policy are a finalizer. -/
def occurrences (policy : Policy) (finalizer : String) : Nat :=
  policy.finalizers.countP fun entry => entry.alike (.str finalizer)

/--
Whether an entry is neither the operator's finalizer nor one that a step is given.
-/
def isUnnamed (steps : List Step) (entry : Json) : Bool :=
  !entry.alike operatorFinalizer &&
    (steps.filterMap Step.argument?).all fun finalizer =>
      !entry.alike (.str finalizer)

/-- The entries that are the operator's finalizer. -/
def operatorEntries (policy : Policy) : List Json :=
  policy.finalizers.filter fun entry => entry.alike operatorFinalizer

variable {policy : Policy}
variable {kept : Json → Bool}

/-! ## Adding and removing -/

/-- A finalizer is carried exactly if it is listed. -/
theorem hasFinalizer_iff (policy : Policy) (finalizer : String) :
    policy.hasFinalizer (.str finalizer) = true ↔
      .str finalizer ∈ policy.finalizers := by
  simp only [hasFinalizer, List.any_eq_true, Json.alike_str_iff]
  exact ⟨fun ⟨_, inside, same⟩ => same ▸ inside, fun inside => ⟨_, inside, rfl⟩⟩

/-- Adding a finalizer keeps the others in their order. -/
theorem filter_addFinalizer
    {finalizer : String}
    (dropped : kept (.str finalizer) = false) :
    (policy.addFinalizer (.str finalizer)).finalizers.filter kept =
      policy.finalizers.filter kept := by
  unfold addFinalizer
  split
  · rfl
  · simp [dropped]

/-- Removing a finalizer keeps the others in their order. -/
theorem filter_removeFinalizer
    {finalizer : String}
    (dropped : kept (.str finalizer) = false) :
    (policy.removeFinalizer (.str finalizer)).finalizers.filter kept =
      policy.finalizers.filter kept := by
  unfold removeFinalizer
  rw [List.filter_filter]
  apply List.filter_congr
  intro entry _
  cases isRemoved : entry.alike (.str finalizer) with
  | false =>
      simp
  | true =>
      rw [(Json.alike_str_iff entry finalizer).mp isRemoved, dropped]
      rfl

/-- Adding a finalizer lists none twice that was listed once. -/
theorem occurrences_addFinalizer_le (policy : Policy) (added finalizer : String) :
    (policy.addFinalizer (.str added)).occurrences finalizer ≤
      max (policy.occurrences finalizer) 1 := by
  unfold addFinalizer
  split
  · exact Nat.le_max_left _ 1
  rename_i absent
  simp only [occurrences, List.countP_append, List.countP_singleton]
  split
  · rename_i same
    obtain rfl : added = finalizer :=
      Json.str.inj ((Json.alike_str_iff _ _).mp same)
    -- The finalizer that is added is not there yet.
    have none_before :
        policy.finalizers.countP (fun entry => entry.alike (.str added)) = 0 := by
      rw [List.countP_eq_zero]
      intro entry inside carried
      exact absent (List.any_eq_true.mpr ⟨entry, inside, carried⟩)
    rw [none_before]
    exact Nat.le_max_right 0 1
  · exact Nat.le_max_left _ 1

/-- Removing a finalizer lists none more often. -/
theorem occurrences_removeFinalizer_le
    (policy : Policy)
    (removed finalizer : String) :
    (policy.removeFinalizer (.str removed)).occurrences finalizer ≤
      policy.occurrences finalizer :=
  List.Sublist.countP_le List.filter_sublist

/-! ## One step -/

/-- A step keeps all entries but those of its target, in their order. -/
theorem Step.filter_apply
    (step : Step)
    (policy : Policy)
    (dropped :
      ∀ finalizer, step.target? = some finalizer → kept finalizer = false) :
    (step.apply policy).finalizers.filter kept = policy.finalizers.filter kept := by
  cases step with
  | add finalizer =>
      exact filter_addFinalizer (dropped _ rfl)
  | remove finalizer =>
      exact filter_removeFinalizer (dropped _ rfl)
  | ask _ | request _ =>
      rfl
  | gate =>
      change policy.gate.finalizers.filter kept = _
      unfold Policy.gate
      split
      · exact filter_removeFinalizer (dropped _ rfl)
      · exact filter_addFinalizer (dropped _ rfl)

/-- No step lists a finalizer twice that was listed once. -/
theorem Step.occurrences_apply_le
    (step : Step)
    (policy : Policy)
    (finalizer : String) :
    (step.apply policy).occurrences finalizer ≤
      max (policy.occurrences finalizer) 1 := by
  cases step with
  | add added =>
      exact occurrences_addFinalizer_le policy added finalizer
  | remove removed =>
      exact Nat.le_trans (occurrences_removeFinalizer_le policy removed finalizer)
        (Nat.le_max_left _ 1)
  | ask _ | request _ =>
      exact Nat.le_max_left _ 1
  | gate =>
      change policy.gate.occurrences finalizer ≤ _
      unfold Policy.gate
      split
      · exact Nat.le_trans (occurrences_removeFinalizer_le policy _ finalizer)
          (Nat.le_max_left _ 1)
      · exact occurrences_addFinalizer_le policy _ finalizer

/-! ## The gate -/

/-- Behind the gate the operator's finalizer is listed exactly on a live record. -/
theorem mem_finalizers_gate_iff (policy : Policy) :
    operatorFinalizer ∈ policy.gate.finalizers ↔
      policy.deletionRequested = false := by
  cases requested : policy.deletionRequested with
  | false =>
      simpa using mem_finalizers_gate_of_live requested
  | true =>
      simpa using not_mem_finalizers_gate_of_deleting requested

/-- A policy whose operator's finalizer is in the state that deletion calls for. -/
def Settled (policy : Policy) : Prop :=
  operatorFinalizer ∈ policy.finalizers ↔ policy.deletionRequested = false

/-- The gate leaves a settled policy as it is. -/
theorem Settled.gate_eq
    (settled : policy.Settled) :
    policy.gate = policy :=
  gate_eq_self settled.mpr fun requested inside =>
    absurd (settled.mp inside) (by simp [requested])

/-- Behind the gate a policy is settled. -/
theorem settled_gate (policy : Policy) : policy.gate.Settled := by
  have requested : policy.gate.deletionRequested = policy.deletionRequested := by
    rw [Policy.gate_eq]
  rw [Settled, mem_finalizers_gate_iff, requested]

theorem mem_operatorEntries_iff (policy : Policy) :
    operatorFinalizer ∈ policy.operatorEntries ↔
      operatorFinalizer ∈ policy.finalizers := by
  simp [operatorEntries, alike_operatorFinalizer_iff]

/--
A settled policy stays settled, with the same entries of the operator's finalizer.
-/
theorem Settled.apply
    {step : Step}
    (settled : policy.Settled)
    (leaves : step.Leaves policy.deletionRequested) :
    (step.apply policy).deletionRequested = policy.deletionRequested ∧
      (step.apply policy).operatorEntries = policy.operatorEntries := by
  cases step with
  | add finalizer =>
      refine ⟨?_, filter_addFinalizer ?_⟩
      · change (policy.addFinalizer (.str finalizer)).deletionRequested = _
        unfold addFinalizer
        split <;> rfl
      · rw [Bool.eq_false_iff, ne_eq, alike_operatorFinalizer_iff]
        exact leaves
  | remove finalizer =>
      refine ⟨rfl, filter_removeFinalizer ?_⟩
      rw [Bool.eq_false_iff, ne_eq, alike_operatorFinalizer_iff]
      exact leaves
  | ask _ =>
      exact ⟨rfl, rfl⟩
  | gate =>
      have same : Step.gate.apply policy = policy := settled.gate_eq
      rw [same]
      exact ⟨rfl, rfl⟩
  | request requested =>
      exact ⟨leaves, rfl⟩

/-! ## Runs of steps -/

/-- Steps keep the finalizers that they are not about, in their order. -/
theorem filter_after
    (steps : List Step)
    (policy : Policy)
    (dropped : ∀ step ∈ steps, ∀ finalizer, step.target? = some finalizer →
      kept finalizer = false) :
    (policy.after steps).finalizers.filter kept =
      policy.finalizers.filter kept := by
  induction steps generalizing policy with
  | nil =>
      rfl
  | cons step rest inductionHypothesis =>
      obtain ⟨first, others⟩ := List.forall_mem_cons.mp dropped
      exact (inductionHypothesis _ others).trans (step.filter_apply policy first)

/-- No number of steps lists a finalizer twice that was listed once. -/
theorem occurrences_after_le
    (steps : List Step)
    (policy : Policy)
    (finalizer : String) :
    (policy.after steps).occurrences finalizer ≤
      max (policy.occurrences finalizer) 1 := by
  induction steps generalizing policy with
  | nil =>
      exact Nat.le_max_left _ 1
  | cons step rest inductionHypothesis =>
      calc (policy.after (step :: rest)).occurrences finalizer
          ≤ max ((step.apply policy).occurrences finalizer) 1 :=
        inductionHypothesis _
        _ ≤ max (policy.occurrences finalizer) 1 :=
          Nat.max_le.mpr ⟨step.occurrences_apply_le policy finalizer,
            Nat.le_max_right _ 1⟩

/-- Steps that leave the operator's finalizer to the gate keep a policy settled. -/
theorem Settled.after
    {steps : List Step}
    (settled : policy.Settled)
    (leave : ∀ step ∈ steps, step.Leaves policy.deletionRequested) :
    (policy.after steps).Settled ∧
      (policy.after steps).operatorEntries = policy.operatorEntries := by
  induction steps generalizing policy with
  | nil =>
      exact ⟨settled, rfl⟩
  | cons step rest inductionHypothesis =>
      obtain ⟨first, others⟩ := List.forall_mem_cons.mp leave
      obtain ⟨requested, entries⟩ := settled.apply first
      have next : (step.apply policy).Settled := by
        rw [Settled, ← mem_operatorEntries_iff, entries,
          mem_operatorEntries_iff, requested]
        exact settled
      obtain ⟨last, same⟩ := inductionHypothesis next (requested.symm ▸ others)
      exact ⟨last, same.trans entries⟩

/--
The target of a step among others is the operator's finalizer or given to a step.
-/
theorem isUnnamed_target
    {steps : List Step}
    {step : Step}
    {finalizer : Json}
    (inside : step ∈ steps)
    (target : step.target? = some finalizer) :
    isUnnamed steps finalizer = false := by
  have given :
      ∀ name, step.argument? = some name → isUnnamed steps (.str name) = false := by
    intro name isArgument
    have listed : name ∈ steps.filterMap Step.argument? :=
      List.mem_filterMap.mpr ⟨step, inside, isArgument⟩
    rw [isUnnamed, Bool.and_eq_false_iff, List.all_eq_false]
    exact .inr ⟨name, listed, by simp [Json.alike_str_iff]⟩
  cases step with
  | add name | remove name =>
      cases target
      exact given name rfl
  | ask _ | request _ =>
      cases target
  | gate =>
      cases target
      rw [isUnnamed, (alike_operatorFinalizer_iff _).mpr rfl]
      rfl

/--
After any steps the entries that no step names are as before, no finalizer has
become more frequent, unless it is there once, and asking for one tells whether it
is there.  The gate then leaves the operator's finalizer on a live policy only, and
has nothing more to do.  This stays so, with the same entries of that finalizer,
until a step adds or removes it or changes the deletion.
-/
theorem finalizers_gated (policy : Policy) (steps : List Step) :
    (policy.after steps).finalizers.filter (isUnnamed steps) =
        policy.finalizers.filter (isUnnamed steps) ∧
      (∀ finalizer,
        (policy.after steps).occurrences finalizer ≤
          max (policy.occurrences finalizer) 1) ∧
      (∀ finalizer, (policy.after steps).hasFinalizer (.str finalizer) = true ↔
        .str finalizer ∈ (policy.after steps).finalizers) ∧
      (operatorFinalizer ∈ (policy.after steps).gate.finalizers ↔
        (policy.after steps).deletionRequested = false) ∧
      (policy.after steps).gate.gate = (policy.after steps).gate ∧
      ∀ later, (∀ step ∈ later,
        step.Leaves (policy.after steps).deletionRequested) →
        ((policy.after steps).gate.after later).operatorEntries =
            (policy.after steps).gate.operatorEntries ∧
          ((policy.after steps).gate.after later).gate =
            (policy.after steps).gate.after later := by
  refine ⟨?_, fun finalizer => ?_, hasFinalizer_iff _, ?_, ?_, fun later leave =>
    ?_⟩
  · exact filter_after steps policy fun step inside finalizer target =>
      isUnnamed_target inside target
  · exact occurrences_after_le steps policy finalizer
  · exact mem_finalizers_gate_iff _
  · exact (settled_gate _).gate_eq
  · have requested : (policy.after steps).gate.deletionRequested =
        (policy.after steps).deletionRequested := by
      rw [Policy.gate_eq]
    obtain ⟨settled, entries⟩ :=
      (settled_gate (policy.after steps)).after (requested ▸ leave)
    exact ⟨entries, settled.gate_eq⟩

/--
A policy with entries of the operator's finalizer and of another one twice each.
-/
def doublyHeld : Policy where
  name := .str "entrance"
  recordNamespace := .str "shop"
  target := ⟨.str "Gateway", .str "front", .null⟩
  document := "allow"
  deletionRequested := false
  finalizers := [.str "a", operatorFinalizer, .str "b", .str "a", operatorFinalizer]
  annotations := []
  uid := .str "unknown"
  version := .null
  record := []

/-- Some steps, among them a gate and a request to delete. -/
def doublySteps : List Step :=
  [.gate, .add "c", .remove "a", .ask "b", .add "c", .request true]

theorem finalizers_gated_doublyHeld :
    (∀ step ∈ [Step.add "d", .gate, .request true], step.Leaves true) ∧
      (doublyHeld.after doublySteps).gate.finalizers = [.str "b", .str "c"] ∧
      (((doublyHeld.after doublySteps).gate.after
          [.add "d", .gate, .request true]).operatorEntries = [] ∧
        ((doublyHeld.after doublySteps).gate.after
          [.add "d", .gate, .request true]).gate =
          (doublyHeld.after doublySteps).gate.after
            [.add "d", .gate, .request true]) := by
  have leave : ∀ step ∈ [Step.add "d", .gate, .request true],
      step.Leaves (doublyHeld.after doublySteps).deletionRequested := by
    have other :
        (Step.add "d").Leaves (doublyHeld.after doublySteps).deletionRequested := by
      simp [Step.Leaves, operatorFinalizer]
    exact List.forall_mem_cons.mpr
      ⟨other, List.forall_mem_cons.mpr ⟨trivial, List.forall_mem_singleton.mpr rfl⟩⟩
  obtain ⟨-, -, -, -, -, stays⟩ := finalizers_gated doublyHeld doublySteps
  exact ⟨leave, rfl, stays _ leave⟩

end PolicyReconciler.Policy

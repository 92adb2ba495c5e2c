import PolicyReconciler.Proofs.Reconcile.Demand
import PolicyReconciler.Proofs.World.Convergence
import PolicyReconciler.Proofs.World.Resources

namespace PolicyReconciler.World

/-!
# Compliance

Resources comply with a record if none of the changes that the record demands would
change them any more.  These changes commute and repeat without effect, so resources
that they have led to compliance are the same, however often and in whatever order
they were made.  Records with one intent demand the same changes.
-/

open Program Policy VpcLattice Reconcile PolicyStore

variable {Time : Type}
variable {operator : Operator Time}
variable {pages : Pages}
variable {record : Members}
variable {policy : Policy}
variable {identifier : Json}
variable {resources first second : Resources}
variable {call other : Call}

/-! ## Intents -/

/-- What a record is about: a target, and the auth state that it calls for there. -/
structure Intent where
  target : TargetRef
  recordNamespace : Json
  state : AuthState

/-- The intent of a record, if a policy can be read from it. -/
def intentOf (record : Members) : Option Intent :=
  match ofMembers record with
  | .ok policy => some ⟨policy.target, policy.recordNamespace, desired policy⟩
  | .error _ => none

/-- The intent of a record that can be read. -/
theorem intentOf_eq
    (parsed : ofMembers record = .ok policy) :
    intentOf record =
      some ⟨policy.target, policy.recordNamespace, desired policy⟩ := by
  unfold intentOf
  rw [parsed]

/--
Whether two records have the same spec, are both being deleted or both live, and
have metadata from which a policy can be read, if one of them has.
-/
structure SameSpec (new old : Members) : Prop where
  spec : Members.find? new "spec" = Members.find? old "spec"
  deletion : Deleting new ↔ Deleting old
  readable : (∃ policy, ofMembers new = .ok policy) ↔
    ∃ policy, ofMembers old = .ok policy

/--
The intent of a record depends on its address, its spec and its deletion alone.
-/
theorem intentOf_eq_of_sameSpec
    {old new : Members}
    (same : SameSpec new old)
    (atHome : addressOf new = addressOf old) :
    intentOf new = intentOf old := by
  have sections : section? new "spec" = section? old "spec" := by
    rw [section?, section?, Members.getD, Members.getD, same.spec]
  cases parsed : ofMembers old with
  | error fault =>
      cases readBack : ofMembers new with
      | error other =>
          rw [intentOf, intentOf, parsed, readBack]
      | ok again =>
          obtain ⟨policy, impossible⟩ := same.readable.mp ⟨again, readBack⟩
          cases parsed.symm.trans impossible
  | ok policy =>
      obtain ⟨again, readBack⟩ := same.readable.mpr ⟨policy, parsed⟩
      have shown := shows_of_ofMembers parsed
      have shownAgain := shows_of_ofMembers readBack
      obtain ⟨spec, read, target, document⟩ := spec_of_ofMembers parsed
      obtain ⟨spec', read', target', document'⟩ := spec_of_ofMembers readBack
      obtain rfl := Except.ok.inj (read.symm.trans (sections.symm.trans read'))
      have sameTarget : again.target = policy.target :=
        Except.ok.inj (target'.symm.trans target)
      have sameSpace : again.recordNamespace = policy.recordNamespace := by
        have addresses :=
          shownAgain.address_eq.trans (atHome.trans shown.address_eq.symm)
        exact congrArg Address.recordNamespace addresses
      have sameDeletion : again.deletionRequested = policy.deletionRequested := by
        rw [Bool.eq_iff_iff, shownAgain.deleting_iff,
          shown.deleting_iff, same.deletion]
      rw [intentOf_eq parsed, intentOf_eq readBack, sameTarget, sameSpace,
        desired, desired, sameDeletion, document, document']

/--
The plan for a resource depends on the auth state alone that a policy calls for.
-/
theorem plan_eq_of_desired
    {again : Policy}
    (same : desired again = desired policy) :
    plan again identifier = plan policy identifier := by
  unfold desired at same
  unfold plan
  split_ifs at same ⊢ with leaving leaves
  · rfl
  · cases congrArg AuthState.policy same
  · cases congrArg AuthState.policy same
  · have document := Option.some.inj (congrArg AuthState.policy same)
    rw [document]

/-- A record of the same intent can be read as well. -/
theorem exists_of_intentOf
    {old new : Members}
    (same : intentOf new = intentOf old)
    (parsed : ofMembers old = .ok policy) :
    ∃ again, ofMembers new = .ok again ∧ again.target = policy.target ∧
      again.recordNamespace = policy.recordNamespace ∧
        desired again = desired policy := by
  rw [intentOf_eq parsed] at same
  unfold intentOf at same
  split at same
  · rename_i again readBack
    obtain ⟨target, space, state⟩ := Intent.mk.inj (Option.some.inj same)
    exact ⟨again, readBack, target, space, state⟩
  · cases same

/-- Policies with the same target stand for the same resource. -/
theorem targets_of_same
    {again : Policy}
    (target : again.target = policy.target)
    (space : again.recordNamespace = policy.recordNamespace)
    (targets : Targets operator pages policy identifier) :
    Targets operator pages again identifier := by
  obtain ⟨kind, supported, finds⟩ := targets
  exact ⟨kind, by rw [target, supported], by rw [target, space, finds]⟩

/-- Records with the same intent demand the same changes. -/
theorem demands_of_intentOf
    {old new : Members}
    (same : intentOf new = intentOf old)
    (demands : Demands operator pages old call) :
    Demands operator pages new call := by
  obtain ⟨policy, identifier, earlier, later, parsed, targets, planned⟩ := demands
  obtain ⟨again, readBack, target, space, state⟩ := exists_of_intentOf same parsed
  refine ⟨again, identifier, earlier, later, readBack,
    targets_of_same target space targets, ?_⟩
  rw [plan_eq_of_desired state, planned]

/-- The form that a record is written back in has the intent of the record. -/
theorem intentOf_rewritten
    {body : Members}
    (rewrites : Rewrites operator pages record body)
    (version : Json) :
    intentOf (restamp body version) = intentOf record := by
  obtain ⟨policy, identifier, parsed, _, _, rfl⟩ := rewrites
  obtain ⟨again, readBack, target, space, state, _⟩ :=
    settledPolicy_again parsed identifier version
  rw [intentOf_eq parsed, intentOf_eq readBack, target, space, state]

/-- A record that was written back is written back in the same form again. -/
theorem rewrites_again
    {body other : Members}
    {version : Json}
    (rewrites : Rewrites operator pages record body)
    (again : Rewrites operator pages (restamp body version) other) :
    other = restamp body version := by
  obtain ⟨policy, identifier, parsed, targets, _, rfl⟩ := rewrites
  obtain ⟨settled, readBack, target, space, _, unchanged⟩ :=
    settledPolicy_again parsed identifier version
  obtain ⟨policy', identifier', parsed', targets', _, rfl⟩ := again
  obtain rfl := Except.ok.inj (readBack.symm.trans parsed')
  have same := (targets_of_same target space targets).unique targets'
  rw [← same, unchanged]

/-! ## Changes of one record -/

open scoped Classical in
/-- A planned call sets one part of the resource to what the policy calls for. -/
theorem applied_of_planned
    (planned : .ok call ∈ plan policy identifier) :
    (∀ resources, applied call resources = Function.update resources identifier
      ⟨(desired policy).authType, (resources identifier).policy⟩) ∨
    ∀ resources, applied call resources = Function.update resources identifier
      ⟨(resources identifier).authType, (desired policy).policy⟩ := by
  unfold plan at planned
  unfold desired
  split_ifs at planned ⊢
  · rcases List.mem_cons.mp planned with isDelete | isChange
    · cases isDelete
      exact .inr fun _ => rfl
    · obtain ⟨kind, _, rfl⟩ :=
        eq_of_typeChange_ok (List.mem_singleton.mp isChange).symm
      exact .inl fun _ => rfl
  · rcases List.mem_cons.mp planned with isChange | isPut
    · obtain ⟨kind, _, rfl⟩ := eq_of_typeChange_ok isChange.symm
      exact .inl fun _ => rfl
    · cases List.mem_singleton.mp isPut
      exact .inr fun _ => rfl

/-- A demanded call is a step of the record's plan. -/
theorem Demands.exists_planned
    (demands : Demands operator pages record call) :
    ∃ policy identifier, ofMembers record = .ok policy ∧
      Targets operator pages policy identifier ∧
        .ok call ∈ plan policy identifier := by
  obtain ⟨policy, identifier, earlier, later, parsed, targets, planned⟩ := demands
  refine ⟨policy, identifier, parsed, targets, ?_⟩
  rw [planned]
  exact List.mem_append_right _ List.mem_cons_self

/-- Demanding a change twice changes nothing more. -/
theorem applied_again
    (demands : Demands operator pages record call)
    (resources : Resources) :
    applied call (applied call resources) = applied call resources := by
  obtain ⟨policy, identifier, _, _, planned⟩ := Demands.exists_planned demands
  rcases applied_of_planned planned with effect | effect
  · simp [effect]
  · simp [effect]

/-- Demanded changes can be made in either order. -/
theorem applied_comm
    (demands : Demands operator pages record call)
    (others : Demands operator pages record other)
    (resources : Resources) :
    applied call (applied other resources) =
      applied other (applied call resources) := by
  obtain ⟨policy, identifier, parsed, targets, planned⟩ :=
    Demands.exists_planned demands
  obtain ⟨policy', identifier', parsed', targets', planned'⟩ :=
    Demands.exists_planned others
  obtain rfl := Except.ok.inj (parsed.symm.trans parsed')
  obtain rfl := targets.unique targets'
  rcases applied_of_planned planned with effect | effect
  · rcases applied_of_planned planned' with effect' | effect'
    · simp [effect, effect']
    · simp [effect, effect']
  · rcases applied_of_planned planned' with effect' | effect'
    · simp [effect, effect']
    · simp [effect, effect']

/-- Looking and writing leave the resources alone. -/
theorem applied_of_looks_or_writes
    (silent : Looks call ∨ Writes call)
    (resources : Resources) :
    applied call resources = resources := by
  rcases silent with (⟨_, _, rfl⟩ | ⟨_, _, rfl⟩) | ⟨_, _, _, rfl⟩ <;> rfl

/-- A world takes every planned call. -/
theorem taken_of_planned
    {world after : World}
    {answer : Except Fault Json}
    (planned : .ok call ∈ plan policy identifier)
    (answered : Answers world call answer after) :
    verdict call answer = .ok () ∧
      after.resources = applied call world.resources := by
  unfold plan at planned
  split_ifs at planned
  · rcases List.mem_cons.mp planned with isDelete | isChange
    · cases isDelete
      obtain ⟨taken, rfl⟩ := deleteAuthPolicy_taken answered
      exact ⟨taken, rfl⟩
    · obtain ⟨kind, named, rfl⟩ :=
        eq_of_typeChange_ok (List.mem_singleton.mp isChange).symm
      obtain ⟨taken, rfl⟩ := setAuthType_taken named answered
      exact ⟨taken, rfl⟩
  · rcases List.mem_cons.mp planned with isChange | isPut
    · obtain ⟨kind, named, rfl⟩ := eq_of_typeChange_ok isChange.symm
      obtain ⟨taken, rfl⟩ := setAuthType_taken named answered
      exact ⟨taken, rfl⟩
    · cases List.mem_singleton.mp isPut
      obtain ⟨taken, rfl⟩ := putAuthPolicy_taken answered
      exact ⟨taken, rfl⟩

/-! ## Many changes -/

/-- The resources after some calls that have taken effect, one after the other. -/
noncomputable def appliedAll
    (calls : List Call)
    (resources : Resources) :
    Resources :=
  calls.foldl (fun current call => applied call current) resources

/-- A demanded change can be made before others or behind them. -/
theorem applied_appliedAll
    {calls : List Call}
    (demands : Demands operator pages record call)
    (others : ∀ other ∈ calls, Demands operator pages record other)
    (resources : Resources) :
    applied call (appliedAll calls resources) =
      appliedAll calls (applied call resources) := by
  induction calls generalizing resources with
  | nil =>
      rfl
  | cons first rest inductionHypothesis =>
      obtain ⟨isDemanded, restDemanded⟩ := List.forall_mem_cons.mp others
      have later := inductionHypothesis restDemanded (applied first resources)
      rw [applied_comm demands isDemanded] at later
      exact later

/--
Whether some resources have come from others by changes that a record demands.
-/
def Led
    (operator : Operator Time)
    (pages : Pages)
    (record : Members)
    (first last : Resources) : Prop :=
  ∃ calls, (∀ call ∈ calls, Demands operator pages record call) ∧
    last = appliedAll calls first

/-- Whether nothing that a record demands would change some resources any more. -/
def Complies
    (operator : Operator Time)
    (pages : Pages)
    (record : Members)
    (resources : Resources) : Prop :=
  ∀ call, Demands operator pages record call → applied call resources = resources

namespace Led

theorem refl
    (resources : Resources) :
    Led operator pages record resources resources :=
  ⟨[], by simp, rfl⟩

/-- Led twice is led. -/
theorem trans
    {third : Resources}
    (led : Led operator pages record first second)
    (onward : Led operator pages record second third) :
    Led operator pages record first third := by
  obtain ⟨calls, demanded, rfl⟩ := led
  obtain ⟨others, alsoDemanded, rfl⟩ := onward
  refine ⟨calls ++ others, ?_, ?_⟩
  · intro call inside
    rcases List.mem_append.mp inside with before | after
    · exact demanded call before
    · exact alsoDemanded call after
  · simp [appliedAll]

/-- A demanded change leads. -/
theorem single
    (demands : Demands operator pages record call)
    (resources : Resources) :
    Led operator pages record resources (applied call resources) :=
  ⟨[call], by simpa using demands, rfl⟩

/-- A change that is in effect stays so while the record's changes go on. -/
theorem keeps
    (led : Led operator pages record first second)
    (demands : Demands operator pages record call)
    (inEffect : applied call first = first) :
    applied call second = second := by
  obtain ⟨calls, demanded, rfl⟩ := led
  rw [applied_appliedAll demands demanded, inEffect]

end Led

/-- Changes that are all in effect change nothing. -/
theorem appliedAll_eq_self
    {calls : List Call}
    (complies : Complies operator pages record resources)
    (demanded : ∀ call ∈ calls, Demands operator pages record call) :
    appliedAll calls resources = resources := by
  induction calls with
  | nil =>
      rfl
  | cons call rest inductionHypothesis =>
      obtain ⟨isDemanded, restDemanded⟩ := List.forall_mem_cons.mp demanded
      have unchanged : appliedAll (call :: rest) resources =
          appliedAll rest (applied call resources) := rfl
      rw [unchanged, complies call isDemanded, inductionHypothesis restDemanded]

/-- Demanded changes can be made in any order. -/
theorem appliedAll_comm
    {calls others : List Call}
    (demanded : ∀ call ∈ calls, Demands operator pages record call)
    (alsoDemanded : ∀ call ∈ others, Demands operator pages record call)
    (resources : Resources) :
    appliedAll others (appliedAll calls resources) =
      appliedAll calls (appliedAll others resources) := by
  induction others generalizing resources with
  | nil =>
      rfl
  | cons call rest inductionHypothesis =>
      obtain ⟨isDemanded, restDemanded⟩ := List.forall_mem_cons.mp alsoDemanded
      have later := inductionHypothesis restDemanded (applied call resources)
      rw [← applied_appliedAll isDemanded demanded] at later
      exact later

/-- What a record demands leads from the same resources to one compliance only. -/
theorem Complies.unique
    {start : Resources}
    (complies : Complies operator pages record first)
    (led : Led operator pages record start first)
    (alsoComplies : Complies operator pages record second)
    (alsoLed : Led operator pages record start second) :
    first = second := by
  obtain ⟨calls, demanded, isFirst⟩ := led
  obtain ⟨others, alsoDemanded, isSecond⟩ := alsoLed
  calc first = appliedAll others first :=
    (appliedAll_eq_self complies alsoDemanded).symm
    _ = appliedAll calls second := by
      rw [isFirst, isSecond, appliedAll_comm demanded alsoDemanded]
    _ = second := appliedAll_eq_self alsoComplies demanded

end PolicyReconciler.World

import PolicyReconciler.Proofs.Accounting.Story
import PolicyReconciler.Proofs.Reconcile.Determined

namespace PolicyReconciler

/-!
# Events of a reconcile

The events of a reconcile tell what its exchanges show: the policy was applied or
removed where all its changes were made, the target was not found where the lookup
found nothing, and the target is not supported where the record names another kind.
Each of these is told once, and nothing is told twice.
-/

open Program VpcLattice PolicyStore

/-- Whether an event gives a reason. -/
def Event.hasReason (event : Event) (reason : String) : Bool :=
  match event.reason with
  | .str text => text == reason
  | _ => false

/--
Whether exactly one event gives a reason if a condition holds, and none if it does
not.
-/
def ToldOnce (events : List Event) (reason : String) (condition : Prop) : Prop :=
  (condition → events.countP (·.hasReason reason) = 1) ∧
    (¬ condition → events.countP (·.hasReason reason) = 0)

namespace ToldOnce

variable {events : List Event}
variable {reason : String}
variable {condition : Prop}

/-- What was told once was told under its condition. -/
theorem told
    (holds : condition)
    (once : events.countP (·.hasReason reason) = 1) :
    ToldOnce events reason condition :=
  ⟨fun _ => once, fun fails => absurd holds fails⟩

/-- What was never told needs no condition. -/
theorem untold
    (fails : ¬ condition)
    (never : events.countP (·.hasReason reason) = 0) :
    ToldOnce events reason condition :=
  ⟨fun holds => absurd holds fails, fun _ => never⟩

end ToldOnce

variable {Time : Type} [TimeScale Time]
variable {operator : Operator Time}

namespace Reconcile

variable {address : Address}
variable {policy : Policy}

/-! ## What exchanges show -/

/-- Whether both changes of a live policy were made, each with success. -/
def Attached (history : History) : Prop :=
  ∃ kind identifier document changed attached,
    ⟨.setAuthType kind identifier signedRequests, .ok changed⟩ ∈ history ∧
      ⟨.putAuthPolicy identifier document, .ok attached⟩ ∈ history

/--
Whether both changes of a policy that is being deleted were made, each with success.
-/
def Detached (history : History) : Prop :=
  ∃ kind identifier removed changed,
    ⟨.deleteAuthPolicy identifier, removed⟩ ∈ history ∧ Removed removed ∧
      ⟨.setAuthType kind identifier noAuth, .ok changed⟩ ∈ history

/--
Whether a supported policy was read, and the lookup of its target has found nothing.
-/
def FindsNoTarget
    (operator : Operator Time)
    (address : Address)
    (history : History) :
    Prop :=
  ∃ reads lookups policy kind, history = reads ++ lookups ∧
    Reading operator address readRetries reads (.ok (some policy)) ∧
    policy.target.kind = .str (TargetKind.text kind) ∧
    TargetLookup operator kind policy lookups (.ok none)

/-- Whether a policy was read whose target is of an unsupported kind. -/
def ReadsUnsupported
    (operator : Operator Time)
    (address : Address)
    (history : History) :
    Prop :=
  ∃ reads rest policy, history = reads ++ rest ∧
    Reading operator address readRetries reads (.ok (some policy)) ∧
    (∀ exchange ∈ rest, ¬ Reads exchange.call) ∧
    ∀ kind : TargetKind, policy.target.kind ≠ .str kind.text

/-- Whether attaching a policy was always answered by an object, if it succeeded. -/
def AnswersObjects (history : History) : Prop :=
  ∀ identifier document answer,
    ⟨.putAuthPolicy identifier document, .ok answer⟩ ∈ history →
    ∃ members, answer = .obj members

/-! ## Stages of a history -/

/-- A planned change lists nothing. -/
theorem not_lists_of_planned
    {kind : ResourceKind}
    {identifier : Json}
    {call : Call}
    (planned : .ok call ∈ plan policy identifier) :
    ¬ Lists kind call := by
  rintro ⟨token, rfl⟩
  rcases planned_call planned with ⟨_, disables⟩ | ⟨_, enables⟩
  · rcases disables with ⟨_, impossible⟩ | ⟨_, _, impossible⟩ <;> cases impossible
  · rcases enables with ⟨_, _, impossible⟩ | ⟨_, _, impossible⟩ <;> cases impossible

/-- Every exchange of a write-back replaces a record. -/
theorem writes_of_writeBack
    {writes : History}
    {result : Except Fault Unit}
    (write : WriteBack operator policy writes result) :
    ∀ exchange ∈ writes, Writes exchange.call := by
  cases write with
  | stalled halted =>
      simp
  | answered answer =>
      rintro exchange inside
      obtain rfl := List.mem_singleton.mp inside
      exact ⟨_, _, _, rfl⟩

/--
A run that finds no target read a policy of a known kind and looked its target up
in vain.
-/
theorem FindsNoTarget.of_read
    {reads rest : History}
    {result : Except Fault (Option Policy)}
    (finds : FindsNoTarget operator address (reads ++ rest))
    (read : Reading operator address readRetries reads result)
    (later : ∀ exchange ∈ rest, ¬ Reads exchange.call) :
    ∃ policy kind, result = .ok (some policy) ∧
      policy.target.kind = .str (TargetKind.text kind) ∧
      TargetLookup operator kind policy rest (.ok none) := by
  obtain ⟨reads', lookups, policy, kind, same, read', supported, lookup⟩ := finds
  obtain ⟨rfl, rfl⟩ :=
    append_inj_of_forall (fun exchange => Reads exchange.call) same
    (fun exchange inside => by rw [read.reads exchange inside]; exact ⟨_, _, rfl⟩)
    (fun exchange inside => by rw [read'.reads exchange inside]; exact ⟨_, _, rfl⟩)
    later (fun exchange inside => not_reads_of_lists (lookup.lists exchange inside))
  exact ⟨policy, kind, read.unique read', supported, lookup⟩

/-- A run that meets an unsupported target read a policy whose kind is unknown. -/
theorem ReadsUnsupported.of_read
    {reads rest : History}
    {result : Except Fault (Option Policy)}
    (unsupported : ReadsUnsupported operator address (reads ++ rest))
    (read : Reading operator address readRetries reads result)
    (later : ∀ exchange ∈ rest, ¬ Reads exchange.call) :
    ∃ policy, result = .ok (some policy) ∧
      ∀ kind : TargetKind, policy.target.kind ≠ .str kind.text := by
  obtain ⟨reads', rest', policy', same, read', later', other⟩ := unsupported
  obtain ⟨rfl, rfl⟩ :=
    append_inj_of_forall (fun exchange => Reads exchange.call) same
    (fun exchange inside => by rw [read.reads exchange inside]; exact ⟨_, _, rfl⟩)
    (fun exchange inside => by rw [read'.reads exchange inside]; exact ⟨_, _, rfl⟩)
    later later'
  exact ⟨policy', read.unique read', other⟩

/--
A lookup that was followed by calls that are no list calls has itself found what it
found.
-/
theorem not_findsNoTarget_of_lookup
    {reads lookups rest : History}
    {kind : TargetKind}
    {found : Except Fault (Option Json)}
    (read : Reading operator address readRetries reads (.ok (some policy)))
    (supported : policy.target.kind = .str kind.text)
    (lookup : TargetLookup operator kind policy lookups found)
    (unread : ∀ exchange ∈ rest, ¬ Reads exchange.call)
    (unlisted : ∀ exchange ∈ rest, ¬ Lists (resourceKind kind) exchange.call)
    (other : found ≠ .ok none) :
    ¬ FindsNoTarget operator address (reads ++ (lookups ++ rest)) := by
  intro finds
  have later : ∀ exchange ∈ lookups ++ rest, ¬ Reads exchange.call := by
    intro exchange inside
    rcases List.mem_append.mp inside with listed | last
    · exact not_reads_of_lists (lookup.lists exchange listed)
    · exact unread exchange last
  obtain ⟨_, kind', ⟨⟩, supported', lookup'⟩ := finds.of_read read later
  obtain rfl := eq_of_text supported supported'
  have whole : lookups ++ rest = (lookups ++ rest) ++ [] := (List.append_nil _).symm
  obtain ⟨same, -⟩ := append_inj_of_forall
    (fun exchange => Lists (resourceKind kind) exchange.call) whole
    lookup.lists lookup'.lists unlisted (by simp)
  rw [← same] at lookup'
  exact other (lookup.unique lookup')

/-- A policy of a known kind is not an unsupported one. -/
theorem not_readsUnsupported_of_supported
    {reads rest : History}
    {kind : TargetKind}
    (read : Reading operator address readRetries reads (.ok (some policy)))
    (supported : policy.target.kind = .str kind.text)
    (later : ∀ exchange ∈ rest, ¬ Reads exchange.call) :
    ¬ ReadsUnsupported operator address (reads ++ rest) := by
  intro unsupported
  obtain ⟨_, ⟨⟩, other⟩ := unsupported.of_read read later
  exact other kind supported

/-! ## Changes of a history -/

omit [TimeScale Time] in
/-- Without an enabling call nothing was attached. -/
theorem not_attached_of_forall
    {history : History}
    (unenabled : ∀ exchange ∈ history, ¬ Enables exchange.call) :
    ¬ Attached history := by
  rintro ⟨kind, identifier, document, changed, attached, set, put⟩
  exact unenabled _ put (.inr ⟨identifier, document, rfl⟩)

omit [TimeScale Time] in
/-- Without a disabling call nothing was detached. -/
theorem not_detached_of_forall
    {history : History}
    (undisabled : ∀ exchange ∈ history, ¬ Disables exchange.call) :
    ¬ Detached history := by
  rintro ⟨kind, identifier, removed, changed, delete, _, set⟩
  exact undisabled _ delete (.inl ⟨identifier, rfl⟩)

omit [TimeScale Time] in
/-- No call both enables and disables. -/
theorem not_disables_of_enables
    {call : Call}
    (enables : Enables call) :
    ¬ Disables call :=
  fun disables => not_enables_of_disables disables enables

omit [TimeScale Time] in
/-- Looking disables nothing. -/
theorem not_disables_of_looks
    {call : Call}
    (looks : Looks call) :
    ¬ Disables call := by
  rintro (⟨_, rfl⟩ | ⟨_, _, rfl⟩)
  · rcases looks with ⟨_, _, same⟩ | ⟨_, _, same⟩ <;> cases same
  · rcases looks with ⟨_, _, same⟩ | ⟨_, _, same⟩ <;> cases same

omit [TimeScale Time] in
/-- Writing a record enables nothing. -/
theorem not_enables_of_writes
    {call : Call}
    (writes : Writes call) :
    ¬ Enables call := by
  obtain ⟨_, _, _, rfl⟩ := writes
  rintro (⟨_, _, same⟩ | ⟨_, _, same⟩) <;> cases same

omit [TimeScale Time] in
/-- Writing a record disables nothing. -/
theorem not_disables_of_writes
    {call : Call}
    (writes : Writes call) :
    ¬ Disables call := by
  obtain ⟨_, _, _, rfl⟩ := writes
  rintro (⟨_, same⟩ | ⟨_, _, same⟩) <;> cases same

omit [TimeScale Time] in
/--
What enables lies among the changes, so a history is attached only by its changes.
-/
theorem Attached.of_subset
    {history changes : History}
    (attached : Attached history)
    (inside : ∀ exchange ∈ history, Enables exchange.call → exchange ∈ changes) :
    Attached changes := by
  obtain ⟨kind, identifier, document, changed, answer, set, put⟩ := attached
  exact ⟨kind, identifier, document, changed, answer,
    inside _ set (.inl ⟨kind, identifier, rfl⟩),
      inside _ put (.inr ⟨identifier, document, rfl⟩)⟩

omit [TimeScale Time] in
/-- What was detached was detached by the changes alone. -/
theorem Detached.of_subset
    {history changes : History}
    (detached : Detached history)
    (inside : ∀ exchange ∈ history, Disables exchange.call → exchange ∈ changes) :
    Detached changes := by
  obtain ⟨kind, identifier, removed, changed, delete, gone, set⟩ := detached
  exact ⟨kind, identifier, removed, changed,
    inside _ delete (.inl ⟨identifier, rfl⟩), gone,
    inside _ set (.inr ⟨kind, identifier, rfl⟩)⟩

/-- An attachment that was carried out made both changes. -/
theorem attached_of_carried
    {identifier document : Json}
    {changes : History}
    (carried : Carried operator (attachment identifier document) changes (.ok ())) :
    Attached changes := by
  obtain ⟨change, answer, later, isChange, rfl, changed, rest⟩ := carried.cons_inv
  obtain ⟨put, answer', last, isPut, rfl, taken, ended⟩ := rest.cons_inv
  obtain ⟨kind, _, rfl⟩ := eq_of_typeChange_ok isChange
  obtain ⟨body, rfl⟩ := exists_of_verdict_typeChange changed
  cases isPut
  cases answer' with
  | ok attached =>
      exact ⟨kind, identifier, document, body, attached, by simp, by simp⟩
  | error fault =>
      cases taken

/-- A carried detachment detaches. -/
theorem detached_of_carried
    {identifier : Json}
    {changes : History}
    (carried : Carried operator (detachment identifier) changes (.ok ())) :
    Detached changes := by
  obtain ⟨kind, removed, answer, _, rfl, gone⟩ := carried.detachment_inv
  exact ⟨kind, identifier, removed, answer, by simp, gone, by simp⟩

/-- An attachment that has failed did not make both changes. -/
theorem not_attached_of_carried
    {identifier document : Json}
    {changes : History}
    {fault : Fault}
    (carried :
      Carried operator (attachment identifier document) changes (.error fault))
    (objects : AnswersObjects changes) :
    ¬ Attached changes := by
  rintro ⟨kind, target, text, changed, attached, -, put⟩
  have first : ∀ call answer, typeChange identifier signedRequests = .ok call →
      (⟨.putAuthPolicy target text, .ok attached⟩ : Exchange) ≠ ⟨call, answer⟩ := by
    rintro call answer isChange same
    obtain ⟨kind, _, rfl⟩ := eq_of_typeChange_ok isChange
    cases same
  unfold attachment at carried
  generalize isChange : typeChange identifier signedRequests = step at carried
  cases carried with
  | impossible | stalled =>
      cases put
  | failed refused =>
      exact first _ _ isChange (List.mem_singleton.mp put)
  | onward taken later =>
      rcases List.mem_cons.mp put with isFirst | last
      · exact first _ _ isChange isFirst
      cases later with
      | stalled halted =>
          cases last
      | failed refused =>
          obtain ⟨members, rfl⟩ := objects _ _ _ put
          cases List.mem_singleton.mp last
          cases refused
      | onward taken' later' =>
          cases later'

/-- A detachment that has failed did not make both changes. -/
theorem not_detached_of_carried
    {identifier : Json}
    {changes : History}
    {fault : Fault}
    (carried : Carried operator (detachment identifier) changes (.error fault)) :
    ¬ Detached changes := by
  rintro ⟨kind, target, removed, changed, -, -, set⟩
  unfold detachment at carried
  generalize isChange : typeChange identifier noAuth = step at carried
  cases carried with
  | stalled halted =>
      cases set
  | failed refused =>
      cases List.mem_singleton.mp set
  | onward taken later =>
      rcases List.mem_cons.mp set with isFirst | last
      · cases isFirst
      cases later with
      | impossible | stalled =>
          cases last
      | failed refused =>
          cases List.mem_singleton.mp last
          cases refused
      | onward taken' later' =>
          cases later'

/-! ## Stories and their events -/

/-- Whether the events of a reconcile tell, once each, what its exchanges show. -/
structure Told (operator : Operator Time) (address : Address) (history : History)
    (events : List Event) : Prop where
  applied : ToldOnce events "AuthPolicyApplied" (Attached history)
  deleted : ToldOnce events "AuthPolicyDeleted" (Detached history)
  targetNotFound :
    ToldOnce events "TargetNotFound" (FindsNoTarget operator address history)
  unsupported :
    ToldOnce events "UnsupportedTarget" (ReadsUnsupported operator address history)

/-- Where a reconcile only read and looked up, it changed nothing. -/
theorem unchanged_of_looks
    {history : History}
    (looks : ∀ exchange ∈ history, Looks exchange.call) :
    ¬ Attached history ∧ ¬ Detached history :=
  ⟨not_attached_of_forall fun exchange inside =>
    not_enables_of_looks (looks exchange inside),
    not_detached_of_forall fun exchange inside =>
      not_disables_of_looks (looks exchange inside)⟩

omit [TimeScale Time] in
/-- The pipeline has nothing to tell of a fault that asks for no second try. -/
theorem pipelineNotices_of_not_asksAgain
    {fault : Fault}
    (plain : ¬ fault.AsksAgain) :
    pipelineNotices policy fault = [] := by
  cases fault <;> first | rfl | exact absurd trivial plain

omit [TimeScale Time] in
/-- The pipeline passes on a fault that asks for no second try. -/
theorem pipelineFailure_of_not_asksAgain
    {fault : Fault}
    (plain : ¬ fault.AsksAgain) :
    pipelineFailure fault = .error fault := by
  cases fault <;> first | rfl | exact absurd trivial plain

/--
A reconcile that ended with its read told whether that gave a policy it cannot
handle.
-/
theorem told_of_read
    {reads : History}
    {result : Except Fault (Option Policy)}
    {events : List Event}
    (read : Reading operator address readRetries reads result)
    (other : ∀ policy, result = .ok (some policy) →
      ∀ kind : TargetKind, policy.target.kind ≠ .str kind.text)
    (unapplied : events.countP (·.hasReason "AuthPolicyApplied") = 0)
    (undeleted : events.countP (·.hasReason "AuthPolicyDeleted") = 0)
    (unmissing : events.countP (·.hasReason "TargetNotFound") = 0)
    (refuses :
      ToldOnce events "UnsupportedTarget" (∃ policy, result = .ok (some policy))) :
    Told operator address reads events := by
  have looks : ∀ exchange ∈ reads, Looks exchange.call := by
    intro exchange inside
    rw [read.reads exchange inside]
    exact .inl ⟨_, _, rfl⟩
  obtain ⟨unattached, undetached⟩ := unchanged_of_looks looks
  exact {
    applied := .untold unattached unapplied
    deleted := .untold undetached undeleted
    targetNotFound := by
      refine .untold ?_ unmissing
      intro finds
      rw [← List.append_nil reads] at finds
      obtain ⟨policy, kind, given, supported, _⟩ := finds.of_read read (by simp)
      exact other policy given kind supported
    unsupported := by
      by_cases given : ∃ policy, result = .ok (some policy)
      · obtain ⟨policy, rfl⟩ := given
        exact .told ⟨reads, [], policy, by rw [List.append_nil], read, by simp,
          other policy rfl⟩
          (refuses.1 ⟨policy, rfl⟩)
      · refine .untold ?_ (refuses.2 given)
        intro unsupported
        rw [← List.append_nil reads] at unsupported
        obtain ⟨policy, isPolicy, _⟩ := unsupported.of_read read (by simp)
        exact given ⟨policy, isPolicy⟩
  }

section Supported

variable {reads lookups : History}
variable {kind : TargetKind}

/--
A reconcile that ended with the lookup of its target told whether there was one.
-/
theorem told_of_lookup
    {found : Except Fault (Option Json)}
    {events : List Event}
    (read : Reading operator address readRetries reads (.ok (some policy)))
    (supported : policy.target.kind = .str kind.text)
    (lookup : TargetLookup operator kind policy lookups found)
    (unapplied : events.countP (·.hasReason "AuthPolicyApplied") = 0)
    (undeleted : events.countP (·.hasReason "AuthPolicyDeleted") = 0)
    (unrefused : events.countP (·.hasReason "UnsupportedTarget") = 0)
    (finds : ToldOnce events "TargetNotFound" (found = .ok none)) :
    Told operator address (reads ++ lookups) events := by
  obtain ⟨unattached, undetached⟩ := unchanged_of_looks (looks_before read lookup)
  have unread : ∀ exchange ∈ lookups, ¬ Reads exchange.call :=
    fun exchange inside => not_reads_of_lists (lookup.lists exchange inside)
  exact {
    applied := .untold unattached unapplied
    deleted := .untold undetached undeleted
    targetNotFound := by
      by_cases none : found = .ok none
      · subst none
        exact .told ⟨reads, lookups, policy, kind, rfl, read, supported, lookup⟩
          (finds.1 rfl)
      · refine .untold ?_ (finds.2 none)
        have other : ¬ FindsNoTarget operator address (reads ++ (lookups ++ [])) :=
          not_findsNoTarget_of_lookup read supported lookup (by simp) (by simp) none
        rwa [List.append_nil] at other
    unsupported :=
      .untold (not_readsUnsupported_of_supported read supported unread) unrefused
  }

end Supported

/--
A reconcile that has found its target, with the changes it made and its write.
-/
structure Altered (operator : Operator Time) (address : Address) (policy : Policy)
    (reads lookups changes writes : History)
    (result : Except Fault Unit) :
    Prop where
  read : Reading operator address readRetries reads (.ok (some policy))
  found : ∃ kind identifier, policy.target.kind = .str (TargetKind.text kind) ∧
    TargetLookup operator kind policy lookups (.ok (some identifier)) ∧
    Carried operator (plan policy identifier) changes result
  writing : ∀ exchange ∈ writes, Writes exchange.call

namespace Altered

variable {reads lookups changes writes : History}
variable {result : Except Fault Unit}

/-- What neither looks nor writes is one of the changes. -/
theorem mem_changes
    {exchange : Exchange}
    (altered : Altered operator address policy reads lookups changes writes result)
    (inside : exchange ∈ reads ++ lookups ++ changes ++ writes)
    (unlooking : ¬ Looks exchange.call)
    (unwriting : ¬ Writes exchange.call) :
    exchange ∈ changes := by
  obtain ⟨kind, identifier, _, lookup, _⟩ := altered.found
  rcases List.mem_append.mp inside with before | written
  · rcases List.mem_append.mp before with looked | changed
    · exact absurd (looks_before altered.read lookup exchange looked) unlooking
    · exact changed
  · exact absurd (altered.writing exchange written) unwriting

/-- Only the changes of a live policy enable anything. -/
theorem enabling
    (altered :
      Altered operator address policy reads lookups changes writes result) :
    ∀ exchange ∈ reads ++ lookups ++ changes ++ writes, Enables exchange.call →
      exchange ∈ changes ∧ policy.deletionRequested = false := by
  intro exchange inside enables
  have changed :=
    altered.mem_changes inside (fun looks => not_enables_of_looks looks enables)
    fun writes => not_enables_of_writes writes enables
  obtain ⟨_, _, _, _, change⟩ := altered.found
  exact ⟨changed, live_of_enables change changed enables⟩

/-- Only the changes of a policy that is being deleted disable anything. -/
theorem disabling
    (altered :
      Altered operator address policy reads lookups changes writes result) :
    ∀ exchange ∈ reads ++ lookups ++ changes ++ writes, Disables exchange.call →
      exchange ∈ changes ∧ policy.deletionRequested = true := by
  intro exchange inside disables
  have changed :=
    altered.mem_changes inside (fun looks => not_disables_of_looks looks disables)
    fun writes => not_disables_of_writes writes disables
  obtain ⟨_, _, _, _, change⟩ := altered.found
  rcases planned_call (change.mem_plan changed) with ⟨deleting, _⟩ | ⟨_, enables⟩
  · exact ⟨changed, deleting⟩
  · exact absurd disables (not_disables_of_enables enables)

/--
A course attaches exactly if the record is live and every change went through.
-/
theorem attached_iff
    (altered : Altered operator address policy reads lookups changes writes result)
    (objects : AnswersObjects changes) :
    Attached (reads ++ lookups ++ changes ++ writes) ↔
      policy.deletionRequested = false ∧ result = .ok () := by
  obtain ⟨_, _, _, _, change⟩ := altered.found
  constructor
  · intro attached
    have inChanges := attached.of_subset fun exchange inside enables =>
      (altered.enabling exchange inside enables).1
    have live : policy.deletionRequested = false := by
      obtain ⟨_, identifier, document, _, _, _, put⟩ := attached
      exact (altered.enabling _ put (.inr ⟨identifier, document, rfl⟩)).2
    refine ⟨live, ?_⟩
    cases result with
    | ok _ =>
        rfl
    | error fault =>
        rw [plan, if_neg (by simp [live])] at change
        exact absurd inChanges (not_attached_of_carried change objects)
  · rintro ⟨live, rfl⟩
    rw [plan, if_neg (by simp [live])] at change
    exact (attached_of_carried change).of_subset fun exchange inside _ => by
      simp [inside]

/--
A course detaches exactly if the record is deleted and every change went through.
-/
theorem detached_iff
    (altered :
      Altered operator address policy reads lookups changes writes result) :
    Detached (reads ++ lookups ++ changes ++ writes) ↔
      policy.deletionRequested = true ∧ result = .ok () := by
  obtain ⟨_, _, _, _, change⟩ := altered.found
  constructor
  · intro detached
    have inChanges := detached.of_subset fun exchange inside disables =>
      (altered.disabling exchange inside disables).1
    have deleting : policy.deletionRequested = true := by
      obtain ⟨_, identifier, _, _, delete, _, _⟩ := detached
      exact (altered.disabling _ delete (.inl ⟨identifier, rfl⟩)).2
    refine ⟨deleting, ?_⟩
    cases result with
    | ok _ =>
        rfl
    | error fault =>
        rw [plan, if_pos deleting] at change
        exact absurd inChanges (not_detached_of_carried change)
  · rintro ⟨deleting, rfl⟩
    rw [plan, if_pos deleting] at change
    exact (detached_of_carried change).of_subset fun exchange inside _ => by
      simp [inside]

/-- After the lookup nothing is read or listed any more. -/
theorem later
    (altered :
      Altered operator address policy reads lookups changes writes result) :
    ∀ exchange ∈ changes ++ writes,
      ¬ Reads exchange.call ∧ ∀ kind, ¬ Lists kind exchange.call := by
  obtain ⟨_, _, _, _, change⟩ := altered.found
  intro exchange inside
  rcases List.mem_append.mp inside with changed | written
  · have planned := change.mem_plan changed
    exact ⟨not_reads_of_planned planned, fun kind => not_lists_of_planned planned⟩
  · obtain ⟨_, _, _, call⟩ := altered.writing exchange written
    rw [call]
    constructor
    · rintro ⟨_, _, same⟩
      cases same
    · rintro kind ⟨_, same⟩
      cases same

/-- A reconcile that made changes told whether it made them all. -/
theorem told
    {events : List Event}
    (altered : Altered operator address policy reads lookups changes writes result)
    (objects : AnswersObjects changes)
    (applies : ToldOnce events "AuthPolicyApplied"
      (policy.deletionRequested = false ∧ result = .ok ()))
    (deletes : ToldOnce events "AuthPolicyDeleted"
      (policy.deletionRequested = true ∧ result = .ok ()))
    (unmissing : events.countP (·.hasReason "TargetNotFound") = 0)
    (unrefused : events.countP (·.hasReason "UnsupportedTarget") = 0) :
    Told operator address (reads ++ lookups ++ changes ++ writes) events := by
  obtain ⟨kind, identifier, supported, lookup, _⟩ := altered.found
  have later := altered.later
  have unread :
      ∀ exchange ∈ lookups ++ (changes ++ writes), ¬ Reads exchange.call := by
    intro exchange inside
    rcases List.mem_append.mp inside with listed | last
    · exact not_reads_of_lists (lookup.lists exchange listed)
    · exact (later exchange last).1
  have split : reads ++ lookups ++ changes ++ writes =
      reads ++ (lookups ++ (changes ++ writes)) := by
    simp only [List.append_assoc]
  exact {
    applied := by
      rw [altered.attached_iff objects]
      exact applies
    deleted := by
      rw [altered.detached_iff]
      exact deletes
    targetNotFound := by
      refine .untold ?_ unmissing
      rw [split]
      exact not_findsNoTarget_of_lookup altered.read supported lookup
        (fun exchange inside => (later exchange inside).1)
        (fun exchange inside => (later exchange inside).2 _) (by simp)
    unsupported := by
      refine .untold ?_ unrefused
      rw [split]
      exact not_readsUnsupported_of_supported altered.read supported unread
  }

end Altered

/-- Every story tells by its events what its exchanges show. -/
theorem Story.told
    {history : History}
    {notices : Chronicle}
    {result : Except Fault (ReconcileResult Nat)}
    (story : Story operator address history notices result)
    (plain : Unasking history)
    (objects : AnswersObjects history) :
    Told operator address history (Chronicle.events notices) := by
  cases story with
  | unread read | missing read =>
      exact told_of_read read (by simp) rfl rfl rfl (.untold (by simp) rfl)
  | unsupported read other =>
      refine told_of_read read ?_ rfl rfl rfl (.told ⟨_, rfl⟩ rfl)
      rintro _ ⟨⟩
      exact other
  | targetMissing fault read supported lookup =>
      exact told_of_lookup read supported lookup rfl rfl rfl (.told rfl rfl)
  | unresolved read supported lookup =>
      rw [pipelineNotices_of_not_asksAgain (lookup.failsUnasking plain.right _ rfl)]
      exact told_of_lookup read supported lookup rfl rfl rfl (.untold (by simp) rfl)
  | halted read supported lookup change =>
      have asked := change.failsUnasking (plan_failsUnfit _ _) plain.right _ rfl
      rw [pipelineNotices_of_not_asksAgain asked, ← List.append_nil (_ ++ _)]
      have altered : Altered operator address _ _ _ _ [] _ :=
        ⟨read, ⟨_, _, supported, lookup, change⟩, by simp⟩
      refine altered.told ?_ (.untold (by simp) rfl) (.untold (by simp) rfl) rfl rfl
      exact fun identifier document answer inside =>
        objects identifier document answer (List.mem_append_right _ inside)
  | @written reads lookups changes writes policy kind identifier result
      read supported lookup change write =>
      have altered :
          Altered operator address policy reads lookups changes writes (.ok ()) :=
        ⟨read, ⟨_, _, supported, lookup, change⟩, writes_of_writeBack write⟩
      have objects' : AnswersObjects changes :=
        fun identifier document answer inside =>
        objects identifier document answer
          (List.mem_append_left _ (List.mem_append_right _ inside))
      by_cases deleting : policy.deletionRequested = true
      · have event : changeEvent policy identifier =
            Event.policyDeleted (.obj policy.record) identifier := if_pos deleting
        rw [event]
        exact altered.told objects' (.untold (by simp [deleting]) rfl)
          (.told ⟨deleting, rfl⟩ rfl) rfl rfl
      · have event : changeEvent policy identifier =
            Event.policyApplied (.obj policy.record) identifier := if_neg deleting
        rw [event]
        exact altered.told objects' (.told ⟨by simpa using deleting, rfl⟩ rfl)
          (.untold (by simp [deleting]) rfl) rfl rfl

end Reconcile

end PolicyReconciler

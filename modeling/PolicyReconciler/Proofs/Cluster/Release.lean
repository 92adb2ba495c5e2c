import PolicyReconciler.Proofs.Cluster.Invariant
import PolicyReconciler.Proofs.Reconcile.Stages

namespace PolicyReconciler.Cluster

/-!
# Releasing records

A reconcile drops the finalizer of a record that is being deleted before it has
cleaned anything up, but only in memory.  Nothing but its last call writes the
record, and that call takes effect only where the record is the one that was read.
So the stored finalizer is released by a reconcile that has cleaned up first.
-/

open Program Policy VpcLattice Reconcile PolicyStore

variable {Time Cloud : Type} [TimeScale Time]
variable {operator : Operator Time}
variable {serves : Service Cloud}
variable {allows : Cluster Time Cloud → Move → Prop}
variable {moves : List Move}
variable {cluster : Cluster Time Cloud}

/--
The changes that clean a resource up: its policy was removed, or was gone already,
and after that it stopped requiring signed requests.
-/
def CleansUp (identifier : Json) (changes : History) : Prop :=
  ∃ kind removed answer,
    changes = [⟨.deleteAuthPolicy identifier, removed⟩,
      ⟨.setAuthType kind identifier noAuth, .ok answer⟩] ∧
    Removed removed

/-- A carried plan of a deleted record cleans up. -/
theorem cleansUp_of_carried
    {policy : Policy}
    {identifier : Json}
    {changes : History}
    (deleting : policy.deletionRequested = true)
    (change : Carried operator (plan policy identifier) changes (.ok ())) :
    CleansUp identifier changes := by
  rw [plan, if_pos deleting] at change
  obtain ⟨kind, removed, answer, _, made, gone⟩ := change.detachment_inv
  exact ⟨kind, removed, answer, made, gone⟩

/--
A replacement that releases a record was written for one that is being deleted.
-/
theorem deleting_of_releases
    {run : Ongoing Time}
    {replacement : Replacement}
    {policy : Policy}
    {kind : TargetKind}
    {identifier : Json}
    {reads lookups changes : History}
    (concludes : run.Concludes operator replacement.old policy kind identifier
      reads lookups changes)
    (written : replacement.body = (settledPolicy policy identifier).written)
    (released : ¬ Held replacement.new) :
    policy.deletionRequested = true := by
  by_contra live
  have gated := mem_finalizers_gate_of_live (Bool.eq_false_iff.mpr live)
  obtain ⟨_, _, _, carried⟩ :=
    settledPolicy_written identifier (shows_of_ofMembers concludes.parsed)
  apply released
  rw [Replacement.new, held_restamp, Held, written, carried]
  exact gated

/--
In every cluster that moves lead to: a replacement that takes effect and releases
the stored record replaces one that is being deleted, and its reconcile has before
removed the policy of the resource that the stored target names, and then ended its
auth.  A reconcile that asks for another attempt has replaced nothing, and one
that has failed has replaced at most by a call that was answered with a failure.
-/
theorem release_safety
    (reached : Reached operator serves allows moves cluster) :
    (∀ index replacement next,
      Step operator serves cluster (.replaced index replacement) next →
      Held replacement.old → ¬ Held replacement.new →
      Deleting replacement.old ∧
        ∃ run policy kind identifier reads lookups changes,
          cluster.runs[index]? = some run ∧
          run.address = replacement.address ∧
          run.Concludes operator replacement.old policy kind identifier reads
            lookups changes ∧
          CleansUp identifier changes) ∧
    ∀ run ∈ cluster.runs, ∀ outcome, run.rest = .done outcome →
      ∀ exchange ∈ run.history, Writes exchange.call →
        outcome = .ok settled ∨
          ∃ fault failure, outcome = .error fault ∧
            exchange.answer = .error failure := by
  have sound := reached.sound
  constructor
  · intro index replacement next step _ released
    cases step with
    | @replaced _ run _ rest ongoing performs stored current fresh =>
        obtain ⟨policy, kind, identifier, reads, lookups, changes, atHome,
            concludes, written⟩ :=
          sound.replaces ongoing performs stored current
        have deleting := deleting_of_releases concludes written released
        have shown := shows_of_ofMembers concludes.parsed
        exact ⟨shown.deleting_iff.mp deleting, run, policy, kind,
          identifier, reads, lookups, changes, ongoing, atHome.symm, concludes,
          cleansUp_of_carried deleting concludes.change⟩
  · intro run inside outcome ended exchange made writes
    have course := (sound.runs run inside).meets
    rw [ended] at course
    obtain ⟨policy, rfl⟩ := Course.of_writes course made writes
    cases answered : exchange.answer with
    | ok body =>
        exact .inl rfl
    | error failure =>
        cases refused : writeVerdict policy (.error failure) with
        | ok _ =>
            exact .inl rfl
        | error fault =>
            exact .inr ⟨fault, failure, rfl, rfl⟩

/-! ## A policy of a gateway -/

open scoped Classical in
/-- A cluster with a single record, in which nothing has happened yet. -/
noncomputable def gatewayCluster (record : Members) : Cluster Rat Unit where
  records := Function.update (fun _ => none) gatewayAddress (some record)
  past := Function.update (fun _ => []) gatewayAddress [record]
  cloud := ()
  runs := []

/-- The cluster in which a single reconcile of the record has come so far. -/
noncomputable def gatewayPaused
    (record : Members)
    (history : History)
    (rest : Program Rat (ReconcileResult Nat)) : Cluster Rat Unit :=
  { gatewayCluster record with runs := [⟨gatewayAddress, history, rest⟩] }

/-- A service that may answer any call in any way. -/
def anyService : Service Unit := fun _ _ _ _ => True

/-- No move is ruled out. -/
def anyMove : Cluster Rat Unit → Move → Prop := fun _ _ => True

/-- The gateway's cluster is one before any run. -/
theorem gatewayCluster_initial
    {record : Members}
    (own : addressOf record = gatewayAddress) :
    (gatewayCluster record).Initial := by
  refine ⟨rfl, ?_, ?_⟩
  · intro address
    by_cases same : address = gatewayAddress
    · subst same
      simp [gatewayCluster]
    · simp [gatewayCluster, same]
  · intro address stored found
    by_cases same : address = gatewayAddress
    · subst same
      simp only [gatewayCluster, Function.update_self, Option.some.injEq] at found
      rw [← found, own]
    · simp [gatewayCluster, same] at found

/--
A reconcile of the record goes on up to its write-back if its other calls are
answered.
-/
theorem gatewayCluster_reached
    {record : Members}
    {allows : Cluster Rat Unit → Move → Prop}
    {changes : History}
    {last : Program Rat (ReconcileResult Nat)}
    (own : addressOf record = gatewayAddress)
    (leads : (reconcile gatewayOperator gatewayAddress).Leads
      (gatewayLookup record ++ changes) last)
    (others : ∀ exchange ∈ changes, Enables exchange.call ∨ Disables exchange.call)
    (began : ∀ other, allows other (.began gatewayAddress))
    (passes : ∀ other, allows other (.passed 0))
    (exchanges : ∀ other exchange, allows other (.exchanged 0 exchange)) :
    ∃ moves, Reached gatewayOperator anyService allows moves
      (gatewayPaused record (gatewayLookup record ++ changes) last) := by
  have start : Reached gatewayOperator anyService allows [.began gatewayAddress]
      (gatewayPaused record [] (reconcile gatewayOperator gatewayAddress)) :=
    .step (.initial (gatewayCluster_initial own)) (began _) (.began gatewayAddress)
  have answered : ∀ exchange ∈ gatewayLookup record ++ changes,
      (gatewayCluster record).Answers anyService exchange.call
        exchange.answer () := by
    intro exchange inside
    rcases List.mem_append.mp inside with looked | changed
    · rcases List.mem_cons.mp looked with rfl | listed
      · refine ⟨rfl, fun body same => ?_⟩
        cases same
        simp [gatewayCluster]
      · rw [List.mem_singleton.mp listed]
        trivial
    · rcases others exchange changed with enables | disables
      · rcases enables with ⟨_, _, same⟩ | ⟨_, _, same⟩ <;> rw [same] <;> trivial
      · rcases disables with ⟨_, same⟩ | ⟨_, _, same⟩ <;> rw [same] <;> trivial
  obtain ⟨more, whole⟩ := start.advance rfl leads answered passes exchanges
  exact ⟨_, whole⟩

/-- A run that paused before its replacement may make it. -/
theorem gatewayPaused_replaced
    (replacement : Replacement)
    (history : History)
    (rest : Except Fault Json → Program Rat (ReconcileResult Nat))
    {marks : Members}
    (atHome : replacement.address = gatewayAddress)
    (before : replacement.old = gatewayRecord "1" marks)
    (current : versionOf replacement.body = versionOf replacement.old)
    (later : replacement.version = .str "2") :
    Step gatewayOperator anyService
      (gatewayPaused replacement.old history
        (.perform (.call replacement.exchange.call) rest))
      (.replaced 0 replacement)
      (((gatewayPaused replacement.old history
          (.perform (.call replacement.exchange.call) rest)).store
            replacement.address replacement.new).resume 0
        ⟨gatewayAddress, history ++ [replacement.exchange],
          rest replacement.answer⟩) := by
  have stored : (gatewayCluster replacement.old).records replacement.address =
      some replacement.old := by
    simp [gatewayCluster, atHome]
  have fresh : Fresh (gatewayCluster replacement.old) replacement.address
      replacement.version := by
    intro record inside
    simp only [gatewayCluster, atHome, Function.update_self, List.mem_singleton]
      at inside
    rw [inside, before, later]
    change Json.str "1" ≠ .str "2"
    simp
  have ongoing : (gatewayPaused replacement.old history
      (.perform (.call replacement.exchange.call) rest)).runs[0]? =
        some ⟨gatewayAddress, history,
          .perform (.call replacement.exchange.call) rest⟩ :=
    rfl
  exact .replaced ongoing rfl stored current fresh

/-- The metadata of the record once its deletion was asked for. -/
def gatewayDeleting : Members :=
  [("deletionTimestamp", .str "2025-01-01T00:00:00Z"),
    ("finalizers", .arr [operatorFinalizer])]

/-- The gateway's network is found without a policy and opened again. -/
def gatewayDetachment : History :=
  [⟨.deleteAuthPolicy gatewayNetwork,
      .error (.service ⟨.str "ResourceNotFoundException", .null, .null, none⟩)⟩,
    ⟨.setAuthType .serviceNetwork gatewayNetwork noAuth, .ok .null⟩]

/-- The replacement that takes the finalizer off the gateway's record. -/
def gatewayRelease : Replacement where
  address := gatewayAddress
  body := gatewayRecord "1" [("deletionTimestamp", .str "2025-01-01T00:00:00Z"),
    ("finalizers", .arr []),
      ("annotations", .obj [( resourceAnnotation, gatewayNetwork)])]
  timeout := .int 30
  answer := .ok .null
  old := gatewayRecord "1" gatewayDeleting
  version := .str "2"

set_option maxRecDepth 2048 in
/-- The deleting run leads up to the replacement that releases the record. -/
theorem gatewayRelease_leads :
    ∃ next, (reconcile gatewayOperator gatewayAddress).Leads
      (gatewayLookup gatewayRelease.old ++ gatewayDetachment)
      (.perform (.call gatewayRelease.exchange.call) next) :=
  ⟨_, leads_of_follow 0 ⟨.null, none⟩ (by with_unfolding_all rfl)⟩

theorem gatewayRelease_safe :
    ∃ moves cluster next,
      Reached gatewayOperator anyService anyMove moves cluster ∧
      Step gatewayOperator anyService cluster (.replaced 0 gatewayRelease) next ∧
      Held gatewayRelease.old ∧ ¬ Held gatewayRelease.new ∧
        Deleting gatewayRelease.old ∧
      ∃ run policy kind identifier reads lookups changes,
        cluster.runs[0]? = some run ∧
        run.address = gatewayRelease.address ∧
        run.Concludes gatewayOperator gatewayRelease.old policy kind identifier
          reads lookups changes ∧
        CleansUp identifier changes := by
  obtain ⟨rest, leads⟩ := gatewayRelease_leads
  obtain ⟨moves, reached⟩ :
      ∃ moves, Reached gatewayOperator anyService anyMove moves _ :=
    gatewayCluster_reached rfl leads
      (by simp [gatewayDetachment, Enables, Disables])
      (fun _ => trivial) (fun _ => trivial) (fun _ _ => trivial)
  have step := gatewayPaused_replaced gatewayRelease
    (gatewayLookup gatewayRelease.old ++ gatewayDetachment) rest rfl rfl rfl rfl
  have held : Held gatewayRelease.old :=
    List.mem_singleton_self operatorFinalizer
  have released : ¬ Held gatewayRelease.new :=
    List.not_mem_nil
  exact ⟨moves, _, _, reached, step, held, released,
    (release_safety reached).1 0 gatewayRelease _ step held released⟩

end PolicyReconciler.Cluster

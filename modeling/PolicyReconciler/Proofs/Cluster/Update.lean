import PolicyReconciler.Proofs.Cluster.Hold
import PolicyReconciler.Proofs.World.Convergence

namespace PolicyReconciler.Cluster

/-!
# Updates among other writers

Others may write a record at any time, also between the read and the write-back of
a reconcile.  A write-back that takes effect changes the very record that was read,
so it loses nothing that others have written.  One that comes too late is rejected
and reported with the version that was read.
-/

open Program Policy VpcLattice Reconcile PolicyStore
open World (Settles settles_stored)

variable {Time Cloud : Type} [TimeScale Time]
variable {operator : Operator Time}
variable {serves : Service Cloud}
variable {allows : Cluster Time Cloud → Move → Prop}
variable {moves : List Move}
variable {cluster next : Cluster Time Cloud}
variable {index : Nat}

/--
Whether a call replaces a record under another version than the one that is stored.
-/
def Stale (cluster : Cluster Time Cloud) (call : Call) : Prop :=
  ∃ address body timeout old, call = .replaceRecord address (.obj body) timeout ∧
    cluster.records address = some old ∧ versionOf body ≠ versionOf old

/-- A write-back that takes effect is not stale. -/
theorem Step.not_stale
    {replacement : Replacement}
    (step : Step operator serves cluster (.replaced index replacement) next) :
    ¬ cluster.Stale replacement.exchange.call := by
  rintro ⟨address, body, timeout, old, call, found, outdated⟩
  cases step with
  | replaced ongoing performs stored current fresh =>
      injection call with atHome written
      cases written
      rw [← atHome, stored, Option.some.injEq] at found
      exact outdated (current.trans (congrArg versionOf found))

/-- A write-back that takes effect settles the record that it replaces. -/
theorem Sound.settles
    {replacement : Replacement}
    (sound : cluster.Sound operator)
    (step : Step operator serves cluster (.replaced index replacement) next) :
    ∃ identifier, Settles replacement.old identifier replacement.new := by
  cases step with
  | replaced ongoing performs stored current fresh =>
      obtain ⟨policy, _, identifier, _, _, _, _, concludes, written⟩ :=
        sound.replaces ongoing performs stored current
      refine ⟨identifier, ?_⟩
      rw [Replacement.new, written]
      exact settles_stored concludes.parsed identifier replacement.version

/--
A reconcile whose write-back meets a conflict makes no further call, and ends with a
fault that names the version of the record that it has read.
-/
theorem Sound.quiet_after_conflict
    {run : Ongoing Time}
    {target : Address}
    {body : Members}
    {timeout : Json}
    {response : ApiResponse}
    {rest : Except Fault Json → Program Time (ReconcileResult Nat)}
    (sound : cluster.Sound operator)
    (ongoing : cluster.runs[index]? = some run)
    (performs :
      run.rest = .perform (.call (.replaceRecord target (.obj body) timeout)) rest)
    (conflict : response.status.isNumber 409 = true) :
    ∃ record, ⟨readCall operator run.address, .ok (.obj record)⟩ ∈ run.history ∧
      (rest (.error (.api response))).Quietly
        (.error (.conflict run.address.recordNamespace run.address.name
          (versionOf record)
          (some response))) := by
  have underwaySound := sound.runs run (List.mem_of_getElem? ongoing)
  obtain ⟨record, policy, kind, identifier, reads, lookups, changes,
      known, concludes,
    targeted, written⟩ := underwaySound.replaces performs
  have shown := shows_of_ofMembers concludes.parsed
  obtain ⟨_, versioned, _, _⟩ := settledPolicy_written identifier shown
  have atHome : target = run.address := by
    rw [targeted]
    exact sound.archived.own run.address record known
  refine ⟨record, ?_, ?_⟩
  · rw [concludes.history_eq]
    exact List.mem_append_left _ (List.mem_append_left _ concludes.read)
  · have meets := underwaySound.meets
    rw [performs] at meets
    have made := List.mem_append_right run.history (List.mem_singleton_self
      (⟨.replaceRecord target (.obj body) timeout, .error (.api response)⟩ :
        Exchange))
    apply Quietly.of_meets (meets.2 (.error (.api response)))
    · intro request underway
      exact underway.not_writes _ made ⟨_, _, _, rfl⟩
    · intro reached course
      rw [course.conflict_inv made conflict, atHome, written, versioned]

/--
In every cluster that moves lead to: a write-back that takes effect settles the
record that was stored right before it, under a version that no record there ever
had.  The finalizer and one annotation change, and all else stays as it was last
written.  A stale write-back changes nothing, and where a conflict answers it, its
reconcile makes no further call and ends with the conflict on the version that it
has read.
-/
theorem no_lost_update
    (reached : Reached operator serves allows moves cluster) :
    (∀ index replacement next,
      Step operator serves cluster (.replaced index replacement) next →
      cluster.records replacement.address = some replacement.old ∧
        next.records replacement.address = some replacement.new ∧
        (∀ other, other ≠ replacement.address →
          next.records other = cluster.records other) ∧
        versionOf replacement.new = replacement.version ∧
        cluster.Fresh replacement.address replacement.version ∧
        ∃ identifier, Settles replacement.old identifier replacement.new) ∧
    ∀ index move exchange next,
      Step operator serves cluster move next →
      move.exchangeOf index = some exchange →
      cluster.Stale exchange.call →
      next.records = cluster.records ∧ next.cloud = cluster.cloud ∧
        ∀ response, exchange.answer = .error (.api response) →
          response.status.isNumber 409 = true →
          ∃ run record last,
            cluster.runs[index]? = some run ∧
            ⟨readCall operator run.address, .ok (.obj record)⟩ ∈ run.history ∧
            next.runs[index]? = some last ∧
            last.rest.Quietly
              (.error (.conflict run.address.recordNamespace run.address.name
                (versionOf record) (some response))) := by
  have sound : cluster.Sound operator := reached.sound
  constructor
  · intro index replacement next step
    have settles := sound.settles step
    cases step with
    | replaced ongoing performs stored current fresh =>
        exact ⟨stored, records_store_same _,
          fun other different => records_store_other _ different,
          versionOf_restamp _ _, fresh, settles⟩
  · intro index move exchange next step made stale
    cases step with
    | @exchanged other run request answer cloud rest ongoing performs answered =>
        simp only [Move.exchangeOf] at made
        split at made
        · rename_i same
          subst same
          cases made
          obtain ⟨target, body, timeout, old, rfl, _, _⟩ := stale
          obtain ⟨rfl, _⟩ := answered
          refine ⟨rfl, rfl, ?_⟩
          rintro response rfl conflict
          obtain ⟨record, known, quiet⟩ :=
            sound.quiet_after_conflict ongoing performs conflict
          have bound := (List.getElem?_eq_some_iff.mp ongoing).1
          exact ⟨run, record, _, ongoing, known, resume_runs bound, quiet⟩
        · cases made
    | @replaced other run replacement rest ongoing performs stored current fresh =>
        have effective :
            Step operator serves cluster (.replaced other replacement) _ :=
          .replaced ongoing performs stored current fresh
        simp only [Move.exchangeOf] at made
        split at made
        · cases made
          exact absurd stale effective.not_stale
        · cases made
    | began | passed | stored | removed =>
        cases made

/-! ## A policy of a gateway -/

/-- The record of the live policy after somebody else has labelled it. -/
def gatewayLabelled : Members :=
  gatewayRecord "2" [("labels", .obj [("team", .str "edge")])]

/-- The cluster's answer to a replacement of an outdated record. -/
def gatewayConflict : ApiResponse :=
  ⟨.int 409, .str "Conflict", .null, .null⟩

/-- The write-back of the live policy when it comes too late. -/
def gatewayRefusal : Exchange where
  call := gatewayHold.exchange.call
  answer := .error (.api gatewayConflict)

/-- The cluster in which the live policy is about to be written back. -/
noncomputable def gatewayAttached
    (rest : Except Fault Json → Program Rat (ReconcileResult Nat)) :
    Cluster Rat Unit :=
  gatewayPaused gatewayLive
    (gatewayLookup gatewayLive ++ gatewayAttachment (.ok (.obj [])))
    (.perform (.call gatewayHold.exchange.call) rest)

/-- A label may be set before the record is written back. -/
theorem gatewayAttached_labelled
    (rest : Except Fault Json → Program Rat (ReconcileResult Nat)) :
    Step gatewayOperator anyService (gatewayAttached rest)
      (.stored gatewayAddress gatewayLabelled)
      ((gatewayAttached rest).store gatewayAddress gatewayLabelled) := by
  refine .stored rfl fun record inside => ?_
  simp only [gatewayAttached, gatewayPaused, gatewayCluster, Function.update_self,
    List.mem_singleton] at inside
  rw [inside]
  change Json.str "1" ≠ .str "2"
  simp

/-- The replacement is stale once the label is set. -/
theorem gatewayRefusal_stale
    (rest : Except Fault Json → Program Rat (ReconcileResult Nat)) :
    ((gatewayAttached rest).store gatewayAddress gatewayLabelled).Stale
      gatewayRefusal.call := by
  refine ⟨gatewayAddress, gatewayHold.body, _, _, rfl,
    records_store_same gatewayLabelled, ?_⟩
  change Json.str "1" ≠ .str "2"
  simp

theorem gatewayHold_loses_nothing :
    (∃ moves cluster next,
      Reached gatewayOperator anyService anyMove moves cluster ∧
      Step gatewayOperator anyService cluster (.replaced 0 gatewayHold) next ∧
      ∃ identifier, Settles gatewayHold.old identifier gatewayHold.new) ∧
    ∃ moves cluster next,
      Reached gatewayOperator anyService anyMove moves cluster ∧
      cluster.records gatewayAddress = some gatewayLabelled ∧
      Step gatewayOperator anyService cluster (.exchanged 0 gatewayRefusal) next ∧
      cluster.Stale gatewayRefusal.call ∧
      next.records = cluster.records ∧
      ∃ run record last,
        cluster.runs[0]? = some run ∧
        ⟨readCall gatewayOperator run.address, .ok (.obj record)⟩ ∈ run.history ∧
        next.runs[0]? = some last ∧
        last.rest.Quietly
          (.error (.conflict run.address.recordNamespace run.address.name
            (versionOf record)
            (some gatewayConflict))) := by
  obtain ⟨rest, leads⟩ := gatewayHold_leads
  obtain ⟨moves, reached⟩ :
      ∃ moves, Reached gatewayOperator anyService anyMove moves
        (gatewayAttached rest) :=
    gatewayCluster_reached rfl leads (by simp [gatewayAttachment, Enables])
      (fun _ => trivial) (fun _ => trivial) (fun _ _ => trivial)
  constructor
  · have step := gatewayPaused_replaced gatewayHold
      (gatewayLookup gatewayLive ++ gatewayAttachment (.ok (.obj [])))
        rest rfl rfl rfl rfl
    obtain ⟨_, _, _, _, _, settles⟩ :=
      (no_lost_update reached).1 0 gatewayHold _ step
    exact ⟨moves, _, _, reached, step, settles⟩
  · have labelled := reached.step trivial (gatewayAttached_labelled rest)
    have stale := gatewayRefusal_stale rest
    have step : Step gatewayOperator anyService
        ((gatewayAttached rest).store gatewayAddress gatewayLabelled)
        (.exchanged 0 gatewayRefusal) _ :=
      .exchanged rfl rfl ⟨rfl, _, rfl⟩
    obtain ⟨unchanged, _, reported⟩ :=
      (no_lost_update labelled).2 0 _ gatewayRefusal _ step rfl stale
    exact ⟨_, _, _, labelled, records_store_same gatewayLabelled, step,
      stale, unchanged, reported _ rfl rfl⟩

end PolicyReconciler.Cluster

import PolicyReconciler.Proofs.Cluster.Release
import PolicyReconciler.Proofs.Cluster.Trace

namespace PolicyReconciler.Cluster

/-!
# Holding records

The finalizer that a reconcile adds to a live record is kept in memory until the
write-back that ends its pipeline.  So the first reconcile of a record changes the
resource before the stored record is held.  From the first write-back that takes
effect the stored record is held, until one for the record being deleted releases
it.
-/

open Program Policy VpcLattice Reconcile PolicyStore

variable {Time Cloud : Type} [TimeScale Time]
variable {operator : Operator Time}
variable {serves : Service Cloud}
variable {moves : List Move}
variable {cluster next : Cluster Time Cloud}
variable {address : Address}
variable {move : Move}

/--
Whether a move of others leaves the finalizer alone: a stored record keeps it or
keeps lacking it, and a record that carries it is not removed.
-/
def LeavesFinalizer (cluster : Cluster Time Cloud) : Move → Prop
  | .stored address record =>
      ∀ old, cluster.records address = some old → (Held record ↔ Held old)
  | .removed address => ∀ old, cluster.records address = some old → ¬ Held old
  | _ => True

/-- Whether a record that is stored at an address carries the finalizer. -/
def HeldAt (cluster : Cluster Time Cloud) (address : Address) : Prop :=
  ∃ record, cluster.records address = some record ∧ Held record

/--
Whether a move is a write-back for a record at an address that is being deleted.
-/
def Move.Releases (address : Address) : Move → Prop
  | .replaced _ replacement =>
      replacement.address = address ∧ Deleting replacement.old
  | _ => False

/--
Whether a move shows that the record at an address carries the finalizer: it reads
such a record, or it is a write-back for a live one.
-/
def Move.Marks (address : Address) : Move → Prop
  | .replaced _ replacement =>
      replacement.address = address ∧ ¬ Deleting replacement.old
  | .exchanged _ ⟨.readRecord target _, .ok (.obj record)⟩ =>
      target = address ∧ Held record
  | _ => False

/-- A replacement of a live record leaves it held. -/
theorem held_new_of_live
    {index : Nat}
    {replacement : Replacement}
    (sound : cluster.Sound operator)
    (step : Step operator serves cluster (.replaced index replacement) next)
    (live : ¬ Deleting replacement.old) :
    Held replacement.new := by
  by_contra released
  cases step with
  | replaced ongoing performs stored current fresh =>
      obtain ⟨policy, kind, identifier, reads, lookups, changes, _,
          concludes, written⟩ :=
        sound.replaces ongoing performs stored current
      have deleting := deleting_of_releases concludes written released
      exact live ((shows_of_ofMembers concludes.parsed).deleting_iff.mp deleting)

/-- A replacement neither requests a deletion nor takes a request back. -/
theorem deleting_body_iff
    {index : Nat}
    {replacement : Replacement}
    (sound : cluster.Sound operator)
    (step : Step operator serves cluster (.replaced index replacement) next) :
    Deleting replacement.body ↔ Deleting replacement.old := by
  cases step with
  | replaced ongoing performs stored current fresh =>
      obtain ⟨policy, kind, identifier, reads, lookups, changes, _,
          concludes, written⟩ :=
        sound.replaces ongoing performs stored current
      obtain ⟨_, _, kept, _⟩ :=
        settledPolicy_written identifier (shows_of_ofMembers concludes.parsed)
      rw [written]
      exact kept

/-- A held replacement leaves a held record in the cluster. -/
theorem heldAt_of_replaced
    {index : Nat}
    {replacement : Replacement}
    (step : Step operator serves cluster (.replaced index replacement) next)
    (held : Held replacement.new) :
    next.HeldAt replacement.address := by
  cases step with
  | replaced ongoing performs stored current fresh =>
      exact ⟨replacement.new, records_store_same _, held⟩

/-- A step that marks a record leaves it held. -/
theorem heldAt_of_marks
    (sound : cluster.Sound operator)
    (step : Step operator serves cluster move next)
    (marks : move.Marks address) :
    next.HeldAt address := by
  unfold Move.Marks at marks
  split at marks
  · obtain ⟨rfl, live⟩ := marks
    exact heldAt_of_replaced step (held_new_of_live sound step live)
  · obtain ⟨rfl, held⟩ := marks
    cases step with
    | exchanged ongoing performs answered =>
        obtain ⟨record, stored, same⟩ :=
          Option.map_eq_some_iff.mp (answered.2 _ rfl)
        cases same
        exact ⟨_, stored, held⟩
  · exact marks.elim

/-- A record that is held stays so until it is released. -/
theorem heldAt_step
    (sound : cluster.Sound operator)
    (leaves : cluster.LeavesFinalizer move)
    (step : Step operator serves cluster move next)
    (held : cluster.HeldAt address) :
    next.HeldAt address ∨ move.Releases address := by
  obtain ⟨record, stored, carries⟩ := held
  cases move with
  | began other =>
      cases step
      exact .inl ⟨record, stored, carries⟩
  | passed index =>
      cases step
      exact .inl ⟨record, stored, carries⟩
  | exchanged index exchange =>
      cases step
      exact .inl ⟨record, stored, carries⟩
  | replaced index replacement =>
      by_cases same : replacement.address = address
      · subst same
        by_cases deleting : Deleting replacement.old
        · exact .inr ⟨rfl, deleting⟩
        · exact .inl (heldAt_of_replaced step
            (held_new_of_live sound step deleting))
      · cases step
        refine .inl ⟨record, ?_, carries⟩
        exact (records_store_other _ (Ne.symm same)).trans stored
  | stored other new =>
      by_cases same : other = address
      · subst same
        cases step
        exact .inl ⟨new, records_store_same new, (leaves record stored).mpr carries⟩
      · cases step
        exact .inl ⟨record, (records_store_other new (Ne.symm same)).trans stored,
          carries⟩
  | removed other =>
      by_cases same : other = address
      · subst same
        exact absurd carries (leaves record stored)
      · cases step
        exact .inl ⟨record, (records_remove_other (Ne.symm same)).trans stored,
          carries⟩

/-- From a move that marks a record on it is held, unless it was released since. -/
theorem Reached.heldAt_since
    {before after : List Move}
    (reached : Reached operator serves LeavesFinalizer moves cluster)
    (split : moves = before ++ move :: after)
    (marks : move.Marks address) :
    cluster.HeldAt address ∨ ∃ release ∈ after, release.Releases address := by
  apply reached.since split
  · intro current next reached' step
    exact heldAt_of_marks reached'.sound step marks
  · intro earlier current later next reached' leaves step held
    exact heldAt_step reached'.sound leaves step held

/--
A reconcile that enables a resource has read a live record by one of the moves.
-/
theorem Reached.exists_read_of_enables
    {allows : Cluster Time Cloud → Move → Prop}
    {index : Nat}
    {exchange : Exchange}
    (reached : Reached operator serves allows moves cluster)
    (step : Step operator serves cluster (.exchanged index exchange) next)
    (enables : Enables exchange.call) :
    ∃ run record before after,
      cluster.runs[index]? = some run ∧
        moves = before ++
          .exchanged index ⟨readCall operator run.address, .ok (.obj record)⟩ ::
            after ∧
        ¬ Deleting record := by
  cases step with
  | @exchanged _ run request answer _ _ ongoing performs answered =>
      have sound := reached.sound.runs run (List.mem_of_getElem? ongoing)
      obtain ⟨record, policy, known, parsed, live⟩ :=
        (sound.underway performs).enable_inv enables
      obtain ⟨before, move, after, split, made⟩ := reached.exists_move ongoing known
      have spared : ¬ Deleting record := by
        rw [← (shows_of_ofMembers parsed).deleting_iff, live]
        decide
      refine ⟨run, record, before, after, ongoing, ?_, spared⟩
      rw [split, Move.eq_exchanged made (not_writes_of_looks (.inl ⟨_, _, rfl⟩))]

/--
A settled reconcile that has enabled a resource wrote its live record back by a
move.
-/
theorem Reached.exists_replaced_of_settled
    {allows : Cluster Time Cloud → Move → Prop}
    {index : Nat}
    {run : Ongoing Time}
    {exchange : Exchange}
    (reached : Reached operator serves allows moves cluster)
    (ongoing : cluster.runs[index]? = some run)
    (ended : run.rest = .done (.ok settled))
    (inside : exchange ∈ run.history)
    (enables : Enables exchange.call) :
    ∃ replacement before after,
      moves = before ++ .replaced index replacement :: after ∧
        replacement.address = run.address ∧ ¬ Deleting replacement.old := by
  have sound := reached.sound.runs run (List.mem_of_getElem? ongoing)
  have course := sound.meets
  rw [ended] at course
  obtain ⟨record, policy, identifier, answer, known, parsed, live, last⟩ :=
    Course.of_enables course inside enables
  obtain ⟨before, move, after, split, made⟩ := reached.exists_move ongoing last
  obtain ⟨middle, following, reached', _, step⟩ := reached.exists_step split
  obtain ⟨replacement, rfl, same⟩ := step.exists_replaced_of_write made
  have shown := shows_of_ofMembers parsed
  obtain ⟨_, _, kept, _⟩ := settledPolicy_written identifier shown
  injection same with call
  obtain ⟨targeted, written⟩ := settledPolicy_call shown call
  refine ⟨replacement, before, after, split, ?_, ?_⟩
  · obtain ⟨stored, inPast, body⟩ := sound.truthful _ _ _ known
    cases body
    rw [targeted]
    exact reached.sound.archived.own _ _ inPast
  · rw [← deleting_body_iff reached'.sound step, written, kept,
      ← shown.deleting_iff, live]
    decide

/--
In every cluster that moves lead to, where others leave the finalizer alone: a call
that enables a resource is made for a live record that was read before, and unless
that record lacked the finalizer, the stored record is held.  A reconcile that has
made such a call and is settled has written its live record back, and ever since
then the stored record is held.  Both hold until a write-back for the record being
deleted releases it.
-/
theorem held_from_write_back
    (reached : Reached operator serves LeavesFinalizer moves cluster) :
    (∀ index exchange next,
      Step operator serves cluster (.exchanged index exchange) next →
      Enables exchange.call →
      ∃ run record before after,
        cluster.runs[index]? = some run ∧
        moves = before ++
          .exchanged index ⟨readCall operator run.address, .ok (.obj record)⟩ ::
            after ∧
        ¬ Deleting record ∧
        (Held record →
          cluster.HeldAt run.address ∨
            ∃ release ∈ after, release.Releases run.address)) ∧
    (∀ index replacement before after,
      moves = before ++ .replaced index replacement :: after →
      ¬ Deleting replacement.old →
      Held replacement.new ∧
        (cluster.HeldAt replacement.address ∨
          ∃ release ∈ after, release.Releases replacement.address)) ∧
    ∀ index run, cluster.runs[index]? = some run → run.rest = .done (.ok settled) →
      ∀ exchange ∈ run.history, Enables exchange.call →
        ∃ replacement before after,
          moves = before ++ .replaced index replacement :: after ∧
          replacement.address = run.address ∧ ¬ Deleting replacement.old ∧
          (cluster.HeldAt run.address ∨
            ∃ release ∈ after, release.Releases run.address) := by
  refine ⟨?_, ?_, ?_⟩
  · intro index exchange next step enables
    obtain ⟨run, record, before, after, ongoing, split, live⟩ :=
      reached.exists_read_of_enables step enables
    refine ⟨run, record, before, after, ongoing, split, live, ?_⟩
    intro held
    exact reached.heldAt_since split ⟨rfl, held⟩
  · intro index replacement before after split live
    obtain ⟨middle, following, reached', _, step⟩ := reached.exists_step split
    exact ⟨held_new_of_live reached'.sound step live,
      reached.heldAt_since split ⟨rfl, live⟩⟩
  · intro index run ongoing ended exchange inside enables
    obtain ⟨replacement, before, after, split, atHome, live⟩ :=
      reached.exists_replaced_of_settled ongoing ended inside enables
    refine ⟨replacement, before, after, split, atHome, live, ?_⟩
    exact reached.heldAt_since split ⟨atHome, live⟩

/-! ## A policy of a gateway -/

/-- The gateway's record as its author stored it. -/
def gatewayLive : Members := gatewayRecord "1" []

/-- The replacement that puts the operator's marks on the gateway's record. -/
def gatewayHold : Replacement where
  address := gatewayAddress
  body := gatewayRecord "1" gatewayMarks
  timeout := .int 30
  answer := .ok .null
  old := gatewayLive
  version := .str "2"

set_option maxRecDepth 2048 in
/-- The gateway's run leads up to the replacement that holds its record. -/
theorem gatewayHold_leads :
    ∃ next, (reconcile gatewayOperator gatewayAddress).Leads
      (gatewayLookup gatewayLive ++ gatewayAttachment (.ok (.obj [])))
      (.perform (.call gatewayHold.exchange.call) next) :=
  ⟨_, leads_of_follow 0 ⟨.null, none⟩ (by with_unfolding_all rfl)⟩

theorem gatewayHold_held :
    ∃ moves cluster,
      Reached gatewayOperator anyService LeavesFinalizer moves cluster ∧
      .replaced 0 gatewayHold ∈ moves ∧ ¬ Deleting gatewayHold.old ∧
      cluster.HeldAt gatewayAddress := by
  obtain ⟨rest, leads⟩ := gatewayHold_leads
  obtain ⟨moves, reached⟩ :
      ∃ moves, Reached gatewayOperator anyService LeavesFinalizer moves _ :=
    gatewayCluster_reached rfl leads (by simp [gatewayAttachment, Enables])
      (fun _ => trivial) (fun _ => trivial) (fun _ _ => trivial)
  have live : ¬ Deleting gatewayHold.old := by
    rintro ⟨⟩
  have step := gatewayPaused_replaced gatewayHold
    (gatewayLookup gatewayLive ++ gatewayAttachment (.ok (.obj [])))
      rest rfl rfl rfl rfl
  have whole := reached.step (by trivial) step
  obtain ⟨_, written, _⟩ := held_from_write_back whole
  obtain ⟨_, held | ⟨_, later, _⟩⟩ := written 0 gatewayHold moves [] rfl live
  · exact ⟨_, _, whole, List.mem_append_right _ List.mem_cons_self, live, held⟩
  · cases later

/-- The gateway's run leads up to the first change of its network. -/
theorem gatewayEnabling_leads :
    ∃ next, (reconcile gatewayOperator gatewayAddress).Leads
      (gatewayLookup gatewayLive ++ [])
      (.perform (.call (.setAuthType .serviceNetwork gatewayNetwork signedRequests))
        next) :=
  ⟨_, leads_of_follow 0 ⟨.null, none⟩ (by with_unfolding_all rfl)⟩

/--
Not every call that enables a resource is made while the stored record is held: the
first reconcile of a live record requires signed requests before it writes back.
-/
theorem enabling_not_always_held :
    ¬ ∀ moves cluster next index exchange run,
      Reached gatewayOperator anyService LeavesFinalizer moves cluster →
      Step gatewayOperator anyService cluster (.exchanged index exchange) next →
      Enables exchange.call →
      cluster.runs[index]? = some run →
      cluster.HeldAt run.address := by
  intro claimed
  obtain ⟨rest, leads⟩ := gatewayEnabling_leads
  obtain ⟨moves, reached⟩ :
      ∃ moves, Reached gatewayOperator anyService LeavesFinalizer moves _ :=
    gatewayCluster_reached rfl leads (by simp)
      (fun _ => trivial) (fun _ => trivial) (fun _ _ => trivial)
  have answered :
      (gatewayPaused gatewayLive (gatewayLookup gatewayLive ++ [])
        (.perform _ rest)).Answers
        anyService (.setAuthType .serviceNetwork gatewayNetwork signedRequests)
        (.ok .null) () :=
    trivial
  obtain ⟨record, stored, held⟩ :=
    claimed moves _ _ 0 _ _ reached (.exchanged rfl rfl answered)
      (.inl ⟨_, _, rfl⟩) rfl
  simp only [gatewayPaused, gatewayCluster, Function.update_self, Option.some.injEq]
    at stored
  rw [← stored] at held
  exact absurd held List.not_mem_nil

end PolicyReconciler.Cluster

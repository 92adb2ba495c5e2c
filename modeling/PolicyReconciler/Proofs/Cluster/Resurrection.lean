import PolicyReconciler.Proofs.Cluster.Hold
import PolicyReconciler.Proofs.Cluster.Service
import PolicyReconciler.Proofs.World.Convergence

namespace PolicyReconciler.Cluster

/-!
# Resources of released records

The version of a record guards the record, but not the calls to the service.  So a
reconcile that has read a record while it was live may attach its policy again after
another one has cleaned up and released the record.  Nothing else can.
-/

open Program Policy VpcLattice Reconcile PolicyStore

variable {Time Cloud : Type} [TimeScale Time]
variable {operator : Operator Time}
variable {serves : Service Cloud}
variable {pages : Pages}
variable {moves before after : List Move}
variable {cluster next : Cluster Time Cloud}
variable {address : Address}
variable {identifier : Json}
variable {index : Nat}

/--
Whether a move is one of the reconciles of one record, or of others who neither take
back the deletion of the record nor store it again once it is gone.
-/
def OneRecord (address : Address) (cluster : Cluster Time Cloud) : Move → Prop
  | .began other => other = address
  | .stored other record => other = address →
      ∃ old, cluster.records address = some old ∧ (Deleting old → Deleting record)
  | _ => True

/-- A reconcile reads a record. -/
abbrev Move.read
    (operator : Operator Time)
    (address : Address)
    (index : Nat)
    (record : Members) : Move :=
  .exchanged index ⟨readCall operator address, .ok (.obj record)⟩

/-- A reconcile removes the policy of a resource, or finds it gone. -/
abbrev Move.removal
    (index : Nat)
    (identifier : Json)
    (answer : Except Fault Json) : Move :=
  .exchanged index ⟨.deleteAuthPolicy identifier, answer⟩

/-- A reconcile ends the auth of a resource. -/
abbrev Move.opening
    (index : Nat)
    (kind : ResourceKind)
    (identifier answer : Json) : Move :=
  .exchanged index ⟨.setAuthType kind identifier noAuth, .ok answer⟩

/-- Whether no live record is stored at an address. -/
def Leaving (cluster : Cluster Time Cloud) (address : Address) : Prop :=
  ∀ record, cluster.records address = some record → Deleting record

/-- A record that is being deleted never comes back to life. -/
theorem leaving_step
    {move : Move}
    (sound : cluster.Sound operator)
    (allowed : OneRecord address cluster move)
    (step : Step operator serves cluster move next)
    (leaving : cluster.Leaving address) :
    next.Leaving address := by
  intro record stored
  cases move with
  | began other | passed index | exchanged index exchange =>
      cases step
      exact leaving record stored
  | replaced index replacement =>
      have kept := deleting_body_iff sound step
      cases step with
      | replaced ongoing performs found current fresh =>
          by_cases same : replacement.address = address
          · subst same
            have isNew : some replacement.new = some record :=
              (records_store_same _).symm.trans stored
            obtain rfl := Option.some.inj isNew
            rw [Replacement.new, deleting_restamp, kept]
            exact leaving replacement.old found
          · exact leaving record
              ((records_store_other _ (Ne.symm same)).symm.trans stored)
  | stored other new =>
      cases step
      by_cases same : other = address
      · subst same
        obtain ⟨old, found, kept⟩ := allowed rfl
        have isNew := (records_store_same new).symm.trans stored
        obtain rfl := Option.some.inj isNew
        exact kept (leaving old found)
      · exact leaving record
          ((records_store_other new (Ne.symm same)).symm.trans stored)
  | removed other =>
      cases step
      by_cases same : other = address
      · subst same
        simp [Cluster.remove] at stored
      · exact leaving record
          ((records_remove_other (Ne.symm same)).symm.trans stored)

/--
After a record was read that is being deleted, no live record is stored any more.
-/
theorem Reached.leaving_since
    {record : Members}
    (reached : Reached operator serves (OneRecord address) moves cluster)
    (split : moves =
      before ++ .read operator address index record :: after)
    (deleting : Deleting record) :
    cluster.Leaving address := by
  have since : cluster.Leaving address ∨ ∃ later ∈ after, False := by
    apply reached.since split
    · intro current next reached' step stored found
      cases step with
      | exchanged ongoing performs answered =>
          obtain ⟨record', known, same⟩ :=
            Option.map_eq_some_iff.mp (answered.2 _ rfl)
          have isRecord := known.symm.trans found
          cases same
          obtain rfl := Option.some.inj isRecord
          exact deleting
    · intro earlier current later next reached' allowed step leaving
      exact .inl (leaving_step reached'.sound allowed step leaving)
  simpa using since

/-- After a record was read that is being deleted, no live one is read any more. -/
theorem Reached.deleting_of_read_since
    {other : Nat}
    {record later : Members}
    (reached : Reached operator serves (OneRecord address) moves cluster)
    (split : moves = before ++ .read operator address index record :: after)
    (deleting : Deleting record)
    (inside : .read operator address other later ∈ after) :
    Deleting later := by
  obtain ⟨start, rest, rfl⟩ := List.append_of_mem inside
  have whole : moves = (before ++ .read operator address index record :: start) ++
      .read operator address other later :: rest := by
    simp [split]
  obtain ⟨current, _, reached', _, step⟩ := reached.exists_step whole
  have leaving := reached'.leaving_since rfl deleting
  cases step with
  | exchanged ongoing performs answered =>
      obtain ⟨stored, found, same⟩ := Option.map_eq_some_iff.mp (answered.2 _ rfl)
      cases same
      exact leaving later found

/-- Whether a move makes one of some calls that change no record. -/
def Move.Makes (makes : Call → Prop) : Move → Prop
  | .exchanged _ exchange => makes exchange.call
  | _ => False

/--
Whether a reconcile that had read a live record by earlier moves makes one of some
calls by later ones.
-/
def Overtakes
    (operator : Operator Time)
    (address : Address)
    (earlier later : List Move)
    (makes : Call → Prop) : Prop :=
  ∃ index record exchange,
    .read operator address index record ∈ earlier ∧
    ¬ Deleting record ∧
    .exchanged index exchange ∈ later ∧ makes exchange.call

/--
A call that enables a resource after the deletion was read follows an earlier live
read.
-/
theorem Reached.overtakes
    {record : Members}
    {makes : Call → Prop}
    {last : List Move}
    {later : Move}
    (reached : Reached operator serves (OneRecord address) moves cluster)
    (split : moves = before ++ .read operator address index record :: after)
    (deleting : Deleting record)
    (part : last <:+ after)
    (inside : later ∈ last)
    (made : later.Makes makes)
    (enabling : ∀ call, makes call → Enables call) :
    Overtakes operator address before last makes := by
  cases later with
  | exchanged other exchange =>
      obtain ⟨first, second, rfl⟩ := List.append_of_mem (part.subset inside)
      have whole :
          moves = (before ++ .read operator address index record :: first) ++
          .exchanged other exchange :: second := by
        simp [split]
      obtain ⟨middle, next, reached', _, step⟩ := reached.exists_step whole
      obtain ⟨run, live, _, _, ongoing, reads, spared⟩ :=
        reached'.exists_read_of_enables step (enabling _ made)
      have ofRecord : run.address = address :=
        reached'.runs_at (fun _ _ allowed => allowed) (List.mem_of_getElem? ongoing)
      have known : .read operator address other live ∈
          before ++ .read operator address index record :: first := by
        rw [reads, ofRecord]
        exact List.mem_append_right _ List.mem_cons_self
      rcases List.mem_append.mp known with start | isRead | ⟨_, since⟩
      · exact ⟨other, live, exchange, start, spared, inside, made⟩
      · exact absurd deleting spared
      · exact absurd (reached'.deleting_of_read_since rfl deleting since) spared
  | _ =>
      exact made.elim

/-! ## Resources since they were cleaned up -/

/-- Puts a policy on the resource. -/
def Attaches (identifier : Json) (call : Call) : Prop :=
  ∃ document, call = .putAuthPolicy identifier document

/-- Closes the resource to unsigned requests. -/
def Secures (identifier : Json) (call : Call) : Prop :=
  ∃ kind, call = .setAuthType kind identifier signedRequests

section Resources

variable {allows : Cluster Time World.Resources → Move → Prop}
variable {cluster next : Cluster Time World.Resources}

/-- The resources change only by a call that takes effect. -/
theorem Step.applied_or_eq
    {move : Move}
    (step : Step operator (Faulty (lattice pages)) cluster move next) :
    next.cloud = cluster.cloud ∨
      ∃ index run exchange, move = .exchanged index exchange ∧
        cluster.runs[index]? = some run ∧
        (cluster.Sound operator →
          Underway operator run.address run.history exchange.call) ∧
        next.cloud = World.applied exchange.call cluster.cloud := by
  cases step with
  | @exchanged index run request answer cloud rest ongoing performs answered =>
      have served :
          cloud = World.applied request cluster.cloud ∨ cloud = cluster.cloud := by
        cases request with
        | readRecord | replaceRecord =>
            exact .inr answered.1
        | _ =>
            exact faulty_applied_or_eq answered
      rcases served with taken | unchanged
      · refine .inr ⟨index, run, _, rfl, ongoing, ?_, taken⟩
        intro sound
        exact (sound.runs run (List.mem_of_getElem? ongoing)).underway performs
      · exact .inl unchanged
  | _ =>
      exact .inl rfl

/--
A record is released by a reconcile that has read it, and then cleaned its resource
up.
-/
theorem Reached.exists_cleanup
    {release : Replacement}
    (reached :
      Reached operator (Faulty (lattice pages)) (OneRecord address) moves cluster)
    (step :
      Step operator (Faulty (lattice pages)) cluster (.replaced index release) next)
    (released : ¬ Held release.new) :
    ∃ policy kind identifier removed answer earlier reading between last,
      ofMembers release.old = .ok policy ∧ Deleting release.old ∧
      Targets operator pages policy identifier ∧ Removed removed ∧
      moves = earlier ++
        .read operator address index release.old :: reading ++
        .removal index identifier removed :: between ++
        .opening index kind identifier answer :: last := by
  cases step with
  | @replaced _ run _ _ ongoing performs stored current fresh =>
      obtain ⟨policy, kind, identifier, reads, lookups, changes, atHome,
          concludes, written⟩ :=
        reached.sound.replaces ongoing performs stored current
      have deleting := deleting_of_releases concludes written released
      obtain ⟨resource, removed, answer, rfl, gone⟩ :=
        cleansUp_of_carried deleting concludes.change
      have ofRecord : run.address = address :=
        reached.runs_at (fun _ _ allowed => allowed) (List.mem_of_getElem? ongoing)
      have shown := reached.showsPage (fun _ _ _ _ => faulty_showsPage)
        (List.mem_of_getElem? ongoing)
      have targets : Targets operator pages policy identifier := by
        apply targets_of_lookup concludes.supported concludes.lookup
        intro exchange inside
        apply shown
        rw [concludes.history_eq]
        exact List.mem_append_left _ (List.mem_append_right _ inside)
      obtain ⟨tries, repeats, isReads⟩ := List.append_of_mem concludes.read
      have history : moves.filterMap (Move.exchangeOf index) = tries ++
          ⟨readCall operator address, .ok (.obj release.old)⟩ ::
            (repeats ++ lookups ++
            ⟨.deleteAuthPolicy identifier, removed⟩ :: ([] ++
              ⟨.setAuthType resource identifier noAuth, .ok answer⟩ :: [])) := by
        rw [← reached.historyOf_eq, historyOf_of_ongoing ongoing,
          concludes.history_eq, isReads, ofRecord]
        simp
      -- each of the three exchanges was made by a move, one after the other
      obtain ⟨earlier, first, rest, rfl, isRead, later⟩ :=
        exists_split_of_filterMap history
      obtain ⟨reading, second, rest, rfl, isRemoval, later⟩ :=
        exists_split_of_filterMap later
      obtain ⟨between, third, last, rfl, isChange, _⟩ :=
        exists_split_of_filterMap later
      obtain rfl :=
        Move.eq_exchanged isRead (not_writes_of_looks (.inl ⟨_, _, rfl⟩))
      obtain rfl := Move.eq_exchanged isRemoval (by rintro ⟨_, _, _, ⟨⟩⟩)
      obtain rfl := Move.eq_exchanged isChange (by rintro ⟨_, _, _, ⟨⟩⟩)
      exact ⟨policy, resource, identifier, removed, answer, earlier,
        reading, between, last, concludes.parsed,
        (shows_of_ofMembers concludes.parsed).deleting_iff.mp deleting,
        targets, gone, by simp⟩

/-- A policy that was removed is gone, unless one was attached since. -/
theorem Reached.bare_since
    {answer : Except Fault Json}
    (reached : Reached operator (Faulty (lattice pages)) allows moves cluster)
    (split : moves = before ++ .removal index identifier answer :: after)
    (removed : Removed answer) :
    (cluster.cloud identifier).policy = none ∨
      ∃ later ∈ after, later.Makes (Attaches identifier) := by
  have since : (fun current : Cluster Time World.Resources =>
      (current.cloud identifier).policy = none) cluster ∨
        ∃ later ∈ after, later.Makes (Attaches identifier) := by
    apply reached.since split
    · intro current next _ step
      cases step with
      | exchanged ongoing performs answered =>
          exact faulty_removed answered removed
    · intro earlier current later next _ _ step bare
      rcases step.applied_or_eq with same | ⟨other, run, exchange, rfl, _, _, taken⟩
      · exact .inl (by rw [same]; exact bare)
      · rw [taken]
        exact World.applied_policy bare
  exact since

/-- An auth that was ended stays so, unless signed requests were required since. -/
theorem Reached.open_since
    {kind : ResourceKind}
    {body : Json}
    (reached : Reached operator (Faulty (lattice pages)) allows moves cluster)
    (split : moves =
      before ++ .opening index kind identifier body :: after) :
    (cluster.cloud identifier).authType = noAuth ∨
      ∃ later ∈ after, later.Makes (Secures identifier) := by
  have since : (fun current : Cluster Time World.Resources =>
      (current.cloud identifier).authType = noAuth) cluster ∨
        ∃ later ∈ after, later.Makes (Secures identifier) := by
    apply reached.since split
    · intro current next _ step
      cases step with
      | exchanged ongoing performs answered =>
          exact faulty_authType answered
    · intro earlier current later next reached' _ step opened
      rcases step.applied_or_eq with
        same | ⟨other, run, exchange, rfl, _, underway, taken⟩
      · exact .inl (by rw [same]; exact opened)
      · rw [taken]
        rcases World.applied_authType exchange.call current.cloud identifier with
          same | ⟨kind', authType, isChange, changed⟩
        · exact .inl (same.trans opened)
        · have underway := underway reached'.sound
          rw [isChange] at underway
          rcases underway.classified with looks | disables | enables | writes
          · rcases looks with ⟨_, _, impossible⟩ | ⟨_, _, impossible⟩ <;>
              cases impossible
          · rcases disables with ⟨_, impossible⟩ | ⟨_, _, same⟩
            · cases impossible
            · cases same
              exact .inl changed
          · rcases enables with ⟨_, _, same⟩ | ⟨_, _, impossible⟩
            · cases same
              exact .inr ⟨_, isChange⟩
            · cases impossible
          · obtain ⟨_, _, _, impossible⟩ := writes
            cases impossible
  exact since

/--
In every cluster that moves lead to, however calls fail: a record is released by a
reconcile that has read it as being deleted, and then removed the policy of its
resource and ended the auth there.  Since then the resource has no policy and
requires no signed requests, unless a reconcile overtakes: it had read the record
live before that one has read it, and it attaches its policy, or requires signed
requests, only after the removal and the end of the auth.
-/
theorem clean_unless_overtaken
    {release : Replacement}
    (reached :
      Reached operator (Faulty (lattice pages)) (OneRecord address) moves cluster)
    (split : moves = before ++ .replaced index release :: after)
    (released : ¬ Held release.new) :
    ∃ policy kind identifier removed answer earlier reading between last,
      ofMembers release.old = .ok policy ∧ Deleting release.old ∧
      Targets operator pages policy identifier ∧ Removed removed ∧
      before = earlier ++
        .read operator address index release.old :: reading ++
        .removal index identifier removed :: between ++
        .opening index kind identifier answer :: last ∧
      ((cluster.cloud identifier).policy = none ∨
        Overtakes operator address earlier
          (between ++ .opening index kind identifier answer ::
            last ++ .replaced index release :: after)
          (Attaches identifier)) ∧
      ((cluster.cloud identifier).authType = noAuth ∨
        Overtakes operator address earlier
          (last ++ .replaced index release :: after)
          (Secures identifier)) := by
  obtain ⟨middle, following, reached', _, step⟩ := reached.exists_step split
  obtain ⟨policy, kind, identifier, removed, answer, earlier, reading,
      between, last, parsed,
    deleting, targets, gone, whole⟩ := reached'.exists_cleanup step released
  rw [whole] at split
  -- the same moves, split at the read, at the removal and at the end of the auth
  have sinceRead : moves = earlier ++ .read operator address index release.old ::
      (reading ++ .removal index identifier removed :: between ++
        .opening index kind identifier answer :: last ++
          .replaced index release :: after) := by
    simpa using split
  have sinceRemoval : moves =
      (earlier ++ .read operator address index release.old :: reading) ++
        .removal index identifier removed ::
          (between ++ .opening index kind identifier answer :: last ++
            .replaced index release :: after) := by
    simpa using split
  have sinceOpening : moves =
      (earlier ++ .read operator address index release.old :: reading ++
        .removal index identifier removed :: between) ++
          .opening index kind identifier answer ::
            (last ++ .replaced index release :: after) := by
    simpa using split
  refine ⟨policy, kind, identifier, removed, answer, earlier, reading,
    between, last, parsed, deleting, targets, gone, whole, ?_, ?_⟩
  · rcases reached.bare_since sinceRemoval gone with bare | ⟨later, inside, made⟩
    · exact .inl bare
    · right
      apply reached.overtakes sinceRead deleting _ inside made
      · rintro _ ⟨document, rfl⟩
        exact .inr ⟨_, _, rfl⟩
      · exact ⟨reading ++ [.removal index identifier removed], by simp⟩
  · rcases reached.open_since sinceOpening with opened | ⟨later, inside, made⟩
    · exact .inl opened
    · right
      apply reached.overtakes sinceRead deleting _ inside made
      · rintro _ ⟨resource, rfl⟩
        exact .inl ⟨_, _, rfl⟩
      · exact ⟨reading ++ .removal index identifier removed :: between ++
          [.opening index kind identifier answer], by simp⟩

end Resources

/-! ## A policy of a gateway -/

/-- The target that a record names. -/
def targetOf (record : Members) : Except Fault TargetRef :=
  (section? record "spec").bind fun spec =>
    TargetRef.ofJson (spec.getD "targetRef" (.obj []))

/-- A move under which the stored record keeps its target. -/
def KeepsTarget (address : Address) (cluster : Cluster Time Cloud) : Move → Prop
  | .stored other record => other = address →
      ∀ old, cluster.records address = some old → targetOf record = targetOf old
  | _ => True

/--
Whether a move is one of the reconciles of one record whose target stays the same.
-/
def OneTarget
    (address : Address)
    (cluster : Cluster Time Cloud)
    (move : Move) :
    Prop :=
  OneRecord address cluster move ∧ KeepsTarget address cluster move

/-- The gateway's record, held by the operator's finalizer. -/
def gatewayHeld : Members :=
  gatewayRecord "1" [("finalizers", .arr [operatorFinalizer])]

/-- The record of the gateway once its deletion was asked for. -/
def gatewayDoomed : Members :=
  gatewayRecord "2" gatewayDeleting

/-- The write-back that releases the record. -/
def gatewayDismissal : Replacement where
  address := gatewayAddress
  body := gatewayRecord "2" [("deletionTimestamp", .str "2025-01-01T00:00:00Z"),
    ("finalizers", .arr []),
      ("annotations", .obj [( resourceAnnotation, gatewayNetwork)])]
  timeout := .int 30
  answer := .ok .null
  old := gatewayDoomed
  version := .str "3"

/-- The listing in which the gateway's network is found. -/
def gatewayListing : Exchange where
  call := .listPage .serviceNetwork none
  answer :=
    .ok (.obj [("items", .arr
      [.obj [("name", .str "front"), ("id", gatewayNetwork)]])])

/--
The last exchanges of a reconcile that has read the live record and listed its
target.
-/
def gatewayBelated : History :=
  gatewayAttachment (.ok (.obj [])) ++
    [⟨.replaceRecord gatewayAddress
      (.obj (gatewayRecord "1" gatewayMarks)) (.int 30), .error World.conflict⟩]

set_option maxRecDepth 2048 in
/-- The belated run attaches the policy by what it read before. -/
theorem gatewayBelated_leads :
    ∃ outcome, (reconcile gatewayOperator gatewayAddress).Leads
      ([⟨readCall gatewayOperator gatewayAddress, .ok (.obj gatewayHeld)⟩] ++
        gatewayListing :: gatewayBelated) (.done outcome) :=
  ⟨_, leads_of_follow 0 ⟨.null, none⟩ (by with_unfolding_all rfl)⟩

set_option maxRecDepth 2048 in
/-- The deleting run detaches the policy and releases the record. -/
theorem gatewayDismissal_leads :
    ∃ outcome, (reconcile gatewayOperator gatewayAddress).Leads
      (gatewayLookup gatewayDoomed ++ gatewayDetachment ++
      gatewayDismissal.exchange :: [])
      (.done outcome) :=
  ⟨_, leads_of_follow 0 ⟨.null, none⟩ (by with_unfolding_all rfl)⟩

/--
A world that lists the network of the gateway and stores the live policy, held.
-/
noncomputable def gatewayHeldWorld : World :=
  World.gatewayWorld.store gatewayAddress gatewayHeld

/-- The world with the held record is a cluster before any run. -/
theorem gatewayHeldWorld_initial :
    (ofWorld gatewayHeldWorld : Cluster Rat World.Resources).Initial :=
  ofWorld_initial (World.own_store World.gatewayWorld_own rfl)

section Race

variable {cluster : Cluster Rat World.Resources}

/-- The read is what the cluster answers. -/
theorem gatewayRead_replays
    {record : Members}
    (stored : cluster.records gatewayAddress = some record) :
    Replays (cluster.answering (lattice World.gatewayWorld.pages)) cluster.cloud
      [⟨readCall gatewayOperator gatewayAddress, .ok (.obj record)⟩]
        cluster.cloud := by
  refine .cons ⟨rfl, ?_⟩ (.nil _)
  rintro body same
  cases same
  simp [stored]

/-- The detachment is what the service answers while there is no policy. -/
theorem gatewayDismissal_replays
    (stored : cluster.records gatewayAddress = some gatewayDoomed)
    (bare : (cluster.cloud gatewayNetwork).policy = none) :
    Replays (cluster.answering (lattice World.gatewayWorld.pages)) cluster.cloud
      (gatewayLookup gatewayDoomed ++ gatewayDetachment)
      (World.applied (.setAuthType .serviceNetwork gatewayNetwork noAuth)
        cluster.cloud) := by
  refine .cons ⟨rfl, ?_⟩
    (.cons ⟨_, .listed _ _, rfl⟩ (.cons ⟨_, .bare bare rfl, rfl⟩
    (.cons ⟨_, .changed _ rfl, rfl⟩ (.nil _))))
  rintro body same
  cases same
  simp [stored]

/-- The belated attachment is what the service answers. -/
theorem gatewayBelated_replays :
    Replays (cluster.answering (lattice World.gatewayWorld.pages)) cluster.cloud
      (gatewayListing :: gatewayBelated)
      (World.applied (.putAuthPolicy gatewayNetwork (.str "allow"))
        (World.applied (.setAuthType .serviceNetwork gatewayNetwork signedRequests)
          cluster.cloud)) :=
  .cons ⟨_, .listed _ _, rfl⟩
    (.cons ⟨_, .changed _ rfl, rfl⟩ (.cons ⟨_, .attached _ _ _, rfl⟩
    (.cons ⟨rfl, _, rfl⟩ (.nil _))))

end Race

/--
The cluster that has come from the world, with the records that were stored since.
-/
noncomputable def gatewayShared
    (later : List Members)
    (cloud : World.Resources)
    (runs : List (Ongoing Rat)) : Cluster Rat World.Resources :=
  { later.foldr (fun record (current : Cluster Rat World.Resources) =>
      current.store gatewayAddress record) (ofWorld gatewayHeldWorld) with
    cloud := cloud
    runs := runs }

theorem gatewayShared_fresh
    {cloud : World.Resources}
    {runs : List (Ongoing Rat)}
    {version : Json}
    (other : version ≠ .str "1") :
    (gatewayShared [] cloud runs).Fresh gatewayAddress version := by
  have fresh :
      (ofWorld gatewayHeldWorld : Cluster Rat World.Resources).Fresh gatewayAddress
      version :=
    ofWorld_fresh World.records_store_same other.symm
  exact fresh

theorem gatewayDoomed_version : versionOf gatewayDoomed = .str "2" :=
  rfl

/-- The deletion may be requested while both runs are under way. -/
theorem gatewayShared_doomed
    (cloud : World.Resources)
    (runs : List (Ongoing Rat)) :
    Step gatewayOperator (lattice World.gatewayWorld.pages)
      (gatewayShared [] cloud runs)
      (.stored gatewayAddress gatewayDoomed)
        (gatewayShared [gatewayDoomed] cloud runs) :=
  .stored rfl (gatewayShared_fresh (by simp [gatewayDoomed_version]))

/-- The deleting run may release the record while the other is under way. -/
theorem gatewayShared_dismissed
    {cloud : World.Resources}
    {first second : Ongoing Rat}
    {write : Except Fault Json → Program Rat (ReconcileResult Nat)}
    (performs :
      second.rest = .perform (.call gatewayDismissal.exchange.call) write) :
    Step gatewayOperator (lattice World.gatewayWorld.pages)
      (gatewayShared [gatewayDoomed] cloud [first, second])
      (.replaced 1 gatewayDismissal)
      (gatewayShared [gatewayDismissal.new, gatewayDoomed] cloud
        [first, second.advance [gatewayDismissal.exchange]
          (write gatewayDismissal.answer)]) := by
  have fresh :
      (gatewayShared [] cloud [first, second]).Fresh gatewayAddress (.str "3") :=
    gatewayShared_fresh (by simp)
  have stored : ((gatewayShared [] cloud [first, second]).store gatewayAddress
      gatewayDoomed).records gatewayAddress = some gatewayDoomed :=
    records_store_same gatewayDoomed
  exact .replaced rfl performs stored rfl
    (fresh.store (by simp [gatewayDoomed_version]))

/-- The request to delete leaves the record its target. -/
theorem gatewayDoomed_allowed
    (cloud : World.Resources)
    (runs : List (Ongoing Rat)) :
    OneTarget gatewayAddress (gatewayShared [] cloud runs)
      (.stored gatewayAddress gatewayDoomed) := by
  have held : gatewayHeldWorld.records gatewayAddress = some gatewayHeld :=
    World.records_store_same
  refine ⟨fun _ => ⟨gatewayHeld, held, fun _ => rfl⟩, fun _ old found => ?_⟩
  cases held.symm.trans found
  rfl

/--
A reconcile reads the live record, another one cleans up and releases the record
after its deletion was asked for, and only then the first one goes on.
-/
theorem gatewayRace :
    ∃ moves cluster,
      Reached gatewayOperator (lattice World.gatewayWorld.pages)
        (OneTarget gatewayAddress)
        moves cluster ∧
      .replaced 1 gatewayDismissal ∈ moves ∧
      (∀ run ∈ cluster.runs, ∃ outcome, run.rest = .done outcome) ∧
      cluster.cloud gatewayNetwork = ⟨signedRequests, some (.str "allow")⟩ := by
  obtain ⟨late, belated⟩ := gatewayBelated_leads
  obtain ⟨released, dismissed⟩ := gatewayDismissal_leads
  obtain ⟨list, reads, belated⟩ := belated.split_call
  obtain ⟨write, cleans, dismissed⟩ := dismissed.split_call
  have start : Reached gatewayOperator (lattice World.gatewayWorld.pages)
      (OneTarget gatewayAddress) []
      (gatewayShared [] gatewayHeldWorld.resources []) :=
    .initial gatewayHeldWorld_initial
  -- the first reconcile reads the live record
  have begun := start.step (by exact ⟨rfl, trivial⟩) (.began gatewayAddress)
  obtain ⟨first, reading⟩ := begun.follow 0 rfl reads
    (gatewayRead_replays World.records_store_same) (fun _ => ⟨trivial, trivial⟩)
    (fun _ _ => ⟨trivial, trivial⟩)
  -- a user asks for the deletion, and a second reconcile cleans up and releases the
  -- record
  have asked := reading.step (gatewayDoomed_allowed _ _) (gatewayShared_doomed _ _)
  have begun := asked.step (by exact ⟨rfl, trivial⟩) (.began gatewayAddress)
  obtain ⟨second, cleaning⟩ := begun.follow 1 rfl cleans
    (gatewayDismissal_replays (records_store_same _) rfl)
      (fun _ => ⟨trivial, trivial⟩)
    (fun _ _ => ⟨trivial, trivial⟩)
  have release :=
    cleaning.step (by exact ⟨trivial, trivial⟩) (gatewayShared_dismissed rfl)
  obtain ⟨third, ended⟩ :=
    release.follow 1 rfl dismissed (.nil _) (fun _ => ⟨trivial, trivial⟩)
    (fun _ _ => ⟨trivial, trivial⟩)
  -- the first one finds the target of the live record, and goes on
  obtain ⟨last, whole⟩ :=
    ended.follow 0 rfl (.perform _ belated) gatewayBelated_replays
    (fun _ => ⟨trivial, trivial⟩) (fun _ _ => ⟨trivial, trivial⟩)
  refine ⟨_, _, whole, by simp, ?_, ?_⟩
  · intro run inside
    rcases List.mem_cons.mp inside with rfl | isSecond
    · exact ⟨late, rfl⟩
    · obtain rfl := List.mem_singleton.mp isSecond
      exact ⟨released, rfl⟩
  · simp [resume, World.applied]

/-- The dismissed record is no longer held. -/
theorem gatewayDismissal_released : ¬ Held gatewayDismissal.new :=
  List.not_mem_nil

/--
A released record does not always leave a clean resource: the policy is attached
again where a reconcile had read the record while it was live.
-/
theorem not_always_clean :
    ¬ ∀ moves cluster index release,
      Reached gatewayOperator (lattice World.gatewayWorld.pages)
        (OneTarget gatewayAddress)
        moves cluster →
      .replaced index release ∈ moves →
      Deleting release.old → Held release.old → ¬ Held release.new →
      (∀ run ∈ cluster.runs, ∃ outcome, run.rest = .done outcome) →
      cluster.cloud gatewayNetwork = ⟨noAuth, none⟩ := by
  intro claimed
  obtain ⟨moves, cluster, reached, inside, ended, attached⟩ := gatewayRace
  have clean := claimed moves cluster 1 gatewayDismissal reached inside rfl
    (List.mem_singleton_self operatorFinalizer) gatewayDismissal_released ended
  rw [attached] at clean
  injection clean with _ impossible
  cases impossible

theorem gatewayDismissal_overtaken :
    ∃ moves cluster,
      Reached gatewayOperator (Faulty (lattice World.gatewayWorld.pages))
        (OneRecord gatewayAddress) moves cluster ∧
      .replaced 1 gatewayDismissal ∈ moves ∧ ¬ Held gatewayDismissal.new ∧
      ∃ earlier later,
        Overtakes gatewayOperator gatewayAddress earlier later
          (Attaches gatewayNetwork) := by
  obtain ⟨moves, cluster, raced, inside, _, attached⟩ := gatewayRace
  obtain ⟨before, after, split⟩ := List.append_of_mem inside
  have reached : Reached gatewayOperator (Faulty (lattice World.gatewayWorld.pages))
      (OneRecord gatewayAddress) moves cluster :=
    raced.mono (fun _ _ _ _ => .served) (fun _ _ allowed => allowed.1)
  obtain ⟨policy, _, identifier, _, _, _, _, _, _,
      parsed, _, targets, _, _, bare | overtaken, _⟩ :=
    clean_unless_overtaken reached split gatewayDismissal_released
  · cases parsed
    obtain rfl : identifier = gatewayNetwork := targets.unique ⟨.gateway, rfl, rfl⟩
    rw [attached] at bare
    cases bare
  · cases parsed
    obtain rfl : identifier = gatewayNetwork := targets.unique ⟨.gateway, rfl, rfl⟩
    exact ⟨moves, cluster, reached, inside, gatewayDismissal_released,
      _, _, overtaken⟩

end PolicyReconciler.Cluster

import PolicyReconciler.Proofs.Reconcile.Stages
import PolicyReconciler.Proofs.Reconcile.Steady
import PolicyReconciler.Proofs.Turns.Part

namespace PolicyReconciler.Turns

/-!
# Independent reconciles

Jobs about different records, whose targets are different resources, have disjoint
parts of the world.  However they take turns, each of them sees what it sees alone,
so it makes the same calls and ends in the same way, and the world ends up with the
part of each job as that job alone leaves it.
-/

open Program Policy VpcLattice Reconcile PolicyStore

variable {Time Index : Type} [TimeScale Time] [DecidableEq Index]
variable {operator : Operator Time}
variable {serve : Serve}
variable {jobs : Index → Job}
variable {world middle last : World}
variable {schedule : Schedule Index}

/-- Whether jobs are about different records and use different resources. -/
structure Apart
    (operator : Operator Time)
    (jobs : Index → Job)
    (world : World) :
    Prop where
  records :
    ∀ first second, first ≠ second → (jobs first).address ≠ (jobs second).address
  resources : ∀ first second identifier, first ≠ second →
    (jobs first).Uses operator world identifier →
      ¬ (jobs second).Uses operator world identifier

/-- Whether the record of each job bears the name that it is stored under. -/
def Named (jobs : Index → Job) (world : World) : Prop :=
  ∀ index record, world.records (jobs index).address = some record →
    addressOf record = (jobs index).address

/-- Whether what a job has exchanged so far is the beginning of a finished run. -/
def Begun
    (operator : Operator Time)
    (jobs : Index → Job)
    (schedule : Schedule Index) : Prop :=
  ∀ index, ∃ later outcome,
    (reconcile operator (jobs index).address).Runs
      (historyOf schedule index ++ later) outcome

/-- Whether every job has come to an end. -/
def Finished
    (operator : Operator Time)
    (jobs : Index → Job)
    (schedule : Schedule Index) : Prop :=
  ∀ index, ∃ outcome,
    (reconcile operator (jobs index).address).Runs
      (historyOf schedule index) outcome

omit [TimeScale Time] [DecidableEq Index] in
/-- A call within the part of one job is outside of the part of every other. -/
theorem Apart.outside
    {call : Call}
    {first second : Index}
    (apart : Apart operator jobs world)
    (different : first ≠ second)
    (within : call.Within (jobs first).address ((jobs first).Uses operator world)) :
    call.record? ≠ some (jobs second).address ∧
      ∀ identifier, (jobs second).Uses operator world identifier →
        call.resource? ≠ some identifier := by
  refine ⟨?_, ?_⟩
  · intro named
    exact apart.records first second different (within.record _ named).symm
  · intro identifier used named
    exact apart.resources first second identifier different
      (within.resource _ named) used

/--
Whether jobs in the middle of a schedule have kept to their parts of the world, and
each is where it would be alone, with its part of the world as it would be then.
-/
structure Parted
    (operator : Operator Time)
    (serve : Serve)
    (jobs : Index → Job)
    (world : World)
    (schedule : Schedule Index)
    (middle : World) : Prop where
  pages : middle.pages = world.pages
  records : ∀ address, (∀ index, address ≠ (jobs index).address) →
    middle.records address = world.records address
  resources :
    ∀ identifier, (∀ index, ¬ (jobs index).Uses operator world identifier) →
    middle.resources identifier = world.resources identifier
  parts : ∀ index history outcome last,
    Alone operator serve (jobs index) world history outcome last →
      ∃ later paused count, history = historyOf schedule index ++ later ∧
        Replays ((jobs index).answering serve)
          (paused, (historyOf schedule index).length) later
          (last, count) ∧
        World.SameOn (jobs index).address
          ((jobs index).Uses operator world) middle paused

namespace Parted

/-- Before any turn the world is parted. -/
theorem start : Parted operator serve jobs world [] world where
  pages := rfl
  records := fun _ _ => rfl
  resources := fun _ _ => rfl
  parts := by
    rintro index history outcome last ⟨_, count, replays⟩
    exact ⟨history, world, count, rfl, replays, rfl, rfl, fun _ _ => rfl⟩

variable {index : Index}
variable {call : Call}
variable {answer : Except Fault Json}

/-- The next call of a job is the one that it makes alone, and is answered alike. -/
theorem next_alone
    (regular : serve.Regular)
    (named : Named jobs world)
    (parted : Parted operator serve jobs world schedule middle)
    (begun : Begun operator jobs (schedule ++ [(index, ⟨call, answer⟩)]))
    (answered :
      serve.struck ((jobs index).mishaps (historyOf schedule index).length)
      middle call = (answer, last))
    {history : History}
    {outcome : Except Fault (ReconcileResult Nat)}
    {final : World}
    (alone : Alone operator serve (jobs index) world history outcome final) :
    call.Within (jobs index).address ((jobs index).Uses operator world) ∧
      ∃ later paused count,
        history = historyOf (schedule ++ [(index, ⟨call, answer⟩)]) index ++ later ∧
          Replays ((jobs index).answering serve)
            (paused, (historyOf (schedule ++ [(index, ⟨call, answer⟩)])
              index).length) later
            (final, count) ∧
          World.SameOn (jobs index).address ((jobs index).Uses operator world)
            last paused := by
  have extended : historyOf (schedule ++ [(index, ⟨call, answer⟩)]) index =
      historyOf schedule index ++ [⟨call, answer⟩] := by
    rw [historyOf_append, historyOf_turn, if_pos rfl]
  obtain ⟨later, paused, count, rfl, replays, same⟩ :=
    parted.parts index history outcome final alone
  obtain ⟨others, reached, runs⟩ := begun index
  rw [extended, List.append_assoc] at runs
  -- after the same answers the program makes the same call as it makes alone
  obtain ⟨script, follows⟩ := reconcile_steady operator (jobs index).address
  obtain ⟨other, rest, rfl, sameCall⟩ :=
    (follows.tells runs).next_call (follows.tells alone.1)
  obtain ⟨made, response⟩ := other
  obtain rfl : made = call := sameCall
  have within :=
    alone.within regular (named index) (List.mem_append_right _ List.mem_cons_self)
  cases replays with
  | @cons _ next _ _ _ _ struck onward =>
      obtain ⟨taken, counted⟩ := struck
      obtain ⟨alike, agree⟩ := regular.struck_same
        ((jobs index).mishaps (historyOf schedule index).length) within same
      rw [answered, taken] at alike agree
      obtain rfl : answer = response := alike
      refine ⟨within, rest, next.1, count, ?_, ?_, agree⟩
      · rw [extended, List.append_assoc]
        rfl
      · rw [extended, List.length_append, List.length_singleton, ← counted]
        exact onward

/-- A turn leaves the world parted. -/
theorem turn
    (regular : serve.Regular)
    (named : Named jobs world)
    (apart : Apart operator jobs world)
    (parted : Parted operator serve jobs world schedule middle)
    (begun : Begun operator jobs (schedule ++ [(index, ⟨call, answer⟩)]))
    (answered :
      serve.struck ((jobs index).mishaps (historyOf schedule index).length)
      middle call = (answer, last)) :
    Parted operator serve jobs world
      (schedule ++ [(index, ⟨call, answer⟩)]) last := by
  obtain ⟨_, _, _, exists_alone⟩ := exists_alone operator serve (jobs index) world
  obtain ⟨within, _⟩ := parted.next_alone regular named begun answered exists_alone
  have left : (serve.struck ((jobs index).mishaps (historyOf schedule index).length)
      middle call).2 = last := by
    rw [answered]
  refine ⟨?_, ?_, ?_, ?_⟩
  · rw [← left, regular.pages_eq, parted.pages]
  · intro address unnamed
    rw [← left, regular.records_eq, parted.records address unnamed]
    intro isNamed
    exact unnamed index (within.record _ isNamed)
  · intro identifier unused
    rw [← left, regular.resources_eq, parted.resources identifier unused]
    intro isNamed
    exact unused index (within.resource _ isNamed)
  · intro other history outcome final alone
    by_cases same : index = other
    · subst same
      exact (parted.next_alone regular named begun answered alone).2
    · obtain ⟨later, paused, count, split, replays, agree⟩ :=
        parted.parts other history outcome final alone
      obtain ⟨record, resources⟩ := apart.outside same within
      have idle : historyOf (schedule ++ [(index, ⟨call, answer⟩)]) other =
          historyOf schedule other := by
        rw [historyOf_append, historyOf_turn, if_neg same, List.append_nil]
      rw [idle, ← left]
      exact ⟨later, paused, count, split, replays,
        regular.struck_other _ agree record resources⟩

/-- A job that has come to an end has done so as it does alone. -/
theorem of_runs
    {history : History}
    {outcome reached : Except Fault (ReconcileResult Nat)}
    {final : World}
    (parted : Parted operator serve jobs world schedule last)
    (runs : (reconcile operator (jobs index).address).Runs
      (historyOf schedule index) outcome)
    (alone : Alone operator serve (jobs index) world history reached final) :
    history = historyOf schedule index ∧ reached = outcome ∧
      World.SameOn (jobs index).address ((jobs index).Uses operator world)
        last final := by
  obtain ⟨later, paused, count, rfl, replays, same⟩ :=
    parted.parts index history reached final alone
  obtain ⟨script, follows⟩ := reconcile_steady operator (jobs index).address
  obtain ⟨rfl, rfl⟩ := (follows.tells runs).ended_inv (follows.tells alone.1)
  cases replays
  exact ⟨List.append_nil _, rfl, same⟩

end Parted

/--
However jobs take turns, each keeps to its part of the world and sees what it sees
alone.
-/
theorem Interleaves.parted
    (regular : serve.Regular)
    (named : Named jobs world)
    (apart : Apart operator jobs world)
    (interleaves : Interleaves serve jobs world schedule last)
    (begun : Begun operator jobs schedule) :
    Parted operator serve jobs world schedule last := by
  induction interleaves with
  | start =>
      exact .start
  | @turn schedule middle last index call answer before answered
        inductionHypothesis =>
      have earlier : Begun operator jobs schedule := by
        intro other
        obtain ⟨later, outcome, runs⟩ := begun other
        rw [historyOf_append, List.append_assoc] at runs
        exact ⟨_, _, runs⟩
      exact (inductionHypothesis earlier).turn regular named apart begun answered

/-! ## Finished jobs -/

/--
Whether the part of each job is as that job alone leaves it, and everything else is
as it was before.
-/
structure Merged
    (operator : Operator Time)
    (serve : Serve)
    (jobs : Index → Job)
    (world last : World) : Prop where
  pages : last.pages = world.pages
  records : ∀ address, (∀ index, address ≠ (jobs index).address) →
    last.records address = world.records address
  resources :
    ∀ identifier, (∀ index, ¬ (jobs index).Uses operator world identifier) →
    last.resources identifier = world.resources identifier
  parts : ∀ index history outcome final,
    Alone operator serve (jobs index) world history outcome final →
      World.SameOn (jobs index).address
        ((jobs index).Uses operator world) last final

omit [DecidableEq Index] in
/-- The parts decide the merged world. -/
theorem Merged.unique
    {other : World}
    (first : Merged operator serve jobs world last)
    (second : Merged operator serve jobs world other) :
    last = other := by
  have records : last.records = other.records := by
    funext address
    by_cases named : ∃ index, address = (jobs index).address
    · obtain ⟨index, rfl⟩ := named
      obtain ⟨_, _, final, alone⟩ := exists_alone operator serve (jobs index) world
      rw [(first.parts index _ _ final alone).record,
        (second.parts index _ _ final alone).record]
    · have unnamed : ∀ index, address ≠ (jobs index).address := not_exists.mp named
      rw [first.records address unnamed, second.records address unnamed]
  have resources : last.resources = other.resources := by
    funext identifier
    by_cases used : ∃ index, (jobs index).Uses operator world identifier
    · obtain ⟨index, used⟩ := used
      obtain ⟨_, _, final, alone⟩ := exists_alone operator serve (jobs index) world
      rw [(first.parts index _ _ final alone).resources identifier used,
        (second.parts index _ _ final alone).resources identifier used]
    · have unused : ∀ index, ¬ (jobs index).Uses operator world identifier :=
        not_exists.mp used
      rw [first.resources identifier unused, second.resources identifier unused]
  have pages : last.pages = other.pages := first.pages.trans second.pages.symm
  cases last
  cases other
  simp_all

/-- A finished schedule leaves the merged world. -/
theorem Interleaves.merged
    (regular : serve.Regular)
    (named : Named jobs world)
    (apart : Apart operator jobs world)
    (interleaves : Interleaves serve jobs world schedule last)
    (finished : Finished operator jobs schedule) :
    Parted operator serve jobs world schedule last ∧
      Merged operator serve jobs world last := by
  have begun : Begun operator jobs schedule := by
    intro index
    obtain ⟨outcome, runs⟩ := finished index
    exact ⟨[], outcome, by rwa [List.append_nil]⟩
  have parted := interleaves.parted regular named apart begun
  refine ⟨parted, parted.pages, parted.records, parted.resources, ?_⟩
  intro index history outcome final alone
  obtain ⟨_, runs⟩ := finished index
  exact (parted.of_runs runs alone).2.2

/--
Reconciles of different records with different targets commute.  However their calls
interleave, and whatever mishaps are set for each, a job makes the calls and meets
the outcome that it does alone, and the world ends up as when the jobs are done one
after the other, in whatever order.
-/
theorem reconciles_commute
    (regular : serve.Regular)
    (named : Named jobs world)
    (apart : Apart operator jobs world)
    (interleaves : Interleaves serve jobs world schedule last)
    (finished : Finished operator jobs schedule) :
    (∀ index outcome,
      (reconcile operator (jobs index).address).Runs
        (historyOf schedule index) outcome →
        ∀ history reached,
          (∃ final, Alone operator serve (jobs index) world history reached final) ↔
            history = historyOf schedule index ∧ reached = outcome) ∧
      ∀ order : List Index, order.Nodup → (∀ index, index ∈ order) →
        ∀ final, InTurn operator serve jobs world order final ↔ final = last := by
  obtain ⟨parted, merged⟩ := interleaves.merged regular named apart finished
  have inTurn_eq : ∀ order : List Index, order.Nodup → (∀ index, index ∈ order) →
      ∀ final, InTurn operator serve jobs world order final → final = last := by
    intro order once complete final inTurn
    obtain ⟨serial, turns, ended, _⟩ := inTurn.exists_interleaves once
    obtain ⟨_, alike⟩ :=
      turns.merged regular named apart fun index => ended index (complete index)
    exact alike.unique merged
  refine ⟨?_, ?_⟩
  · intro index outcome runs history reached
    constructor
    · rintro ⟨final, alone⟩
      obtain ⟨same, alike, _⟩ := parted.of_runs runs alone
      exact ⟨same, alike⟩
    · rintro ⟨rfl, rfl⟩
      obtain ⟨_, _, final, alone⟩ := exists_alone operator serve (jobs index) world
      obtain ⟨rfl, rfl, _⟩ := parted.of_runs runs alone
      exact ⟨final, alone⟩
  · intro order once complete final
    constructor
    · exact inTurn_eq order once complete final
    · rintro rfl
      obtain ⟨other, inTurn⟩ := exists_inTurn operator serve jobs world order
      obtain rfl := inTurn_eq order once complete other inTurn
      exact inTurn

/-! ## A policy of a gateway -/

/-- A policy of a second gateway, beside the first one. -/
def exitAddress : Address where
  recordNamespace := gatewayAddress.recordNamespace
  name := .str "exit"

/-- The record of a second gateway's policy. -/
def exitRecord : Members :=
  [("metadata",
    .obj [("name", exitAddress.name), ("namespace", exitAddress.recordNamespace),
      ("resourceVersion", .str "5")]),
    ("spec", .obj
      [("targetRef", .obj [("kind", .str "Gateway"), ("name", .str "back")]),
      ("policy", .str "deny")])]

/-- The service network that stands for the second gateway. -/
def exitNetwork : Json := .str "sn-2"

/-- The networks of both gateways. -/
def gatewayPage : Json :=
  .obj [("items", .arr [.obj [("name", .str "front"), ("id", gatewayNetwork)],
    .obj [("name", .str "back"), ("id", exitNetwork)]])]

/-- A world with the records of both gateways and both networks open. -/
noncomputable def gatewaysWorld : World :=
  World.store
    (World.store
      { resources := fun _ => ⟨noAuth, none⟩
        pages := fun _ _ => gatewayPage
        records := fun _ => none }
      gatewayAddress (gatewayRecord "1" []))
    exitAddress exitRecord

/-- One job for each gateway; the second one loses the answer to its fourth call. -/
def gatewayJobs : Bool → Job
  | false => ⟨gatewayAddress, fun _ => none⟩
  | true => ⟨exitAddress, fun number =>
      if number = 3 then some (.unanswered (.timeout "no answer")) else none⟩

/--
What a job exchanges until the resource of its record requires signed requests.
-/
def gatewayOpening
    (address : Address)
    (record : Members)
    (network : Json) :
    History :=
  [⟨readCall gatewayOperator address, .ok (.obj record)⟩,
    ⟨.listPage .serviceNetwork none, .ok gatewayPage⟩,
    ⟨.setAuthType .serviceNetwork network signedRequests, .ok (.obj [])⟩]

/--
The end of the first gateway's run: the policy is put and the record written back.
-/
def gatewayClosing : History :=
  [⟨.putAuthPolicy gatewayNetwork (.str "allow"),
    .ok (.obj [("policy", .str "allow")])⟩,
    ⟨.replaceRecord gatewayAddress
      (.obj (gatewayRecord "1" gatewayMarks)) (.int 30),
      .ok (.obj (gatewayRecord "1" gatewayMarks))⟩]

/-- The end of the second gateway's run: the policy is not put in time. -/
def exitClosing : History :=
  [⟨.putAuthPolicy exitNetwork (.str "deny"), .error (.timeout "no answer")⟩]

/-- The second job makes all its calls between those of the first. -/
def gatewaySchedule : Schedule Bool :=
  [] ++ (gatewayOpening gatewayAddress (gatewayRecord "1" []) gatewayNetwork).map
    (Prod.mk false) ++
    (gatewayOpening exitAddress exitRecord exitNetwork).map (Prod.mk true) ++
    exitClosing.map (Prod.mk true) ++ gatewayClosing.map (Prod.mk false)

set_option maxRecDepth 2048 in
/-- Both runs of the schedule are finished. -/
theorem gatewaySchedule_finished :
    Finished gatewayOperator gatewayJobs gatewaySchedule := by
  rintro (_ | _)
  · exact ⟨.ok settled, leads_of_follow 0 ⟨.null, none⟩ (by with_unfolding_all rfl)⟩
  · exact ⟨.error (.timeout "no answer"),
      leads_of_follow 0 ⟨.null, none⟩ (by with_unfolding_all rfl)⟩

/-- The records of both gateways are stored. -/
theorem gatewaysWorld_records :
    gatewaysWorld.records gatewayAddress = some (gatewayRecord "1" []) ∧
      gatewaysWorld.records exitAddress = some exitRecord := by
  have different : gatewayAddress ≠ exitAddress := by
    simp [gatewayAddress, exitAddress]
  refine ⟨?_, World.records_store_same⟩
  rw [gatewaysWorld, World.records_store_other different, World.records_store_same]

/-- The first exchanges of a run are what its job is answered. -/
theorem gatewayOpening_replays
    {address : Address}
    {record : Members}
    (job : Job)
    (network : Json)
    (calm : ∀ number < 3, job.mishaps number = none)
    (stored : world.records address = some record)
    (paged : world.pages = fun _ _ => gatewayPage)
    (kind : resourceKindOf network = .ok .serviceNetwork) :
    Replays (job.answering World.serve) (world, 0)
      (gatewayOpening address record network)
      (world.setAuth network ⟨signedRequests, (world.resources network).policy⟩,
        3) := by
  have read :
      job.answering World.serve (world, 0) (readCall gatewayOperator address)
      (.ok (.obj record)) (world, 1) :=
    ⟨by simp [calm, Serve.struck, World.serve, readCall, stored], rfl⟩
  have list : job.answering World.serve (world, 1) (.listPage .serviceNetwork none)
      (.ok gatewayPage) (world, 2) :=
    ⟨by simp [calm, Serve.struck, World.serve, paged], rfl⟩
  have change : job.answering World.serve (world, 2)
      (.setAuthType .serviceNetwork network signedRequests) (.ok (.obj []))
      (world.setAuth network ⟨signedRequests, (world.resources network).policy⟩,
        3) :=
    ⟨by simp [calm, Serve.struck, World.serve, kind], rfl⟩
  exact .cons read (.cons list (.cons change (.nil _)))

/-- The end of the first run is what its job is answered. -/
theorem gatewayClosing_replays
    (stored : world.records gatewayAddress = some (gatewayRecord "1" [])) :
    ∃ last, Replays ((gatewayJobs false).answering World.serve) (world, 3)
      gatewayClosing last := by
  let attached := world.setAuth gatewayNetwork
    ⟨(world.resources gatewayNetwork).authType, some (.str "allow")⟩
  have put : (gatewayJobs false).answering World.serve (world, 3)
      (.putAuthPolicy gatewayNetwork (.str "allow"))
        (.ok (.obj [("policy", .str "allow")]))
      (attached, 4) :=
    ⟨rfl, rfl⟩
  have kept : attached.records gatewayAddress = some (gatewayRecord "1" []) :=
    stored
  have current : versionOf (gatewayRecord "1" gatewayMarks) =
      versionOf (gatewayRecord "1" []) :=
    rfl
  have write : (gatewayJobs false).answering World.serve (attached, 4)
      (.replaceRecord gatewayAddress
        (.obj (gatewayRecord "1" gatewayMarks)) (.int 30))
      (.ok (.obj (gatewayRecord "1" gatewayMarks)))
      (attached.store gatewayAddress
        (restamp (gatewayRecord "1" gatewayMarks)
          (.arr [versionOf (gatewayRecord "1" [])])), 5) :=
    ⟨by simp only [gatewayJobs, Serve.struck, World.serve, kept, current, if_true],
      rfl⟩
  exact ⟨_, .cons put (.cons write (.nil _))⟩

/-- The end of the second run is what its job is answered. -/
theorem exitClosing_replays :
    Replays ((gatewayJobs true).answering World.serve) (world, 3) exitClosing
      (world.setAuth exitNetwork
        ⟨(world.resources exitNetwork).authType, some (.str "deny")⟩, 4) :=
  .cons ⟨rfl, rfl⟩ (.nil _)

/-- The schedule interleaves the two jobs. -/
theorem gatewaySchedule_interleaves :
    ∃ last, Interleaves World.serve gatewayJobs gatewaysWorld
      gatewaySchedule last := by
  obtain ⟨gateway, exit⟩ := gatewaysWorld_records
  let opened := gatewaysWorld.setAuth gatewayNetwork ⟨signedRequests, none⟩
  let both :=
    opened.setAuth exitNetwork
      ⟨signedRequests, (opened.resources exitNetwork).policy⟩
  let failed := both.setAuth exitNetwork
    ⟨(both.resources exitNetwork).authType, some (.str "deny")⟩
  have exitOpened : opened.records exitAddress = some exitRecord := exit
  have gatewayFailed :
      failed.records gatewayAddress = some (gatewayRecord "1" []) := gateway
  have calm : ∀ number < 3, (gatewayJobs true).mishaps number = none :=
    fun number early => if_neg (by omega)
  obtain ⟨last, closing⟩ := gatewayClosing_replays gatewayFailed
  have first :=
    gatewayOpening_replays (gatewayJobs false) gatewayNetwork (fun _ _ => rfl)
    gateway rfl rfl
  have second :=
    gatewayOpening_replays (gatewayJobs true) exitNetwork calm exitOpened rfl rfl
  have afterFirst := Interleaves.append first .start rfl
  have afterSecond := Interleaves.append second afterFirst rfl
  have afterFailure := Interleaves.append exitClosing_replays afterSecond rfl
  exact ⟨last.1, .append closing afterFailure rfl⟩

/-- The jobs' records carry their addresses. -/
theorem gatewayJobs_named : Named gatewayJobs gatewaysWorld := by
  obtain ⟨gateway, exit⟩ := gatewaysWorld_records
  rintro (_ | _) record stored
  · obtain rfl := Option.some.inj (gateway.symm.trans stored)
    rfl
  · obtain rfl := Option.some.inj (exit.symm.trans stored)
    rfl

/-- The jobs use different records and resources. -/
theorem gatewayJobs_apart : Apart gatewayOperator gatewayJobs gatewaysWorld := by
  obtain ⟨gateway, exit⟩ := gatewaysWorld_records
  have front : ∀ identifier,
      (gatewayJobs false).Uses gatewayOperator gatewaysWorld identifier →
        identifier = gatewayNetwork :=
    fun identifier used => used.eq_target gateway rfl ⟨.gateway, rfl, rfl⟩
  have back : ∀ identifier,
      (gatewayJobs true).Uses gatewayOperator gatewaysWorld identifier →
        identifier = exitNetwork :=
    fun identifier used => used.eq_target exit rfl ⟨.gateway, rfl, rfl⟩
  have different : gatewayNetwork ≠ exitNetwork := by
    simp [gatewayNetwork, exitNetwork]
  refine ⟨?_, ?_⟩
  · rintro (_ | _) (_ | _) distinct
    · exact absurd rfl distinct
    · simp [gatewayJobs, gatewayAddress, exitAddress]
    · simp [gatewayJobs, gatewayAddress, exitAddress]
    · exact absurd rfl distinct
  · rintro (_ | _) (_ | _) identifier distinct first second
    · exact distinct rfl
    · exact different ((front identifier first).symm.trans (back identifier second))
    · exact different ((front identifier second).symm.trans (back identifier first))
    · exact distinct rfl

theorem gatewaySchedule_commutes :
    ∃ last, Interleaves World.serve gatewayJobs gatewaysWorld gatewaySchedule last ∧
      (∀ index outcome,
        (reconcile gatewayOperator (gatewayJobs index).address).Runs
          (historyOf gatewaySchedule index) outcome →
        ∀ history reached,
          (∃ final, Alone gatewayOperator World.serve (gatewayJobs index)
            gatewaysWorld history
            reached final) ↔ history = historyOf gatewaySchedule index ∧
              reached = outcome) ∧
      ∀ order : List Bool, order.Nodup → (∀ index, index ∈ order) →
        ∀ final, InTurn gatewayOperator World.serve gatewayJobs
          gatewaysWorld order final ↔
          final = last := by
  obtain ⟨last, interleaves⟩ := gatewaySchedule_interleaves
  exact ⟨last, interleaves, reconciles_commute World.serve_regular gatewayJobs_named
    gatewayJobs_apart interleaves gatewaySchedule_finished⟩

end PolicyReconciler.Turns

import PolicyReconciler.Proofs.Cluster.Overlap
import PolicyReconciler.Proofs.Cluster.Update

namespace PolicyReconciler.Cluster

/-!
# The end of overlapping reconciles

Once all overlapping reconciles of a record have ended, everything is as after a
single one.  It takes a reconcile that has read the record after the last write of
somebody else: one that has read it before ends with a conflict, and is left to be
repeated.
-/

open Program Policy VpcLattice Reconcile PolicyStore
open World (Resources Complies SameSpec)

variable {Time : Type} [TimeScale Time]
variable {operator : Operator Time}
variable {pages : Pages}
variable {address : Address}
variable {record : Members}
variable {before after moves : List Move}
variable {middle cluster : Cluster Time Resources}

/-- Whether two records are the same but for their versions. -/
def SameButVersion (first second : Members) : Prop :=
  restamp first .null = restamp second .null

/-- Records that are the same but for the version list the same finalizers. -/
theorem SameButVersion.finalizersOf_eq
    {first second : Members}
    (same : SameButVersion first second) :
    finalizersOf first = finalizersOf second := by
  rw [← finalizersOf_restamp first .null, same, finalizersOf_restamp]

/--
Whether a cluster is as a world is, up to the version of one record, which is
removed exactly if nothing holds it in that world.
-/
structure Agrees
    (address : Address)
    (cluster : Cluster Time Resources)
    (single : World) : Prop where
  resources : cluster.cloud = single.resources
  record : ∃ new, single.records address = some new ∧
    (cluster.records address = none ↔ Removable new) ∧
    ∀ last, cluster.records address = some last → SameButVersion last new

/--
A reconcile that has ended while its record is untouched had nothing to write back.
-/
theorem Untouched.of_ended
    {index : Nat}
    {run : Ongoing Time}
    {outcome : Except Fault (ReconcileResult Nat)}
    (paced : ∀ api, Limiter.turn (operator.rates.of api) = .ok ())
    (untouched : Untouched operator address record middle cluster)
    (reached : Reached operator (lattice pages) (KeepsSpec address) moves cluster)
    (late : middle.historyOf index = [])
    (ongoing : cluster.runs[index]? = some run)
    (ended : run.rest = .done outcome) :
    Complies operator pages record cluster.cloud ∧
      ∀ body, ¬ Rewrites operator pages record body := by
  have inside := List.mem_of_getElem? ongoing
  obtain ⟨sound, ofRecord, _⟩ := reached.knows inside
  have course : Course operator address run.history outcome := by
    have meets := sound.meets
    rw [ended, ofRecord] at meets
    exact meets
  have calm := untouched.calm index run late ongoing
  have unfailing : Unfailing operator pages address record run.history := by
    refine ⟨?_, ?_, ?_⟩
    · intro answer made
      exact (calm _ made).read rfl
    · intro kind token answer made
      obtain ⟨_, _, _, served, _⟩ :=
        reached.exists_answered inside made (calm _ made).unwritten
      cases served
      rfl
    · intro exchange made policy identifier planned
      obtain ⟨_, _, answered⟩ :=
        reached.exists_answered inside made (calm _ made).unwritten
      exact (answered.of_planned planned).1
  refine ⟨?_, ?_⟩
  · intro call demands
    obtain ⟨exchange, made, rfl⟩ := course.made_of_demands paced unfailing demands
    exact reached.concerted.effects run inside exchange made record
      (reached.sound.archived.current address record untouched.stored) demands
  · intro body rewrites
    obtain ⟨exchange, made, writes⟩ :=
      course.writes_of_rewrites paced unfailing rewrites
    exact (calm exchange made).unwritten writes

section Single

variable {body : Members}
variable {version : Json}
variable {single : World}

omit [TimeScale Time] in
/-- What is left of a settled record is what a single reconcile has written back. -/
theorem Settled.agrees
    (settled : Settled operator pages address record body cluster)
    (same : cluster.cloud = single.resources)
    (written : single.records address = some (restamp body version))
    (swept : ∀ last, cluster.records address = some last → ¬ Removable last) :
    Agrees address cluster single := by
  refine ⟨same, restamp body version, written, ?_, ?_⟩
  · rw [removable_restamp]
    rcases settled.stored with ⟨other, kept⟩ | ⟨gone, removable⟩
    · have held := swept _ kept
      rw [removable_restamp] at held
      simp [kept, held]
    · simp [gone, removable]
  · intro last kept
    rcases settled.stored with ⟨other, isLast⟩ | ⟨gone, _⟩
    · rw [Option.some.inj (kept.symm.trans isLast)]
      simp [SameButVersion]
    · cases gone.symm.trans kept

omit [TimeScale Time] in
/--
An untouched record is what a single reconcile leaves that writes nothing back.
-/
theorem Untouched.agrees
    (untouched : Untouched operator address record middle cluster)
    (lasting : ¬ Removable record)
    (same : cluster.cloud = single.resources)
    (kept : single.records address = some record) :
    Agrees address cluster single := by
  refine ⟨same, record, kept, ?_, ?_⟩
  · simp [untouched.stored, lasting]
  · intro last found
    rw [Option.some.inj (found.symm.trans untouched.stored)]
    rfl

end Single

/--
Overlapping reconciles of one record are safe.  Once others have stopped to touch
the record, at least one reconcile has made all its calls since, and all have ended,
the resources are those after a single reconcile.  The record is removed exactly if
a single reconcile would have let it be removed, and else it is the record after a
single one but for its version.
-/
theorem overlapping_runs_agree
    {State : Type}
    {view : State → World}
    {handle : (effect : Effect Time) → State → effect.Reply × State}
    {index : Nat}
    {run : Ongoing Time}
    (paced : ∀ api, Limiter.turn (operator.rates.of api) = .ok ())
    (reached : Reached operator (lattice pages) (KeepsSpec address) before middle)
    (stored : middle.records address = some record)
    (lasting : ¬ Removable record)
    (continued :
      Continued operator (lattice pages) (Undisturbed pages address) middle after
      cluster)
    (late : middle.historyOf index = [])
    (ongoing : cluster.runs[index]? = some run)
    (ended : ∀ run ∈ cluster.runs, ∃ outcome, run.rest = .done outcome)
    (swept : ∀ last, cluster.records address = some last → ¬ Removable last)
    (shows : Program.Shows World.Answers view handle)
    (start : State)
    (same : view start = middle.world pages) :
    Agrees address cluster
      (view ((reconcile operator address).run handle start).2) := by
  obtain ⟨history, runs, replays⟩ :=
    shows.exists_runs (reconcile operator address) start
  rw [same] at replays
  have own : addressOf record = address :=
    reached.sound.archived.addressOf_eq stored
  obtain ⟨led, complies, rewritten⟩ :=
    World.single_run paced own stored runs replays
  have overlapping := continued.overlapping reached stored lasting
  rcases overlapping.state with untouched | ⟨body, settled⟩
  · -- a reconcile has read the record since, and had nothing to write back
    have reached' :=
      continued.reached reached fun _ _ undisturbed => undisturbed.spec
    obtain ⟨outcome, finished⟩ := ended run (List.mem_of_getElem? ongoing)
    obtain ⟨compliesToo, unwritten⟩ :=
      untouched.of_ended paced reached' late ongoing finished
    rcases rewritten with ⟨body, _, rewrites, _⟩ | ⟨_, kept⟩
    · exact absurd rewrites (unwritten body)
    · exact untouched.agrees lasting
        (compliesToo.unique overlapping.led complies led) kept
  · -- a write-back has taken effect; a single reconcile writes the same form back
    rcases rewritten with ⟨other, version, rewrites, written⟩ | ⟨unwritten, _⟩
    · obtain rfl := settled.rewrites.unique rewrites
      exact settled.agrees (settled.complies.unique overlapping.led complies led)
        written swept
    · exact absurd settled.rewrites (unwritten body)

/-! ## A policy of a gateway -/

omit [TimeScale Time] in
/--
What the service answers is no failure, and neither is the stored record that is
read.
-/
theorem Answers.faultless
    {call : Call}
    {answer : Except Fault Json}
    {cloud : Resources}
    {index : Nat}
    (answered : cluster.Answers (lattice pages) call answer cloud)
    (spared : ¬ Writes call)
    (found : ∀ target timeout, call = .readRecord target timeout →
      ∃ body, answer = .ok body) :
    Faultless pages address cluster (.exchanged index ⟨call, answer⟩) := by
  cases call with
  | readRecord target timeout =>
      obtain ⟨body, rfl⟩ := found target timeout rfl
      obtain ⟨record, stored, rfl⟩ :=
        Option.map_eq_some_iff.mp (answered.2 body rfl)
      exact ⟨_, .read stored⟩
  | replaceRecord =>
      exact absurd ⟨_, _, _, rfl⟩ spared
  | _ =>
      obtain ⟨_, served, _⟩ := answered
      exact served.with_records (by simp) spared cluster.records

/-- What a reconcile of the live policy exchanges before it writes back. -/
def gatewayEnabling : History :=
  gatewayLookup gatewayLive ++ gatewayAttachment (.ok (.obj []))

set_option maxRecDepth 2048 in
theorem gatewayRefusal_leads :
    ∃ outcome, (reconcile gatewayOperator gatewayAddress).Leads
      (gatewayEnabling ++ gatewayRefusal :: []) (.done outcome) :=
  ⟨_, leads_of_follow 0 ⟨.null, none⟩ (by with_unfolding_all rfl)⟩

/-- The resources after the live policy was attached. -/
noncomputable def gatewayEnabled (resources : Resources) : Resources :=
  World.applied (.putAuthPolicy gatewayNetwork (.str "allow"))
    (World.applied (.setAuthType .serviceNetwork gatewayNetwork signedRequests)
      resources)

/-- The enabling exchanges are what the service answers. -/
theorem gatewayEnabling_replays
    {cluster : Cluster Rat Resources}
    (stored : cluster.records gatewayAddress = some gatewayLive) :
    Replays (cluster.answering (lattice World.gatewayWorld.pages)) cluster.cloud
      gatewayEnabling (gatewayEnabled cluster.cloud) := by
  refine .cons ⟨rfl, ?_⟩
    (.cons ⟨_, .listed _ _, rfl⟩ (.cons ⟨_, .changed _ rfl, rfl⟩
    (.cons ⟨_, .attached _ _ _, rfl⟩ (.nil _))))
  rintro body same
  cases same
  simp [stored]

section Race

variable {allows : Cluster Rat Resources → Move → Prop}
variable {start cluster : Cluster Rat Resources}
variable {run : Ongoing Rat}
variable {last : Program Rat (ReconcileResult Nat)}

/-- A reconcile of the live policy may go on undisturbed until it writes back. -/
theorem gatewayEnabling_continued
    (harmless : ∀ current move,
      Undisturbed World.gatewayWorld.pages gatewayAddress current move →
        allows current move)
    (continued : Continued gatewayOperator (lattice World.gatewayWorld.pages)
      allows start moves
      cluster)
    (index : Nat)
    (stored : cluster.records gatewayAddress = some gatewayLive)
    (ongoing : cluster.runs[index]? = some run)
    (leads : run.rest.Leads gatewayEnabling last) :
    ∃ more, Continued gatewayOperator
      (lattice World.gatewayWorld.pages) allows start
      (moves ++ more)
      ({ cluster with cloud := gatewayEnabled cluster.cloud }.resume index
        (run.advance gatewayEnabling last)) := by
  have served : ∀ exchange ∈ gatewayEnabling,
      ¬ Writes exchange.call ∧ ∃ body, exchange.answer = .ok body := by
    simp [gatewayEnabling, gatewayLookup, gatewayAttachment, readCall, Writes]
  apply continued.follow index ongoing leads (gatewayEnabling_replays stored)
  · intro other
    exact harmless _ _ ⟨trivial, trivial, by simp⟩
  · intro exchange inside other after answered
    obtain ⟨spared, found⟩ := served exchange inside
    exact harmless _ _ ⟨trivial, answered.faultless spared fun _ _ _ =>
      found, by simp⟩

/-- A reconcile that has made its last call may end undisturbed. -/
theorem gatewayEnded_continued
    (harmless : ∀ current move,
      Undisturbed World.gatewayWorld.pages gatewayAddress current move →
        allows current move)
    (continued : Continued gatewayOperator (lattice World.gatewayWorld.pages)
      allows start moves
      cluster)
    (index : Nat)
    (ongoing : cluster.runs[index]? = some run)
    (leads : run.rest.Leads [] last) :
    ∃ more, Continued gatewayOperator
      (lattice World.gatewayWorld.pages) allows start
      (moves ++ more) (cluster.resume index (run.advance [] last)) := by
  apply continued.follow index ongoing leads (.nil _)
  · intro other
    exact harmless _ _ ⟨trivial, trivial, by simp⟩
  · simp

/--
The write-back of the live policy meets a conflict where another record is stored.
-/
theorem gatewayRefused_continued
    {record : Members}
    {write : Except Fault Json → Program Rat (ReconcileResult Nat)}
    (harmless : ∀ current move,
      Undisturbed World.gatewayWorld.pages gatewayAddress current move →
        allows current move)
    (continued : Continued gatewayOperator (lattice World.gatewayWorld.pages)
      allows start moves
      cluster)
    (index : Nat)
    (stored : cluster.records gatewayAddress = some record)
    (other : versionOf record ≠ .str "1")
    (ongoing : cluster.runs[index]? = some run)
    (performs : run.rest = .perform (.call gatewayRefusal.call) write) :
    Continued gatewayOperator (lattice World.gatewayWorld.pages) allows start
      (moves ++ [.exchanged index gatewayRefusal])
      (cluster.resume index
        (run.advance [gatewayRefusal] (write gatewayRefusal.answer))) := by
  have faultless : Faultless World.gatewayWorld.pages gatewayAddress cluster
      (.exchanged index gatewayRefusal) := by
    refine ⟨cluster.world World.gatewayWorld.pages, .rejected ?_⟩
    rintro members old same found
    cases same
    have isOld := Option.some.inj (stored.symm.trans found)
    rw [← isOld]
    exact other.symm
  exact continued.step (harmless _ _ ⟨trivial, faultless, by simp⟩)
    (.exchanged ongoing performs ⟨rfl, _, rfl⟩)

end Race

/-- The gateway's world is a cluster before any run. -/
theorem gatewayWorld_initial :
    (ofWorld World.gatewayWorld : Cluster Rat Resources).Initial :=
  ofWorld_initial World.gatewayWorld_own

/--
The cluster that has come from the world, with the records that were stored since.
-/
noncomputable def gatewayRivals
    (later : List Members)
    (cloud : Resources)
    (runs : List (Ongoing Rat)) : Cluster Rat Resources :=
  { later.foldr (fun record (current : Cluster Rat Resources) =>
      current.store gatewayAddress record) (ofWorld World.gatewayWorld) with
    cloud := cloud
    runs := runs }

theorem gatewayRivals_fresh
    {cloud : Resources}
    {runs : List (Ongoing Rat)}
    {version : Json}
    (other : version ≠ .str "1") :
    (gatewayRivals [] cloud runs).Fresh gatewayAddress version := by
  have fresh :
      (ofWorld World.gatewayWorld : Cluster Rat Resources).Fresh gatewayAddress
      version :=
    ofWorld_fresh World.records_store_same other.symm
  exact fresh

theorem gatewayHold_version : gatewayHold.version = .str "2" :=
  rfl

/-- The first of two rivals may write the record back. -/
theorem gatewayRivals_written
    {cloud : Resources}
    {first : Ongoing Rat}
    {others : List (Ongoing Rat)}
    {write : Except Fault Json → Program Rat (ReconcileResult Nat)}
    (performs : first.rest = .perform (.call gatewayHold.exchange.call) write) :
    Step gatewayOperator (lattice World.gatewayWorld.pages)
      (gatewayRivals [] cloud (first :: others)) (.replaced 0 gatewayHold)
      (gatewayRivals [gatewayHold.new] cloud
        (first.advance [gatewayHold.exchange]
          (write gatewayHold.answer) :: others)) :=
  .replaced rfl performs World.records_store_same rfl
    (gatewayRivals_fresh (by simp [gatewayHold_version]))

/--
Two reconciles of the live policy overlap: both attach the policy, the first one
writes the record back, and the other one meets a conflict.
-/
theorem gatewayOverlap :
    ∃ after cluster,
      Continued gatewayOperator (lattice World.gatewayWorld.pages)
        (Undisturbed World.gatewayWorld.pages gatewayAddress)
          (ofWorld World.gatewayWorld)
        after cluster ∧
      cluster.runs.length = 2 ∧
      (∀ run ∈ cluster.runs, ∃ outcome, run.rest = .done outcome) ∧
      cluster.records gatewayAddress = some gatewayHold.new := by
  obtain ⟨write, holds, settles⟩ := gatewayHistory_runs.split_call
  obtain ⟨refused, conflicted⟩ := gatewayRefusal_leads
  obtain ⟨write', waits, ends⟩ := conflicted.split_call
  have start : Continued gatewayOperator (lattice World.gatewayWorld.pages)
      (Undisturbed World.gatewayWorld.pages gatewayAddress)
        (ofWorld World.gatewayWorld) []
      (gatewayRivals [] World.gatewayWorld.resources []) :=
    .refl
  -- both attach the policy
  have begun :=
    start.step (by exact ⟨rfl, trivial, by simp⟩) (.began gatewayAddress)
  obtain ⟨first, enabled⟩ := gatewayEnabling_continued (fun _ _ => id) begun 0
    World.records_store_same rfl holds
  have begun :=
    enabled.step (by exact ⟨rfl, trivial, by simp⟩) (.began gatewayAddress)
  obtain ⟨second, enabled⟩ := gatewayEnabling_continued (fun _ _ => id) begun 1
    World.records_store_same rfl waits
  -- only one of them writes the record back
  have written := enabled.step (by exact ⟨trivial, ⟨_, rfl⟩, by simp⟩)
    (gatewayRivals_written rfl)
  obtain ⟨third, settled⟩ :=
    gatewayEnded_continued (fun _ _ => id) written 0 rfl settles
  have late :=
    gatewayRefused_continued (fun _ _ => id) settled 1 (records_store_same _)
    (by simp [Replacement.new, gatewayHold_version]) rfl rfl
  obtain ⟨last, whole⟩ := gatewayEnded_continued (fun _ _ => id) late 1 rfl ends
  refine ⟨_, _, whole, rfl, ?_, records_store_same _⟩
  intro run inside
  rcases List.mem_cons.mp inside with rfl | isSecond
  · exact ⟨_, rfl⟩
  · obtain rfl := List.mem_singleton.mp isSecond
    exact ⟨_, rfl⟩

/-- The gateway's operator always gets its turn. -/
theorem gatewayOperator_paced (api : Api) :
    Limiter.turn (gatewayOperator.rates.of api) = .ok () := by
  cases api <;> rfl

theorem gatewayOverlap_agrees :
    ∃ after cluster,
      Continued gatewayOperator (lattice World.gatewayWorld.pages)
        (Undisturbed World.gatewayWorld.pages gatewayAddress)
          (ofWorld World.gatewayWorld)
        after cluster ∧
      cluster.runs.length = 2 ∧
      Agrees gatewayAddress cluster
        ((reconcile gatewayOperator gatewayAddress).run (World.handle (0 : Rat))
          World.gatewayWorld).2 := by
  obtain ⟨after, cluster, continued, both, ended, written⟩ := gatewayOverlap
  have bound : 0 < cluster.runs.length := by
    rw [both]
    decide
  have lasting : ¬ Removable gatewayLive := by
    rintro ⟨⟨⟩, _⟩
  have swept :
      ∀ last, cluster.records gatewayAddress = some last → ¬ Removable last := by
    rintro last found ⟨deleting, _⟩
    rw [written] at found
    cases found
    cases deleting
  exact ⟨after, cluster, continued, both,
    overlapping_runs_agree gatewayOperator_paced (.initial gatewayWorld_initial)
      World.records_store_same lasting continued rfl
        (List.getElem?_eq_getElem bound) ended swept
      (World.shows_handle 0) World.gatewayWorld rfl⟩

theorem gatewayLabelled_version : versionOf gatewayLabelled = .str "2" :=
  rfl

/-- A label may be set while two rivals are under way. -/
theorem gatewayRivals_labelled
    (cloud : Resources)
    (runs : List (Ongoing Rat)) :
    Step gatewayOperator (lattice World.gatewayWorld.pages)
      (gatewayRivals [] cloud runs)
      (.stored gatewayAddress gatewayLabelled)
        (gatewayRivals [gatewayLabelled] cloud runs) :=
  .stored rfl (gatewayRivals_fresh (by simp [gatewayLabelled_version]))

/-- The label leaves the spec as it is. -/
theorem gatewayLabelled_sameSpec : SameSpec gatewayLabelled gatewayLive where
  spec := rfl
  deletion := Iff.rfl
  readable := iff_of_true ⟨_, rfl⟩ ⟨_, rfl⟩

/--
Somebody labels the live policy after a reconcile has attached it, and before the
record is written back, so that the write-back meets a conflict.
-/
theorem gatewayOvertaken :
    ∃ moves cluster,
      Continued gatewayOperator (lattice World.gatewayWorld.pages)
        (fun current move => KeepsSpec gatewayAddress current move ∧
          Faultless World.gatewayWorld.pages gatewayAddress current move)
        (ofWorld World.gatewayWorld) moves cluster ∧
      cluster.runs.length = 1 ∧
      (∀ run ∈ cluster.runs, ∃ outcome, run.rest = .done outcome) ∧
      cluster.records gatewayAddress = some gatewayLabelled := by
  have harmless : ∀ (current : Cluster Rat Resources) move,
      Undisturbed World.gatewayWorld.pages gatewayAddress current move →
        KeepsSpec gatewayAddress current move ∧
          Faultless World.gatewayWorld.pages gatewayAddress current move :=
    fun _ _ undisturbed => ⟨undisturbed.spec, undisturbed.faultless⟩
  obtain ⟨refused, conflicted⟩ := gatewayRefusal_leads
  obtain ⟨write, waits, ends⟩ := conflicted.split_call
  have start : Continued gatewayOperator (lattice World.gatewayWorld.pages)
      (fun current move => KeepsSpec gatewayAddress current move ∧
        Faultless World.gatewayWorld.pages gatewayAddress current move)
      (ofWorld World.gatewayWorld) []
        (gatewayRivals [] World.gatewayWorld.resources []) :=
    .refl
  have begun := start.step (by exact ⟨rfl, trivial⟩) (.began gatewayAddress)
  obtain ⟨first, enabled⟩ := gatewayEnabling_continued harmless begun 0
    World.records_store_same rfl waits
  have labelled := enabled.step
    (by
      exact ⟨fun _ =>
        ⟨_, World.records_store_same, gatewayLabelled_sameSpec⟩, trivial⟩)
    (gatewayRivals_labelled _ _)
  have late :=
    gatewayRefused_continued harmless labelled 0
      (records_store_same gatewayLabelled)
    (by simp [gatewayLabelled_version]) rfl rfl
  obtain ⟨last, whole⟩ := gatewayEnded_continued harmless late 0 rfl ends
  refine ⟨_, _, whole, rfl, ?_, records_store_same gatewayLabelled⟩
  intro run inside
  obtain rfl := List.mem_singleton.mp inside
  exact ⟨refused, rfl⟩

/--
A single reconcile of the live policy puts the finalizer on its record, labelled or
not.
-/
theorem gatewaySingle_held
    {start single : World}
    {history : History}
    {outcome : Except Fault (ReconcileResult Nat)}
    {new : Members}
    (known : record = gatewayLive ∨ record = gatewayLabelled)
    (pages : start.pages = World.gatewayWorld.pages)
    (stored : start.records gatewayAddress = some record)
    (runs : (reconcile gatewayOperator gatewayAddress).Runs history outcome)
    (replays : Replays World.Answers start history single)
    (found : single.records gatewayAddress = some new) :
    finalizersOf new = [operatorFinalizer] := by
  have own : addressOf record = gatewayAddress := by
    rcases known with rfl | rfl <;> rfl
  have bare : finalizersOf record = [] := by
    rcases known with rfl | rfl <;> rfl
  have live : ¬ Deleting record := by
    rcases known with rfl | rfl <;> rintro ⟨⟩
  have rewrites : ∃ body, Rewrites gatewayOperator start.pages record body := by
    rw [pages]
    rcases known with rfl | rfl <;>
      exact ⟨_, _, gatewayNetwork, rfl, ⟨.gateway, rfl, rfl⟩,
        by rintro fault (_ | ⟨_, _ | ⟨_, ⟨⟩⟩⟩), rfl⟩
  obtain ⟨_, _, written⟩ :=
    World.single_run gatewayOperator_paced own stored runs replays
  rcases written with ⟨body, version, isBody, isStored⟩ | ⟨unwritten, _⟩
  · obtain ⟨policy, identifier, parsed, _, _, rfl⟩ := isBody
    obtain rfl := Option.some.inj (isStored.symm.trans found)
    have settles := World.settles_stored parsed identifier version
    rw [settles.unheld live (by simp [Held, bare]), bare, List.nil_append]
  · obtain ⟨body, isBody⟩ := rewrites
    exact absurd isBody (unwritten body)

/--
Overlapping reconciles do not always end as a single one does, even if nobody
changes the spec of their record: it stays without the finalizer where somebody
labels it between the read and the write-back, while a single reconcile before or
after that adds the finalizer.
-/
theorem not_always_agreeing :
    ¬ ∀ moves cluster,
      Continued gatewayOperator (lattice World.gatewayWorld.pages)
        (fun current move => KeepsSpec gatewayAddress current move ∧
          Faultless World.gatewayWorld.pages gatewayAddress current move)
        (ofWorld World.gatewayWorld) moves cluster →
      cluster.runs ≠ [] →
      (∀ run ∈ cluster.runs, ∃ outcome, run.rest = .done outcome) →
      (∀ last, cluster.records gatewayAddress = some last → ¬ Removable last) →
      ∃ start : World,
        start.pages = World.gatewayWorld.pages ∧
        (start.records gatewayAddress = some gatewayLive ∨
          start.records gatewayAddress = some gatewayLabelled) ∧
        Agrees gatewayAddress cluster
          ((reconcile gatewayOperator gatewayAddress).run
            (World.handle (0 : Rat)) start).2 := by
  intro claimed
  obtain ⟨moves, cluster, continued, one, ended, stored⟩ := gatewayOvertaken
  have swept :
      ∀ last, cluster.records gatewayAddress = some last → ¬ Removable last := by
    rintro last found ⟨deleting, _⟩
    obtain rfl := Option.some.inj (stored.symm.trans found)
    cases deleting
  obtain ⟨start, pages, known, _, new, found, _, same⟩ :=
    claimed moves cluster continued
      (List.ne_nil_of_length_eq_add_one one) ended swept
  obtain ⟨history, runs, replays⟩ := (World.shows_handle (0 : Rat)).exists_runs
    (reconcile gatewayOperator gatewayAddress) start
  have held : finalizersOf new = [operatorFinalizer] := by
    rcases known with isLive | isLabelled
    · exact gatewaySingle_held (.inl rfl) pages isLive runs replays found
    · exact gatewaySingle_held (.inr rfl) pages isLabelled runs replays found
  rw [← (same gatewayLabelled stored).finalizersOf_eq] at held
  cases held

end PolicyReconciler.Cluster

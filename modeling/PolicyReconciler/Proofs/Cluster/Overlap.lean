import PolicyReconciler.Proofs.Cluster.Service
import PolicyReconciler.Proofs.World.Single

namespace PolicyReconciler.Cluster

/-!
# Overlapping reconciles of one record

While nobody else disturbs a record, any number of its reconciles may overlap:
whatever order their calls come in, the changes they make are those that the record
demands, and the first write-back that takes effect settles the record for all of
them.
-/

open Program Policy VpcLattice Reconcile PolicyStore
open World (Resources SameSpec applied intentOf Led Complies)

variable {Time : Type} [TimeScale Time]
variable {operator : Operator Time}
variable {pages : Pages}
variable {address : Address}
variable {record : Members}
variable {before after moves : List Move}
variable {middle cluster next : Cluster Time Resources}
variable {call : Call}
variable {answer : Except Fault Json}
variable {cloud : Resources}

/--
Whether nothing holds a record any more that is being deleted, so that it is
removed.
-/
def Removable (record : Members) : Prop :=
  Deleting record ∧ finalizersOf record = []

/-- A version does not decide whether a record may be removed. -/
@[simp] theorem removable_restamp (record : Members) (version : Json) :
    Removable (restamp record version) ↔ Removable record := by
  simp [Removable]

/--
Whether a move is one of the reconciles of one record, or of others who keep what
the record is about, and do not store it again once it is gone.
-/
def KeepsSpec (address : Address) (cluster : Cluster Time Resources) : Move → Prop
  | .began other => other = address
  | .stored other record => other = address →
      ∃ old, cluster.records address = some old ∧ SameSpec record old
  | _ => True

/-- The world that a cluster with fixed listings is at a moment. -/
def world (cluster : Cluster Time Resources) (pages : Pages) : World where
  resources := cluster.cloud
  pages := pages
  records := cluster.records

/--
Whether a move meets no failure but those of a world, and a record is removed only
where nothing holds it.
-/
def Faultless
    (pages : Pages)
    (address : Address)
    (cluster : Cluster Time Resources) : Move → Prop
  | .exchanged _ exchange =>
      ∃ last, World.Answers (cluster.world pages) exchange.call exchange.answer last
  | .replaced _ replacement => ∃ body, replacement.answer = .ok body
  | .removed other => other = address →
      ∀ record, cluster.records address = some record → Removable record
  | _ => True

/--
Whether nothing but the reconciles of a record touches it, and none of them fails.
-/
structure Undisturbed
    (pages : Pages)
    (address : Address)
    (cluster : Cluster Time Resources)
    (move : Move) : Prop where
  spec : KeepsSpec address cluster move
  faultless : Faultless pages address cluster move
  alone : ∀ record, move ≠ .stored address record

/-- What is true of every ongoing reconcile of the record. -/
theorem Reached.knows
    {run : Ongoing Time}
    (reached : Reached operator (lattice pages) (KeepsSpec address) moves cluster)
    (inside : run ∈ cluster.runs) :
    run.Sound operator cluster.past ∧ run.address = address ∧
      ∀ exchange ∈ run.history, ShowsPage pages exchange :=
  ⟨reached.sound.runs run inside,
    reached.runs_at (fun _ _ allowed => allowed) inside,
    reached.showsPage (fun _ _ _ _ => lattice_showsPage) inside⟩

/-! ## Changes of one intent -/

omit [TimeScale Time] in
/-- Looking and writing leave the resources alone. -/
theorem Answers.kept
    (answered : cluster.Answers (lattice pages) call answer cloud)
    (silent : Looks call ∨ Writes call) :
    cloud = cluster.cloud := by
  rcases silent with (⟨_, _, rfl⟩ | ⟨_, _, rfl⟩) | ⟨_, _, _, rfl⟩
  · exact answered.1
  · obtain ⟨_, served, rfl⟩ := answered
    cases served
    rfl
  · exact answered.1

omit [TimeScale Time] in
/-- A planned change that is answered took effect. -/
theorem Answers.of_planned
    {policy : Policy}
    {identifier : Json}
    (answered : cluster.Answers (lattice pages) call answer cloud)
    (planned : .ok call ∈ plan policy identifier) :
    verdict call answer = .ok () ∧ cloud = applied call cluster.cloud := by
  have served : lattice pages cluster.cloud call answer cloud := by
    rcases planned_call planned with ⟨_, disables⟩ | ⟨_, enables⟩
    · rcases disables with ⟨_, rfl⟩ | ⟨_, _, rfl⟩ <;> exact answered
    · rcases enables with ⟨_, _, rfl⟩ | ⟨_, _, rfl⟩ <;> exact answered
  obtain ⟨last, taken, rfl⟩ := served
  exact World.taken_of_planned planned taken

/--
Whether all records that were stored at an address have one intent, and every change
that a reconcile has made for it is in effect.
-/
structure Concerted
    (operator : Operator Time)
    (pages : Pages)
    (address : Address)
    (cluster : Cluster Time Resources) : Prop where
  alike : ∀ first ∈ cluster.past address, ∀ second ∈ cluster.past address,
    intentOf first = intentOf second
  effects :
    ∀ run ∈ cluster.runs, ∀ exchange ∈ run.history, ∀ record ∈ cluster.past address,
    Demands operator pages record exchange.call →
      applied exchange.call cluster.cloud = cluster.cloud

namespace Concerted

omit [TimeScale Time] in
/-- Runs stay concerted when a record of the same intent is stored. -/
theorem store
    {other : Address}
    (concerted : Concerted operator pages address cluster)
    (kin : other = address →
      ∃ old ∈ cluster.past address, intentOf record = intentOf old) :
    Concerted operator pages address (cluster.store other record) := by
  by_cases same : other = address
  · subst same
    obtain ⟨old, known, intent⟩ := kin rfl
    have past :
        (cluster.store other record).past other = record :: cluster.past other := by
      simp [Cluster.store]
    have kindred : ∀ stored ∈ (cluster.store other record).past other,
        intentOf stored = intentOf old := by
      rw [past]
      exact List.forall_mem_cons.mpr
        ⟨intent, fun stored inside => concerted.alike stored inside old known⟩
    refine ⟨?_, ?_⟩
    · intro first isFirst second isSecond
      rw [kindred first isFirst, kindred second isSecond]
    · intro run inside exchange made stored isStored demands
      exact concerted.effects run inside exchange made old known
        (World.demands_of_intentOf (kindred stored isStored).symm demands)
  · have past :
        (cluster.store other record).past address = cluster.past address := by
      simp [Cluster.store, Ne.symm same]
    refine ⟨?_, ?_⟩
    · rw [past]
      exact concerted.alike
    · rw [past]
      exact concerted.effects

omit [TimeScale Time] in
/-- Runs stay concerted when one of them makes an exchange that changes nothing. -/
theorem resume
    {index : Nat}
    {run : Ongoing Time}
    {exchanges : History}
    {rest : Program Time (ReconcileResult Nat)}
    (concerted : Concerted operator pages address cluster)
    (inside : run ∈ cluster.runs)
    (made : ∀ exchange ∈ exchanges, ∀ record ∈ cluster.past address,
      Demands operator pages record exchange.call →
        applied exchange.call cluster.cloud = cluster.cloud) :
    Concerted operator pages address
      (cluster.resume index (run.advance exchanges rest)) := by
  refine ⟨concerted.alike, ?_⟩
  intro other isOther exchange exchanged
  rcases List.mem_or_eq_of_mem_set isOther with before | rfl
  · exact concerted.effects other before exchange exchanged
  · rcases List.mem_append.mp exchanged with earlier | new
    · exact concerted.effects run inside exchange earlier
    · exact made exchange new

/--
A call that a reconcile makes leads on what the records demand, and is then in
effect.
-/
theorem led
    {index : Nat}
    {run : Ongoing Time}
    {rest : Except Fault Json → Program Time (ReconcileResult Nat)}
    (concerted : Concerted operator pages address cluster)
    (reached : Reached operator (lattice pages) (KeepsSpec address) moves cluster)
    (ongoing : cluster.runs[index]? = some run)
    (performs : run.rest = .perform (.call call) rest)
    (answered : cluster.Answers (lattice pages) call answer cloud)
    (known : record ∈ cluster.past address) :
    Led operator pages record cluster.cloud cloud ∧
      (Demands operator pages record call → applied call cloud = cloud) := by
  obtain ⟨sound, ofRecord, shown⟩ := reached.knows (List.mem_of_getElem? ongoing)
  have called :
      (Looks call ∨ Writes call) ∨ Demands operator pages record call := by
    rcases (sound.underway performs).looks_or_demands shown with
      looks | writes | ⟨record', read, demands⟩
    · exact .inl (.inl looks)
    · exact .inl (.inr writes)
    · obtain ⟨stored, isStored, same⟩ := sound.truthful _ _ _ read
      cases same
      rw [ofRecord] at isStored
      exact .inr (World.demands_of_intentOf
        (concerted.alike _ known _ isStored) demands)
  rcases called with silent | demands
  · obtain rfl := answered.kept silent
    exact ⟨.refl _, fun _ => World.applied_of_looks_or_writes silent _⟩
  · obtain ⟨_, _, _, _, planned⟩ := World.Demands.exists_planned demands
    obtain ⟨_, rfl⟩ := answered.of_planned planned
    exact ⟨.single demands _, fun _ => World.applied_again demands _⟩

end Concerted

/--
A replacement that takes effect stores the form that the record before it is
rewritten to, and its reconcile has made all changes that this record demands.
-/
theorem Reached.rewrites
    {index : Nat}
    {run : Ongoing Time}
    {replacement : Replacement}
    {rest : Except Fault Json → Program Time (ReconcileResult Nat)}
    (reached : Reached operator (lattice pages) (KeepsSpec address) moves cluster)
    (ongoing : cluster.runs[index]? = some run)
    (performs : run.rest = .perform (.call replacement.exchange.call) rest)
    (stored : cluster.records replacement.address = some replacement.old)
    (current : versionOf replacement.body = versionOf replacement.old) :
    replacement.address = address ∧
      Rewrites operator pages replacement.old replacement.body ∧
      ∀ call, Demands operator pages replacement.old call →
        ∃ exchange ∈ run.history, exchange.call = call := by
  obtain ⟨_, ofRecord, shown⟩ := reached.knows (List.mem_of_getElem? ongoing)
  obtain ⟨policy, kind, identifier, reads, lookups, changes, atHome,
      concludes, written⟩ :=
    reached.sound.replaces ongoing performs stored current
  have targets : Targets operator pages policy identifier := by
    apply targets_of_lookup concludes.supported concludes.lookup
    intro exchange listed
    apply shown
    rw [concludes.history_eq]
    exact List.mem_append_left _ (List.mem_append_right _ listed)
  refine ⟨?_, ?_, ?_⟩
  · rw [atHome, ofRecord]
  · rw [written]
    exact rewrites_of_carried concludes.parsed targets concludes.change
  · intro call demands
    obtain ⟨exchange, made, same⟩ :=
      demands.made_of_carried concludes.parsed targets concludes.change
    refine ⟨exchange, ?_, same⟩
    rw [concludes.history_eq]
    exact List.mem_append_right _ made

/-- While the intent of a record is kept, its reconciles act in concert. -/
theorem Reached.concerted
    (reached : Reached operator (lattice pages) (KeepsSpec address) moves cluster) :
    Concerted operator pages address cluster := by
  induction reached with
  | initial fresh =>
      refine ⟨?_, ?_⟩
      · intro first isFirst second isSecond
        rw [fresh.unchanged, Option.mem_toList] at isFirst isSecond
        rw [Option.some.inj (isFirst.symm.trans isSecond)]
      · rw [fresh.idle]
        simp
  | @step moves cluster next move before allowed step concerted =>
      cases step with
      | began other =>
          refine ⟨concerted.alike, ?_⟩
          intro run inside exchange made
          rcases List.mem_append.mp inside with earlier | new
          · exact concerted.effects run earlier exchange made
          · rw [List.mem_singleton.mp new] at made
            cases made
      | passed ongoing performs silent reply =>
          exact concerted.resume (List.mem_of_getElem? ongoing) (by simp)
      | @exchanged index run request answer cloud rest ongoing performs answered =>
          -- the exchange may undo no effect that was there, and has its own
          have served :
              Concerted operator pages address { cluster with cloud := cloud } := by
            refine ⟨concerted.alike, ?_⟩
            intro other inside exchange made record known demands
            obtain ⟨led, _⟩ := concerted.led before ongoing performs answered known
            exact led.keeps demands
              (concerted.effects other inside exchange made record known demands)
          apply served.resume (List.mem_of_getElem? ongoing)
          intro exchange new record known demands
          obtain rfl := List.mem_singleton.mp new
          exact (concerted.led before ongoing performs answered known).2 demands
      | @replaced index run replacement rest ongoing performs stored
            current fresh =>
          obtain ⟨_, rewrites, _⟩ := before.rewrites ongoing performs stored current
          -- the write-back rewrites only the status and the finalizers, so every
          -- stored record goes on asking for the same policy
          have kept : Concerted operator pages address
              (cluster.store replacement.address replacement.new) := by
            apply concerted.store
            rintro rfl
            exact ⟨replacement.old, before.sound.archived.current _ _ stored,
              World.intentOf_rewritten rewrites replacement.version⟩
          apply kept.resume (List.mem_of_getElem? ongoing)
          intro exchange new _ _ _
          obtain rfl := List.mem_singleton.mp new
          exact World.applied_of_looks_or_writes (.inr ⟨_, _, _, rfl⟩) _
      | @stored other record own fresh =>
          apply concerted.store
          intro same
          obtain ⟨old, found, sameSpec⟩ := allowed same
          refine ⟨old, before.sound.archived.current _ _ found,
            World.intentOf_eq_of_sameSpec sameSpec ?_⟩
          rw [own, same, before.sound.archived.addressOf_eq found]
      | removed other =>
          exact ⟨concerted.alike, concerted.effects⟩

/-! ## Overlapping reconciles -/

/-- Whether an exchange is no write-back, and reads a record if it reads any. -/
structure Calm
    (operator : Operator Time)
    (address : Address)
    (record : Members)
    (exchange : Exchange) : Prop where
  read :
    exchange.call = readCall operator address → exchange.answer = .ok (.obj record)
  unwritten : ¬ Writes exchange.call

/--
Whether a record is still stored, and the reconciles that had made no call in an
earlier cluster have met no other record since.
-/
structure Untouched
    (operator : Operator Time)
    (address : Address)
    (record : Members)
    (middle cluster : Cluster Time Resources) : Prop where
  stored : cluster.records address = some record
  calm :
    ∀ index run, middle.historyOf index = [] → cluster.runs[index]? = some run →
    ∀ exchange ∈ run.history, Calm operator address record exchange

/--
Whether all that a record demands is in effect, and it was written back or is
removed.
-/
structure Settled
    (operator : Operator Time)
    (pages : Pages)
    (address : Address)
    (record body : Members)
    (cluster : Cluster Time Resources) : Prop where
  rewrites : Rewrites operator pages record body
  complies : Complies operator pages record cluster.cloud
  stored : (∃ version, cluster.records address = some (restamp body version)) ∨
    cluster.records address = none ∧ Removable body

/--
What becomes of a record while its reconciles overlap and nobody disturbs them.
-/
structure Overlapping
    (operator : Operator Time)
    (pages : Pages)
    (address : Address)
    (record : Members)
    (middle cluster : Cluster Time Resources) : Prop where
  known : record ∈ cluster.past address
  led : Led operator pages record middle.cloud cluster.cloud
  state : Untouched operator address record middle cluster ∨
    ∃ body, Settled operator pages address record body cluster

omit [TimeScale Time] in
/-- A record stays untouched while the runs are calm about it. -/
theorem Untouched.resume
    {index : Nat}
    {run : Ongoing Time}
    {exchanges : History}
    {rest : Program Time (ReconcileResult Nat)}
    (untouched : Untouched operator address record middle cluster)
    (ongoing : cluster.runs[index]? = some run)
    (calm : middle.historyOf index = [] →
      ∀ exchange ∈ exchanges, Calm operator address record exchange) :
    Untouched operator address record middle
      (cluster.resume index (run.advance exchanges rest)) := by
  refine ⟨untouched.stored, ?_⟩
  intro other isOther late found exchange inside
  by_cases same : index = other
  · subst same
    have bound := (List.getElem?_eq_some_iff.mp ongoing).1
    obtain rfl := Option.some.inj ((resume_runs bound).symm.trans found)
    rcases List.mem_append.mp inside with before | new
    · exact untouched.calm index run late ongoing exchange before
    · exact calm late exchange new
  · have kept : cluster.runs[other]? = some isOther := by
      rw [← found, Cluster.resume, List.getElem?_set_ne same]
    exact untouched.calm other isOther late kept exchange inside

omit [TimeScale Time] in
/-- A settled record stays settled when the resources are led to it. -/
theorem Settled.kept
    {body : Members}
    (settled : Settled operator pages address record body cluster)
    (led : Led operator pages record cluster.cloud next.cloud)
    (records : next.records address = cluster.records address) :
    Settled operator pages address record body next := by
  refine ⟨settled.rewrites, ?_, ?_⟩
  · intro call demands
    exact led.keeps demands (settled.complies call demands)
  · rw [records]
    exact settled.stored

/-- What an undisturbed reconcile exchanges while its record is untouched. -/
theorem Untouched.calm_exchange
    {index : Nat}
    {run : Ongoing Time}
    {rest : Except Fault Json → Program Time (ReconcileResult Nat)}
    (untouched : Untouched operator address record middle cluster)
    (reached : Reached operator (lattice pages) (KeepsSpec address) moves cluster)
    (late : middle.historyOf index = [])
    (ongoing : cluster.runs[index]? = some run)
    (performs : run.rest = .perform (.call call) rest)
    (answered : cluster.Answers (lattice pages) call answer cloud)
    (faultless :
      Faultless pages address cluster (.exchanged index ⟨call, answer⟩)) :
    Calm operator address record ⟨call, answer⟩ := by
  obtain ⟨sound, ofRecord, shown⟩ := reached.knows (List.mem_of_getElem? ongoing)
  have own : addressOf record = address :=
    reached.sound.archived.addressOf_eq untouched.stored
  have stored : (cluster.world pages).records address = some record :=
    untouched.stored
  obtain ⟨last, served⟩ := faultless
  refine ⟨?_, ?_⟩
  · intro reads
    dsimp only at reads served
    rw [reads] at served
    cases served with
    | read found =>
        rw [stored] at found
        cases found
        rfl
    | unread absent =>
        rw [stored] at absent
        cases absent
  · intro writes
    dsimp only at writes served
    obtain ⟨record', body, known, _, current, same⟩ :=
      (sound.underway performs).rewrites writes shown
    rw [ofRecord] at known
    cases (untouched.calm index run late ongoing _ known).read rfl
    -- its version is the stored one, so the write-back could not have failed
    subst same
    rw [own] at served answered
    obtain ⟨⟨_, accepted⟩, _⟩ := served.exists_stored stored current
    obtain ⟨_, _, refused⟩ := answered
    cases accepted.symm.trans refused

namespace Overlapping

variable {move : Move}

/-- A replacement that takes effect settles the record, or settles it again. -/
theorem replaced
    {index : Nat}
    {run : Ongoing Time}
    {replacement : Replacement}
    {rest : Except Fault Json → Program Time (ReconcileResult Nat)}
    (overlapping : Overlapping operator pages address record middle cluster)
    (reached : Reached operator (lattice pages) (KeepsSpec address) moves cluster)
    (ongoing : cluster.runs[index]? = some run)
    (performs : run.rest = .perform (.call replacement.exchange.call) rest)
    (stored : cluster.records replacement.address = some replacement.old)
    (current : versionOf replacement.body = versionOf replacement.old) :
    ∃ body, Settled operator pages address record body
      (cluster.store replacement.address replacement.new) := by
  obtain ⟨rfl, rewrites, made⟩ := reached.rewrites ongoing performs stored current
  rcases overlapping.state with untouched | ⟨body, settled⟩
  · obtain rfl := Option.some.inj (untouched.stored.symm.trans stored)
    refine ⟨replacement.body, rewrites, ?_, .inl ⟨_, records_store_same _⟩⟩
    intro call demands
    obtain ⟨exchange, inside, rfl⟩ := made call demands
    exact reached.concerted.effects run (List.mem_of_getElem? ongoing)
      exchange inside _
      overlapping.known demands
  · rcases settled.stored with ⟨version, found⟩ | ⟨gone, _⟩
    · have isOld := Option.some.inj (found.symm.trans stored)
      rw [← isOld] at rewrites
      have same := World.rewrites_again settled.rewrites rewrites
      refine ⟨body, settled.rewrites, settled.complies,
        .inl ⟨replacement.version, ?_⟩⟩
      rw [records_store_same, Replacement.new, same, restamp_restamp]
    · cases gone.symm.trans stored

omit [TimeScale Time] in
/-- What leaves the record alone leaves it untouched, or settled. -/
theorem onward
    (overlapping : Overlapping operator pages address record middle cluster)
    (led : Led operator pages record cluster.cloud next.cloud)
    (known : record ∈ next.past address)
    (records : next.records address = cluster.records address)
    (untouched : Untouched operator address record middle cluster →
      Untouched operator address record middle next) :
    Overlapping operator pages address record middle next := by
  refine ⟨known, overlapping.led.trans led, ?_⟩
  rcases overlapping.state with before | ⟨body, settled⟩
  · exact .inl (untouched before)
  · exact .inr ⟨body, settled.kept led records⟩

omit [TimeScale Time] in
/-- A record is removed only after it was settled. -/
theorem removed
    (overlapping : Overlapping operator pages address record middle cluster)
    (lasting : ¬ Removable record)
    (faultless : Faultless pages address cluster (.removed address)) :
    Overlapping operator pages address record middle (cluster.remove address) := by
  have gone : (cluster.remove address).records address = none := by
    simp [Cluster.remove]
  refine ⟨overlapping.known, overlapping.led, .inr ?_⟩
  rcases overlapping.state with untouched | ⟨body, settled⟩
  · exact absurd (faultless rfl record untouched.stored) lasting
  · refine ⟨body, settled.rewrites, settled.complies, .inr ⟨gone, ?_⟩⟩
    rcases settled.stored with ⟨version, found⟩ | ⟨_, removable⟩
    · exact (removable_restamp body version).mp (faultless rfl _ found)
    · exact removable

/-- Overlapping runs stay so over an undisturbed step. -/
theorem step
    (overlapping : Overlapping operator pages address record middle cluster)
    (reached : Reached operator (lattice pages) (KeepsSpec address) moves cluster)
    (lasting : ¬ Removable record)
    (allowed : Undisturbed pages address cluster move)
    (step : Step operator (lattice pages) cluster move next) :
    Overlapping operator pages address record middle next := by
  cases step with
  | began other =>
      refine overlapping.onward (.refl _) overlapping.known rfl fun untouched => ?_
      refine ⟨untouched.stored, ?_⟩
      intro index run late found exchange inside
      rcases Nat.lt_or_ge index cluster.runs.length with earlier | new
      · rw [List.getElem?_append_left earlier] at found
        exact untouched.calm index run late found exchange inside
      · rw [List.getElem?_append_right new] at found
        rw [List.mem_singleton.mp (List.mem_of_getElem? found)] at inside
        cases inside
  | passed ongoing performs silent reply =>
      refine overlapping.onward (.refl _) overlapping.known rfl fun untouched => ?_
      exact untouched.resume ongoing (by simp)
  | @exchanged index run request answer cloud rest ongoing performs answered =>
      obtain ⟨led, _⟩ :=
        reached.concerted.led reached ongoing performs answered overlapping.known
      refine overlapping.onward led overlapping.known rfl fun untouched => ?_
      have served : Untouched operator address record middle
          { cluster with cloud := cloud } :=
        ⟨untouched.stored, untouched.calm⟩
      refine served.resume ongoing ?_
      intro late exchange new
      obtain rfl := List.mem_singleton.mp new
      exact untouched.calm_exchange reached late ongoing performs answered
        allowed.faultless
  | @replaced index run replacement rest ongoing performs stored current fresh =>
      refine ⟨past_subset_store _ _ _ overlapping.known, overlapping.led, .inr ?_⟩
      obtain ⟨body, settled⟩ :=
        overlapping.replaced reached ongoing performs stored current
      exact ⟨body, settled.kept (.refl _) rfl⟩
  | @stored other foreign own fresh =>
      have different : address ≠ other := by
        rintro rfl
        exact allowed.alone foreign rfl
      have records :
          (cluster.store other foreign).records address = cluster.records address :=
        records_store_other foreign different
      have known := past_subset_store other foreign address overlapping.known
      refine overlapping.onward (.refl _) known records fun untouched => ?_
      exact ⟨records.trans untouched.stored, untouched.calm⟩
  | removed other =>
      by_cases same : other = address
      · subst same
        exact overlapping.removed lasting allowed.faultless
      · have records :
            (cluster.remove other).records address = cluster.records address :=
          records_remove_other (Ne.symm same)
        refine overlapping.onward (.refl _) overlapping.known records
          fun untouched => ?_
        exact ⟨records.trans untouched.stored, untouched.calm⟩

end Overlapping

/-- Undisturbed reconciles overlap however long they go on. -/
theorem Continued.overlapping
    (continued :
      Continued operator (lattice pages) (Undisturbed pages address) middle after
      cluster)
    (reached : Reached operator (lattice pages) (KeepsSpec address) before middle)
    (stored : middle.records address = some record)
    (lasting : ¬ Removable record) :
    Overlapping operator pages address record middle cluster := by
  induction continued with
  | refl =>
      refine ⟨reached.sound.archived.current address record stored, .refl _,
        .inl ⟨stored, ?_⟩⟩
      intro index run late found exchange inside
      rw [← historyOf_of_ongoing found, late] at inside
      cases inside
  | step earlier allowed step overlapping =>
      have reached' :=
        earlier.reached reached fun _ _ undisturbed => undisturbed.spec
      exact overlapping.step reached' lasting allowed step

end PolicyReconciler.Cluster

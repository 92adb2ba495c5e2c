import Mathlib.Data.List.Pairwise
import PolicyReconciler.Proofs.Cluster.Basic
import PolicyReconciler.Proofs.Program.Replay

namespace PolicyReconciler

/-!
# The invariant of a cluster

In a cluster that moves lead to, the records that were stored at one address have
pairwise different versions, and every ongoing reconcile is underway on one of its
courses and has read only such records.  So a replacement that takes effect replaces
the very record that its reconcile has read.
-/

open Program Policy VpcLattice Reconcile PolicyStore

variable {Time Cloud : Type} [TimeScale Time]
variable {operator : Operator Time}

/-! ## Ongoing reconciles -/

/--
Whether a reconcile is on one of its courses and has read only records of the past.
-/
structure Ongoing.Sound
    (operator : Operator Time)
    (past : Address → List Members)
    (run : Ongoing Time) : Prop where
  meets :
    run.rest.Meets (Underway operator run.address) (Course operator run.address)
    run.history
  truthful : ∀ target timeout body,
    (⟨.readRecord target timeout, .ok body⟩ : Exchange) ∈ run.history →
      ∃ record ∈ past target, body = .obj record

namespace Ongoing.Sound

variable {past : Address → List Members}
variable {run : Ongoing Time}

/-- A run stays sound when more records have been stored. -/
theorem mono
    {later : Address → List Members}
    (sound : run.Sound operator past)
    (kept : ∀ address, past address ⊆ later address) :
    run.Sound operator later := by
  refine ⟨sound.meets, ?_⟩
  intro target timeout body member
  obtain ⟨record, inside, same⟩ := sound.truthful target timeout body member
  exact ⟨record, kept target inside, same⟩

/-- A run stays sound over an effect that calls nothing. -/
theorem passed
    {effect : Effect Time}
    {next : effect.Reply → Program Time (ReconcileResult Nat)}
    (sound : run.Sound operator past)
    (performs : run.rest = .perform effect next)
    (silent : effect.Silent)
    (reply : effect.Reply) :
    (run.advance [] (next reply)).Sound operator past := by
  have meets := sound.meets
  rw [performs] at meets
  have rest := meets.2 reply
  rw [Effect.exchanges_of_silent silent] at rest
  refine ⟨rest, ?_⟩
  simpa [advance] using sound.truthful

variable {request : Call}
variable {next : Except Fault Json → Program Time (ReconcileResult Nat)}

/-- A sound run is under way with its next call. -/
theorem underway
    (sound : run.Sound operator past)
    (performs : run.rest = .perform (.call request) next) :
    Underway operator run.address run.history request := by
  have meets := sound.meets
  rw [performs] at meets
  exact meets.1

/-- A run stays sound over an exchange whose answer tells the truth. -/
theorem exchanged
    (sound : run.Sound operator past)
    (performs : run.rest = .perform (.call request) next)
    (answer : Except Fault Json)
    (truthful : ∀ target timeout body,
      request = .readRecord target timeout → answer = .ok body →
        ∃ record ∈ past target, body = .obj record) :
    (run.advance [⟨request, answer⟩] (next answer)).Sound operator past := by
  have meets := sound.meets
  rw [performs] at meets
  refine ⟨meets.2 answer, ?_⟩
  intro target timeout body member
  rcases List.mem_append.mp member with before | last
  · exact sound.truthful target timeout body before
  · cases List.mem_singleton.mp last
    exact truthful target timeout body rfl rfl

end Ongoing.Sound

/--
What a reconcile has done before it writes back: it has read a record, found the
resource of its target, and made all changes that the record calls for.
-/
structure Ongoing.Concludes
    (operator : Operator Time)
    (run : Ongoing Time)
    (record : Members)
    (policy : Policy)
    (kind : TargetKind)
    (identifier : Json)
    (reads lookups changes : History) : Prop where
  history_eq : run.history = reads ++ lookups ++ changes
  reads_only : ∀ exchange ∈ reads, exchange.call = readCall operator run.address
  read : ⟨readCall operator run.address, .ok (.obj record)⟩ ∈ reads
  parsed : ofMembers record = .ok policy
  supported : policy.target.kind = .str kind.text
  lookup : TargetLookup operator kind policy lookups (.ok (some identifier))
  change : Carried operator (plan policy identifier) changes (.ok ())

/-- A reconcile that replaces a record writes back the policy that it has read. -/
theorem Ongoing.Sound.replaces
    {past : Address → List Members}
    {run : Ongoing Time}
    {target : Address}
    {body : Members}
    {timeout : Json}
    {next : Except Fault Json → Program Time (ReconcileResult Nat)}
    (sound : run.Sound operator past)
    (performs : run.rest = .perform
      (.call (.replaceRecord target (.obj body) timeout)) next) :
    ∃ record policy kind identifier reads lookups changes,
      record ∈ past run.address ∧
        run.Concludes operator record policy kind identifier reads lookups changes ∧
        target = addressOf record ∧
        body = (settledPolicy policy identifier).written := by
  obtain ⟨reads, lookups, changes, policy, kind, identifier, history, read,
      supported, lookup,
    change, call⟩ := (sound.underway performs).replace_inv
  obtain ⟨record, inside, parsed⟩ := read.exists_record
  have known :
      ⟨readCall operator run.address, .ok (.obj record)⟩ ∈ run.history := by
    rw [history]
    exact List.mem_append_left _ (List.mem_append_left _ inside)
  obtain ⟨record', stored, same⟩ := sound.truthful _ _ _ known
  cases same
  obtain ⟨targeted, written⟩ := settledPolicy_call (shows_of_ofMembers parsed) call
  exact ⟨record, policy, kind, identifier, reads, lookups, changes, stored,
    ⟨history, read.reads, inside, parsed, supported, lookup, change⟩,
      targeted, written⟩

/-! ## Clusters -/

namespace Cluster

/-- Whether the records at each address are its own and have different versions. -/
structure Archived
    (records : Address → Option Members)
    (past : Address → List Members) : Prop where
  current : ∀ address record, records address = some record → record ∈ past address
  own : ∀ address, ∀ record ∈ past address, addressOf record = address
  distinct : ∀ address, (past address).Pairwise fun later earlier =>
    versionOf later ≠ versionOf earlier

/-- What is true of every cluster that moves lead to. -/
structure Sound
    (operator : Operator Time)
    (cluster : Cluster Time Cloud) :
    Prop where
  archived : Archived cluster.records cluster.past
  runs : ∀ run ∈ cluster.runs, run.Sound operator cluster.past

section Store

variable {cluster : Cluster Time Cloud}
variable {address other : Address}

omit [TimeScale Time] in
/-- A stored record is found. -/
theorem records_store_same (record : Members) :
    (cluster.store address record).records address = some record := by
  simp [Cluster.store]

omit [TimeScale Time] in
/-- Storing a record leaves the others. -/
theorem records_store_other
    (record : Members)
    (different : other ≠ address) :
    (cluster.store address record).records other = cluster.records other := by
  simp [Cluster.store, different]

omit [TimeScale Time] in
/-- Removing a record leaves the others. -/
theorem records_remove_other (different : other ≠ address) :
    (cluster.remove address).records other = cluster.records other := by
  simp [Cluster.remove, different]

omit [TimeScale Time] in
/-- What was once stored stays in the past. -/
theorem past_subset_store (address : Address) (record : Members) (other : Address) :
    cluster.past other ⊆ (cluster.store address record).past other := by
  unfold store
  by_cases same : other = address
  · subst same
    simp
  · simp [same]

omit [TimeScale Time] in
/-- A version stays fresh while records of other versions are stored. -/
theorem Fresh.store
    {record : Members}
    {version : Json}
    (fresh : cluster.Fresh address version)
    (other : versionOf record ≠ version) :
    (cluster.store address record).Fresh address version := by
  intro stored inside
  simp only [Cluster.store, Function.update_self] at inside
  rcases List.mem_cons.mp inside with rfl | before
  · exact other
  · exact fresh stored before

omit [TimeScale Time] in
/-- A cluster stays archived when a record of a fresh version is stored. -/
theorem Archived.store
    {record : Members}
    (archived : Archived cluster.records cluster.past)
    (own : addressOf record = address)
    (fresh : cluster.Fresh address (versionOf record)) :
    Archived (cluster.store address record).records
      (cluster.store address record).past := by
  refine ⟨?_, ?_, ?_⟩
  · intro other stored found
    by_cases same : other = address
    · subst same
      rw [records_store_same, Option.some.injEq] at found
      subst found
      simp [Cluster.store]
    · rw [records_store_other _ same] at found
      exact past_subset_store _ _ _ (archived.current other stored found)
  · intro other stored inside
    by_cases same : other = address
    · subst same
      simp only [Cluster.store, Function.update_self] at inside
      rcases List.mem_cons.mp inside with rfl | before
      · exact own
      · exact archived.own other stored before
    · simp only [Cluster.store, ne_eq, same, not_false_eq_true,
        Function.update_of_ne] at inside
      exact archived.own other stored inside
  · intro other
    by_cases same : other = address
    · subst same
      simp only [Cluster.store, Function.update_self, List.pairwise_cons]
      exact ⟨fun earlier inside =>
        (fresh earlier inside).symm, archived.distinct other⟩
    · simpa [Cluster.store, same] using archived.distinct other

omit [TimeScale Time] in
/-- A cluster stays archived when a record is removed. -/
theorem Archived.remove
    (archived : Archived cluster.records cluster.past)
    (address : Address) :
    Archived (cluster.remove address).records (cluster.remove address).past := by
  refine ⟨?_, archived.own, archived.distinct⟩
  intro other stored found
  by_cases same : other = address
  · subst same
    simp [Cluster.remove] at found
  · rw [records_remove_other same] at found
    exact archived.current other stored found

/-- A stored record carries its own address. -/
theorem Archived.addressOf_eq
    {records : Address → Option Members}
    {past : Address → List Members}
    {address : Address}
    {record : Members}
    (archived : Archived records past)
    (stored : records address = some record) :
    addressOf record = address :=
  archived.own address record (archived.current address record stored)

/-- A version names one record. -/
theorem Archived.eq_of_versionOf_eq
    {records : Address → Option Members}
    {past : Address → List Members}
    {address : Address}
    {first second : Members}
    (archived : Archived records past)
    (firstStored : first ∈ past address)
    (secondStored : second ∈ past address)
    (same : versionOf first = versionOf second) :
    first = second := by
  by_contra different
  have symmetric : Std.Symm fun later earlier : Members =>
      versionOf later ≠ versionOf earlier :=
    ⟨fun _ _ apart => apart.symm⟩
  exact (archived.distinct address).forall firstStored secondStored different same

end Store

variable {serves : Service Cloud}
variable {cluster next : Cluster Time Cloud}

/-- A cluster before any run is sound. -/
theorem Initial.sound (fresh : cluster.Initial) : cluster.Sound operator := by
  refine ⟨⟨?_, ?_, ?_⟩, ?_⟩
  · intro address record found
    rw [fresh.unchanged, found]
    exact List.mem_cons_self
  · intro address record inside
    rw [fresh.unchanged] at inside
    exact fresh.own address record (Option.mem_toList.mp inside)
  · intro address
    rw [fresh.unchanged]
    cases cluster.records address <;> simp
  · rw [fresh.idle]
    simp

/--
A replacement that takes effect replaces the record that its reconcile has read.
-/
theorem Sound.replaces
    {index : Nat}
    {run : Ongoing Time}
    {replacement : Replacement}
    {rest : Except Fault Json → Program Time (ReconcileResult Nat)}
    (sound : cluster.Sound operator)
    (ongoing : cluster.runs[index]? = some run)
    (performs : run.rest = .perform (.call replacement.exchange.call) rest)
    (stored : cluster.records replacement.address = some replacement.old)
    (current : versionOf replacement.body = versionOf replacement.old) :
    ∃ policy kind identifier reads lookups changes,
      replacement.address = run.address ∧
        run.Concludes operator replacement.old policy kind identifier reads
          lookups changes ∧
        replacement.body = (settledPolicy policy identifier).written := by
  have inside := List.mem_of_getElem? ongoing
  obtain ⟨record, policy, kind, identifier, reads, lookups, changes,
      known, concludes,
    targeted, written⟩ := (sound.runs run inside).replaces performs
  have atHome : replacement.address = run.address := by
    rw [targeted]
    exact sound.archived.own run.address record known
  obtain ⟨_, versioned, _, _⟩ :=
    settledPolicy_written identifier (shows_of_ofMembers concludes.parsed)
  have same : replacement.old = record := by
    apply sound.archived.eq_of_versionOf_eq
      (sound.archived.current _ _ stored) (atHome ▸ known)
    rw [← current, written, versioned]
  rw [same]
  exact ⟨policy, kind, identifier, reads, lookups, changes, atHome,
    concludes, written⟩

/-- Every move keeps the invariant. -/
theorem Sound.step
    {move : Move}
    (sound : cluster.Sound operator)
    (step : Step operator serves cluster move next) :
    next.Sound operator := by
  cases step with
  | began address =>
      refine ⟨sound.archived, ?_⟩
      intro run inside
      rcases List.mem_append.mp inside with before | new
      · exact sound.runs run before
      · rw [List.mem_singleton.mp new]
        exact ⟨reconcile_meets operator address, by simp⟩
  | passed ongoing performs silent reply =>
      refine ⟨sound.archived, ?_⟩
      intro run inside
      rcases List.mem_or_eq_of_mem_set inside with before | rfl
      · exact sound.runs run before
      · have previous := sound.runs _ (List.mem_of_getElem? ongoing)
        exact previous.passed performs silent reply
  | @exchanged _ run request answer _ _ ongoing performs answered =>
      refine ⟨sound.archived, ?_⟩
      intro other inside
      rcases List.mem_or_eq_of_mem_set inside with before | rfl
      · exact sound.runs other before
      · have previous := sound.runs _ (List.mem_of_getElem? ongoing)
        apply previous.exchanged performs
        rintro target timeout body rfl rfl
        obtain ⟨record, found, same⟩ :=
          Option.map_eq_some_iff.mp (answered.2 body rfl)
        exact ⟨record, sound.archived.current target record found, same.symm⟩
  | @replaced _ run replacement _ ongoing performs stored current fresh =>
      obtain ⟨policy, kind, identifier, reads, lookups, changes, atHome,
          concludes, written⟩ :=
        sound.replaces ongoing performs stored current
      -- what is written back bears the name that the record was stored under
      have kept := sound.archived.current _ _ stored
      obtain ⟨located, _, _, _⟩ :=
        settledPolicy_written identifier (shows_of_ofMembers concludes.parsed)
      have own : addressOf replacement.new = replacement.address := by
        rw [Replacement.new, addressOf_restamp, written, located]
        exact sound.archived.own _ _ kept
      refine ⟨sound.archived.store own
        (by rwa [Replacement.new, versionOf_restamp]), ?_⟩
      intro other inside
      rcases List.mem_or_eq_of_mem_set inside with before | rfl
      · exact (sound.runs other before).mono (past_subset_store _ _)
      · have previous := sound.runs _ (List.mem_of_getElem? ongoing)
        apply (previous.exchanged performs replacement.answer _).mono
          (past_subset_store _ _)
        intro target timeout body impossible
        cases impossible
  | stored own fresh =>
      refine ⟨sound.archived.store own fresh, ?_⟩
      intro run inside
      exact (sound.runs run inside).mono (past_subset_store _ _)
  | removed address =>
      exact ⟨sound.archived.remove address, sound.runs⟩

/-- Every cluster that moves lead to is sound. -/
theorem Reached.sound
    {allows : Cluster Time Cloud → Move → Prop}
    {moves : List Move}
    (reached : Reached operator serves allows moves cluster) :
    cluster.Sound operator := by
  induction reached with
  | initial fresh =>
      exact fresh.sound
  | step before allowed step inductionHypothesis =>
      exact inductionHypothesis.step step

/-! ## One reconcile at a time -/

section Resume

variable {index : Nat}

omit [TimeScale Time] in
/-- A resumed run is found in its place. -/
theorem resume_runs
    {run : Ongoing Time}
    (bound : index < cluster.runs.length) :
    (cluster.resume index run).runs[index]? = some run := by
  simp [resume, bound]

omit [TimeScale Time] in
theorem resume_bound
    {run : Ongoing Time}
    (bound : index < cluster.runs.length) :
    index < (cluster.resume index run).runs.length := by
  simpa [resume] using bound

end Resume

/--
How a cluster answers calls that replace no record, in the states of its service.
-/
def answering
    (serves : Service Cloud)
    (cluster : Cluster Time Cloud) :
    Answering Cloud :=
  fun cloud => { cluster with cloud := cloud }.Answers serves

section Continued

variable {allows : Cluster Time Cloud → Move → Prop}
variable {moves more : List Move}
variable {start : Cluster Time Cloud}

/-- What continues a reached cluster is reached. -/
theorem Continued.reached
    {allows' : Cluster Time Cloud → Move → Prop}
    (continued : Continued operator serves allows start more cluster)
    (reached : Reached operator serves allows' moves start)
    (allowing : ∀ current move, allows current move → allows' current move) :
    Reached operator serves allows' (moves ++ more) cluster := by
  induction continued with
  | refl =>
      rw [List.append_nil]
      exact reached
  | step _ allowed step inductionHypothesis =>
      rw [← List.append_assoc]
      exact inductionHypothesis.step (allowing _ _ allowed) step

/-- A reconcile may go on while nothing else happens, if it replaces no record. -/
theorem Continued.follow
    {run : Ongoing Time}
    {history : History}
    {last : Program Time (ReconcileResult Nat)}
    {cloud : Cloud}
    (continued : Continued operator serves allows start moves cluster)
    (index : Nat)
    (ongoing : cluster.runs[index]? = some run)
    (leads : run.rest.Leads history last)
    (replays : Replays (cluster.answering serves) cluster.cloud history cloud)
    (passes : ∀ other, allows other (.passed index))
    (exchanges : ∀ exchange ∈ history, ∀ (other : Cluster Time Cloud) after,
      other.Answers serves exchange.call exchange.answer after →
        allows other (.exchanged index exchange)) :
    ∃ more, Continued operator serves allows start (moves ++ more)
      ({ cluster with cloud := cloud }.resume index
        (run.advance history last)) := by
  obtain ⟨address, made, rest⟩ := run
  dsimp only at leads
  have bound : index < cluster.runs.length :=
    (List.getElem?_eq_some_iff.mp ongoing).1
  induction leads generalizing moves cluster made with
  | refl program =>
      obtain rfl := replays.nil_inv
      have unchanged : cluster.resume index
          (Ongoing.advance ⟨address, made, program⟩ [] program) =
          cluster := by
        unfold resume Ongoing.advance
        rw [List.append_nil]
        congr 1
        obtain ⟨_, same⟩ := List.getElem?_eq_some_iff.mp ongoing
        rw [← same, List.set_getElem_self]
      refine ⟨[], ?_⟩
      rw [List.append_nil, unchanged]
      exact continued
  | @perform effect next later last reply rest inductionHypothesis =>
      -- an effect that asks nobody is a move too, and leaves the history as it is
      by_cases silent : effect.Silent
      · rw [Effect.exchanges_of_silent silent, List.nil_append]
          at replays exchanges ⊢
        have passed :=
          continued.step (passes cluster) (.passed ongoing rfl silent reply)
        obtain ⟨more, onward⟩ :=
          inductionHypothesis passed replays exchanges (made ++ [])
          (resume_runs bound) (resume_bound bound)
        refine ⟨.passed index :: more, ?_⟩
        simpa [Ongoing.advance, resume] using onward
      · obtain ⟨request, rfl⟩ := Effect.eq_call_of_not_silent silent
        cases replays with
        | @cons _ middle _ _ _ _ answered replays =>
            have allowed := exchanges _ List.mem_cons_self cluster middle answered
            have called := continued.step allowed (.exchanged ongoing rfl answered)
            have kept : index < { cluster with cloud := middle }.runs.length :=
              bound
            obtain ⟨more, onward⟩ := inductionHypothesis called replays
              (fun exchange inside =>
                exchanges exchange (List.mem_cons_of_mem _ inside))
              (made ++ [⟨request, reply⟩]) (resume_runs kept) (resume_bound kept)
            refine ⟨.exchanged index ⟨request, reply⟩ :: more, ?_⟩
            simpa [Ongoing.advance, resume, Effect.exchanges] using onward

end Continued

/-- A cluster is reached where a reconcile goes on while nothing else happens. -/
theorem Reached.follow
    {allows : Cluster Time Cloud → Move → Prop}
    {moves : List Move}
    {run : Ongoing Time}
    {history : History}
    {last : Program Time (ReconcileResult Nat)}
    {cloud : Cloud}
    (reached : Reached operator serves allows moves cluster)
    (index : Nat)
    (ongoing : cluster.runs[index]? = some run)
    (leads : run.rest.Leads history last)
    (replays : Replays (cluster.answering serves) cluster.cloud history cloud)
    (passes : ∀ other, allows other (.passed index))
    (exchanges : ∀ other exchange, allows other (.exchanged index exchange)) :
    ∃ more, Reached operator serves allows (moves ++ more)
      ({ cluster with cloud := cloud }.resume index
        (run.advance history last)) := by
  have start : Continued operator serves allows cluster [] cluster := .refl
  obtain ⟨more, continued⟩ := start.follow index ongoing leads replays passes
    (fun exchange _ other _ _ => exchanges other exchange)
  exact ⟨more, continued.reached reached fun _ _ => id⟩

/-- A reconcile may go on where the service answers its calls without changing. -/
theorem Reached.advance
    {allows : Cluster Time Cloud → Move → Prop}
    {moves : List Move}
    {index : Nat}
    {run : Ongoing Time}
    {history : History}
    {last : Program Time (ReconcileResult Nat)}
    (reached : Reached operator serves allows moves cluster)
    (ongoing : cluster.runs[index]? = some run)
    (leads : run.rest.Leads history last)
    (answered : ∀ exchange ∈ history,
      cluster.Answers serves exchange.call exchange.answer cluster.cloud)
    (passes : ∀ other, allows other (.passed index))
    (exchanges : ∀ other exchange, allows other (.exchanged index exchange)) :
    ∃ more, Reached operator serves allows (moves ++ more)
      (cluster.resume index (run.advance history last)) :=
  reached.follow index ongoing leads (.of_forall answered) passes exchanges

end Cluster

end PolicyReconciler

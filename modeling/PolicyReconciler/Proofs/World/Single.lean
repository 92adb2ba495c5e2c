import PolicyReconciler.Proofs.World.Compliance

namespace PolicyReconciler.World

/-!
# A single reconcile

In a world without failures a reconcile that is alone leads the resources to
compliance with its record.  It writes the record back in the form that the record
is rewritten to, or leaves it as it is if there is none.
-/

open Program Policy VpcLattice Reconcile PolicyStore

variable {Time : Type} [TimeScale Time]
variable {operator : Operator Time}
variable {pages : Pages}
variable {address : Address}
variable {record : Members}
variable {world last : World}
variable {history : History}
variable {outcome : Except Fault (ReconcileResult Nat)}

/-- A replay leaves the pages. -/
theorem pages_of_replays
    (replays : Replays Answers world history last) :
    last.pages = world.pages := by
  induction replays with
  | nil =>
      rfl
  | cons answered rest inductionHypothesis =>
      rw [inductionHypothesis, answered.pages_eq]

/-- A replay without writes leaves the records. -/
theorem records_of_replays
    (replays : Replays Answers world history last)
    (unwritten : ∀ exchange ∈ history, ¬ Writes exchange.call) :
    last.records = world.records := by
  induction replays with
  | nil =>
      rfl
  | cons answered rest inductionHypothesis =>
      obtain ⟨first, others⟩ := List.forall_mem_cons.mp unwritten
      rw [inductionHypothesis others, answered.records_of_not_writes first]

/--
A reconcile that is alone meets no failure, and always reads the stored record.
-/
theorem unfailing_of_runs
    (stored : world.records address = some record)
    (runs : (reconcile operator address).Runs history outcome)
    (replays : Replays Answers world history last) :
    Unfailing operator world.pages address record history := by
  refine ⟨?_, ?_, ?_⟩
  · intro answer inside
    obtain ⟨first, second, before, after, rfl, earlier, answered, _⟩ :=
      replays.exists_answered inside
    obtain ⟨_, leads, _⟩ := runs.split_call
    have underway := ((reconcile_meets operator address).of_leads leads).1
    have kept := records_of_replays earlier underway.not_writes
    cases answered with
    | read found =>
        rw [kept, stored] at found
        cases found
        rfl
    | unread absent =>
        rw [kept, stored] at absent
        cases absent
  · intro kind token answer inside
    obtain ⟨_, _, before, _, _, earlier, answered, _⟩ :=
      replays.exists_answered inside
    rw [← pages_of_replays earlier]
    cases answered
    rfl
  · intro exchange inside policy identifier planned
    obtain ⟨_, _, _, _, _, _, answered, _⟩ := replays.exists_answered inside
    exact (taken_of_planned planned answered).1

/-- A reconcile that is alone calls for nothing but what its record demands. -/
theorem demands_of_runs
    {exchange : Exchange}
    (unfailing : Unfailing operator pages address record history)
    (runs : (reconcile operator address).Runs history outcome)
    (inside : exchange ∈ history) :
    (Looks exchange.call ∨ Writes exchange.call) ∨
      Demands operator pages record exchange.call := by
  obtain ⟨first, second, rfl⟩ := List.append_of_mem inside
  obtain ⟨_, leads, _⟩ := runs.split_call
  have underway := ((reconcile_meets operator address).of_leads leads).1
  have shown : ∀ exchange ∈ first, ShowsPage pages exchange :=
    fun exchange known => unfailing.showsPage (List.mem_append_left _ known)
  rcases underway.looks_or_demands shown with
    looks | writes | ⟨record', known, demands⟩
  · exact .inl (.inl looks)
  · exact .inl (.inr writes)
  · cases unfailing.reads _ (List.mem_append_left _ known)
    exact .inr demands

omit [TimeScale Time] in
/--
Demanded calls that are all answered lead the resources on, and stay in effect.
-/
theorem led_of_replays
    (replays : Replays Answers world history last)
    (demanded : ∀ exchange ∈ history, (Looks exchange.call ∨ Writes exchange.call) ∨
      Demands operator pages record exchange.call) :
    Led operator pages record world.resources last.resources ∧
      ∀ exchange ∈ history, Demands operator pages record exchange.call →
        applied exchange.call last.resources = last.resources := by
  induction replays with
  | nil =>
      exact ⟨.refl _, by simp⟩
  | @cons world middle last call answer later answered rest inductionHypothesis =>
      obtain ⟨first, others⟩ := List.forall_mem_cons.mp demanded
      obtain ⟨onward, inEffect⟩ := inductionHypothesis others
      have led : Led operator pages record world.resources middle.resources ∧
          middle.resources = applied call world.resources := by
        rcases first with silent | demands
        · have same : middle.resources = world.resources := by
            rcases answered.applied_or_eq with taken | unchanged
            · rw [taken, applied_of_looks_or_writes silent]
            · exact unchanged
          rw [same, applied_of_looks_or_writes silent]
          exact ⟨.refl _, rfl⟩
        · obtain ⟨_, _, _, _, planned⟩ := Demands.exists_planned demands
          obtain ⟨_, taken⟩ := taken_of_planned planned answered
          rw [taken]
          exact ⟨.single demands _, rfl⟩
      obtain ⟨toMiddle, taken⟩ := led
      refine ⟨toMiddle.trans onward, List.forall_mem_cons.mpr ⟨?_, inEffect⟩⟩
      intro demands
      apply onward.keeps demands
      rw [taken, applied_again demands]

/--
A write-back of a reconcile that is alone takes effect, and it is the last call.
-/
theorem written_of_runs
    {exchange : Exchange}
    (own : addressOf record = address)
    (stored : world.records address = some record)
    (runs : (reconcile operator address).Runs history outcome)
    (replays : Replays Answers world history last)
    (unfailing : Unfailing operator world.pages address record history)
    (inside : exchange ∈ history)
    (writes : Writes exchange.call) :
    ∃ body version, Rewrites operator world.pages record body ∧
      last.records address = some (restamp body version) := by
  obtain ⟨first, second, before, after, rfl, earlier, answered, later⟩ :=
    replays.exists_answered inside
  obtain rfl := eq_nil_of_writes runs writes
  obtain rfl := later.nil_inv
  obtain ⟨_, leads, _⟩ := runs.split_call
  have underway := ((reconcile_meets operator address).of_leads leads).1
  rw [List.nil_append] at underway
  have kept := records_of_replays earlier underway.not_writes
  have shown : ∀ exchange ∈ first, ShowsPage world.pages exchange :=
    fun exchange known => unfailing.showsPage (List.mem_append_left _ known)
  obtain ⟨record', body, known, rewrites, current, call⟩ :=
    underway.rewrites writes shown
  cases unfailing.reads _ (List.mem_append_left _ known)
  rw [call, own] at answered
  obtain ⟨_, version, rfl⟩ := answered.exists_stored (by rw [kept, stored]) current
  exact ⟨body, version, rewrites, records_store_same⟩

/-- What a reconcile that is alone makes of the resources and of its record. -/
theorem single_run
    (paced : ∀ api, Limiter.turn (operator.rates.of api) = .ok ())
    (own : addressOf record = address)
    (stored : world.records address = some record)
    (runs : (reconcile operator address).Runs history outcome)
    (replays : Replays Answers world history last) :
    Led operator world.pages record world.resources last.resources ∧
      Complies operator world.pages record last.resources ∧
      ((∃ body version, Rewrites operator world.pages record body ∧
          last.records address = some (restamp body version)) ∨
        (∀ body, ¬ Rewrites operator world.pages record body) ∧
          last.records address = some record) := by
  have unfailing := unfailing_of_runs stored runs replays
  have course : Course operator address ([] ++ history) outcome :=
    (reconcile_meets operator address).of_runs runs
  rw [List.nil_append] at course
  obtain ⟨led, inEffect⟩ := led_of_replays replays fun exchange inside =>
    demands_of_runs unfailing runs inside
  refine ⟨led, ?_, ?_⟩
  · intro call demands
    obtain ⟨exchange, inside, rfl⟩ := course.made_of_demands paced unfailing demands
    exact inEffect exchange inside demands
  · by_cases written : ∃ exchange ∈ history, Writes exchange.call
    · obtain ⟨exchange, inside, writes⟩ := written
      exact .inl (written_of_runs own stored runs replays unfailing inside writes)
    · push Not at written
      refine .inr ⟨?_, ?_⟩
      · intro body rewrites
        obtain ⟨exchange, inside, writes⟩ :=
          course.writes_of_rewrites paced unfailing rewrites
        exact written exchange inside writes
      · rw [records_of_replays replays written, stored]

end PolicyReconciler.World

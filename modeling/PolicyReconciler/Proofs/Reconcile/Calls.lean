import PolicyReconciler.Proofs.Policy.Record
import PolicyReconciler.Proofs.Reconcile.Course

namespace PolicyReconciler.Reconcile

/-!
# The calls of a course

Each call of a reconcile belongs to one stage: it looks something up, enables or
disables the resource, or writes the record back.  Which of these it is tells what
the reconcile must have read before.
-/

open Program Policy VpcLattice PolicyStore

variable {Time : Type} [TimeScale Time]
variable {operator : Operator Time}

/-! ## Planned calls -/

/--
Whether a call requires signed requests of a resource or attaches a policy to it.
-/
def Enables (call : Call) : Prop :=
  (∃ kind identifier, call = .setAuthType kind identifier signedRequests) ∨
    ∃ identifier document, call = .putAuthPolicy identifier document

/-- Takes off a policy or opens a resource. -/
def Disables (call : Call) : Prop :=
  (∃ identifier, call = .deleteAuthPolicy identifier) ∨
    ∃ kind identifier, call = .setAuthType kind identifier noAuth

/--
A live policy plans calls that enable, one that is being deleted calls that disable.
-/
theorem planned_call
    {policy : Policy}
    {identifier : Json}
    {call : Call}
    (planned : .ok call ∈ plan policy identifier) :
    (policy.deletionRequested = true ∧ Disables call) ∨
      (policy.deletionRequested = false ∧ Enables call) := by
  unfold plan at planned
  split at planned
  · rename_i deleting
    refine .inl ⟨deleting, ?_⟩
    rcases List.mem_cons.mp planned with isDelete | isChange
    · cases isDelete
      exact .inl ⟨_, rfl⟩
    · obtain ⟨kind, _, rfl⟩ :=
        eq_of_typeChange_ok (List.mem_singleton.mp isChange).symm
      exact .inr ⟨_, _, rfl⟩
  · rename_i live
    refine .inr ⟨by simpa using live, ?_⟩
    rcases List.mem_cons.mp planned with isChange | isPut
    · obtain ⟨kind, _, rfl⟩ := eq_of_typeChange_ok isChange.symm
      exact .inl ⟨_, _, rfl⟩
    · cases List.mem_singleton.mp isPut
      exact .inr ⟨_, _, rfl⟩

/-- No call both disables and enables. -/
theorem not_enables_of_disables
    {call : Call}
    (disables : Disables call) :
    ¬ Enables call := by
  rintro (⟨_, _, rfl⟩ | ⟨_, _, rfl⟩)
  · rcases disables with ⟨_, same⟩ | ⟨_, _, same⟩
    · cases same
    · simp [signedRequests, noAuth] at same
  · rcases disables with ⟨_, same⟩ | ⟨_, _, same⟩ <;> cases same

/-! ## Settled policies -/

/-- The settled form of a policy shows what the policy shows. -/
theorem settledPolicy_written
    {record : Members}
    {policy : Policy}
    (identifier : Json)
    (shown : policy.Shows record) :
    addressOf (settledPolicy policy identifier).written = addressOf record ∧
      versionOf (settledPolicy policy identifier).written = versionOf record ∧
      (Deleting (settledPolicy policy identifier).written ↔ Deleting record) ∧
      finalizersOf (settledPolicy policy identifier).written =
        policy.gate.finalizers := by
  have kept : (settledPolicy policy identifier).record = record :=
    (gate_record policy).trans shown.record_eq
  have versioned : (settledPolicy policy identifier).version = versionOf record :=
    (gate_version policy).trans shown.version_eq
  refine ⟨?_, ?_, ?_, ?_⟩
  · rw [addressOf_written, kept]
  · rw [versionOf_written _ (by rw [kept, versioned]), versioned]
  · rw [deleting_written, kept]
  · rw [finalizersOf_written]
    rfl

omit [TimeScale Time] in
/-- A settled policy is written to the address of its record. -/
theorem settledPolicy_call
    {record body : Members}
    {policy : Policy}
    {identifier timeout : Json}
    {target : Address}
    (shown : policy.Shows record)
    (call : .replaceRecord target (.obj body) timeout =
      writeCall operator (settledPolicy policy identifier)) :
    target = addressOf record ∧
      body = (settledPolicy policy identifier).written := by
  injection call with targeted written
  rw [toRecord_eq] at written
  injection written with written
  refine ⟨?_, written⟩
  rw [targeted, ← shown.address_eq]
  simp [settledPolicy, Policy.annotate]

/-! ## Calls by the stage that makes them -/

/-- A record is replaced only after all changes for the policy that was read. -/
theorem Underway.replace_inv
    {address target : Address}
    {history : History}
    {body timeout : Json}
    (underway :
      Underway operator address history (.replaceRecord target body timeout)) :
    ∃ reads lookups changes policy kind identifier,
      history = reads ++ lookups ++ changes ∧
        Reading operator address readRetries reads (.ok (some policy)) ∧
        policy.target.kind = .str kind.text ∧
        TargetLookup operator kind policy lookups (.ok (some identifier)) ∧
        Carried operator (plan policy identifier) changes (.ok ()) ∧
        .replaceRecord target body timeout =
          writeCall operator (settledPolicy policy identifier) := by
  generalize made : Call.replaceRecord target body timeout = call at underway
  cases underway with
  | reading reading =>
      cases made
  | listing token read supported lists =>
      cases made
  | @changing reads lookups changes policy kind identifier earlier rest call
      read supported lookup planned change =>
      subst made
      have member :
          .ok (.replaceRecord target body timeout) ∈ plan policy identifier := by
        rw [planned]
        exact List.mem_append_right _ List.mem_cons_self
      rcases planned_call member with ⟨_, disables⟩ | ⟨_, enables⟩
      · rcases disables with ⟨_, same⟩ | ⟨_, _, same⟩ <;> cases same
      · rcases enables with ⟨_, _, same⟩ | ⟨_, _, same⟩ <;> cases same
  | writing read supported lookup change =>
      exact ⟨_, _, _, _, _, _, rfl, read, supported, lookup, change, rfl⟩

/-- A call that enables is made only for a live policy that was read before. -/
theorem Underway.enable_inv
    {address : Address}
    {history : History}
    {call : Call}
    (underway : Underway operator address history call)
    (enables : Enables call) :
    ∃ record policy, ⟨readCall operator address, .ok (.obj record)⟩ ∈ history ∧
      Policy.ofMembers record = .ok policy ∧ policy.deletionRequested = false := by
  cases underway with
  | reading reading =>
      rcases enables with ⟨_, _, same⟩ | ⟨_, _, same⟩ <;> cases same
  | listing token read supported lists =>
      rcases enables with ⟨_, _, same⟩ | ⟨_, _, same⟩ <;> cases same
  | @changing reads lookups changes policy kind identifier earlier rest call
      read supported lookup planned change =>
      obtain ⟨record, inside, fit⟩ := read.exists_record
      have member : .ok call ∈ plan policy identifier := by
        rw [planned]
        exact List.mem_append_right _ List.mem_cons_self
      rcases planned_call member with ⟨_, disables⟩ | ⟨live, _⟩
      · exact absurd enables (not_enables_of_disables disables)
      · exact ⟨record, policy,
          List.mem_append_left _ (List.mem_append_left _ inside), fit, live⟩
  | writing read supported lookup change =>
      rcases enables with ⟨_, _, same⟩ | ⟨_, _, same⟩ <;> cases same

/-- Replaces a record. -/
def Writes (call : Call) : Prop :=
  ∃ target body timeout, call = .replaceRecord target body timeout

/-- Reads a record or a listing. -/
def Looks (call : Call) : Prop :=
  (∃ target timeout, call = .readRecord target timeout) ∨
    ∃ kind token, call = .listPage kind token

/-- Looking writes nothing. -/
theorem not_writes_of_looks
    {call : Call}
    (looks : Looks call) :
    ¬ Writes call := by
  rintro ⟨_, _, _, rfl⟩
  rcases looks with ⟨_, _, same⟩ | ⟨_, _, same⟩ <;> cases same

/-- Looking enables nothing. -/
theorem not_enables_of_looks
    {call : Call}
    (looks : Looks call) :
    ¬ Enables call := by
  rintro (⟨_, _, rfl⟩ | ⟨_, _, rfl⟩)
  · rcases looks with ⟨_, _, same⟩ | ⟨_, _, same⟩ <;> cases same
  · rcases looks with ⟨_, _, same⟩ | ⟨_, _, same⟩ <;> cases same

/-- Whether a call reads a record. -/
def Reads (call : Call) : Prop :=
  ∃ target timeout, call = .readRecord target timeout

theorem not_reads_of_lists
    {kind : ResourceKind}
    {call : Call}
    (lists : Lists kind call) :
    ¬ Reads call := by
  obtain ⟨token, rfl⟩ := lists
  rintro ⟨_, _, same⟩
  cases same

/-- A planned change reads no record. -/
theorem not_reads_of_planned
    {policy : Policy}
    {identifier : Json}
    {call : Call}
    (planned : .ok call ∈ plan policy identifier) :
    ¬ Reads call := by
  rintro ⟨target, timeout, rfl⟩
  rcases planned_call planned with ⟨_, disables⟩ | ⟨_, enables⟩
  · rcases disables with ⟨_, impossible⟩ | ⟨_, _, impossible⟩ <;> cases impossible
  · rcases enables with ⟨_, _, impossible⟩ | ⟨_, _, impossible⟩ <;> cases impossible

/-- A planned change writes no record. -/
theorem not_writes_of_planned
    {policy : Policy}
    {identifier : Json}
    {call : Call}
    (planned : .ok call ∈ plan policy identifier) :
    ¬ Writes call := by
  rintro ⟨target, body, timeout, rfl⟩
  rcases planned_call planned with ⟨_, disables⟩ | ⟨_, enables⟩
  · rcases disables with ⟨_, impossible⟩ | ⟨_, _, impossible⟩ <;> cases impossible
  · rcases enables with ⟨_, _, impossible⟩ | ⟨_, _, impossible⟩ <;> cases impossible

/-- Carrying out a plan writes no record. -/
theorem not_writes_of_carried
    {policy : Policy}
    {identifier : Json}
    {changes : History}
    {result : Except Fault Unit}
    (change : Carried operator (plan policy identifier) changes result) :
    ∀ exchange ∈ changes, ¬ Writes exchange.call :=
  fun _ inside => not_writes_of_planned (change.mem_plan inside)

/-- Only the plan of a live record enables anything. -/
theorem live_of_enables
    {policy : Policy}
    {identifier : Json}
    {changes : History}
    {result : Except Fault Unit}
    {exchange : Exchange}
    (change : Carried operator (plan policy identifier) changes result)
    (inside : exchange ∈ changes)
    (enables : Enables exchange.call) :
    policy.deletionRequested = false := by
  have planned := change.mem_plan inside
  rcases planned_call planned with ⟨_, disables⟩ | ⟨live, _⟩
  · exact absurd enables (not_enables_of_disables disables)
  · exact live

/-- A course only looks before its changes. -/
theorem looks_before
    {address : Address}
    {policy : Policy}
    {kind : TargetKind}
    {reads lookups : History}
    {read : Except Fault (Option Policy)}
    {found : Except Fault (Option Json)}
    (reading : Reading operator address readRetries reads read)
    (lookup : TargetLookup operator kind policy lookups found) :
    ∀ exchange ∈ reads ++ lookups, Looks exchange.call := by
  intro exchange inside
  rcases List.mem_append.mp inside with inReads | inLookups
  · rw [reading.reads exchange inReads]
    exact .inl ⟨_, _, rfl⟩
  · obtain ⟨token, same⟩ := lookup.lists exchange inLookups
    exact .inr ⟨_, token, same⟩

/--
Of all calls up to the changes, only one read was answered by a record: that of the
policy.
-/
theorem only_record_of_stages
    {address : Address}
    {policy : Policy}
    {kind : TargetKind}
    {identifier : Json}
    {reads lookups changes : History}
    {found : Except Fault (Option Json)}
    (read : Reading operator address readRetries reads (.ok (some policy)))
    (lookup : TargetLookup operator kind policy lookups found)
    (planned : ∀ exchange ∈ changes, .ok exchange.call ∈ plan policy identifier) :
    ∃ record, Policy.ofMembers record = .ok policy ∧
      ∀ body, ⟨readCall operator address, .ok body⟩ ∈ reads ++ lookups ++ changes ↔
        body = .obj record := by
  obtain ⟨record, fit, only⟩ := read.only_record
  refine ⟨record, fit, fun body => ?_⟩
  rw [← only body, List.mem_append, List.mem_append]
  constructor
  · rintro ((inReads | inLookups) | inChanges)
    · exact inReads
    · exact absurd ⟨_, _, rfl⟩ (not_reads_of_lists (lookup.lists _ inLookups))
    · exact absurd ⟨_, _, rfl⟩ (not_reads_of_planned (planned _ inChanges))
  · exact fun inReads => .inl (.inl inReads)

/-- A reconcile that has written makes no further call. -/
theorem Underway.not_writes
    {address : Address}
    {history : History}
    {call : Call}
    (underway : Underway operator address history call) :
    ∀ exchange ∈ history, ¬ Writes exchange.call := by
  intro exchange inside writes
  cases underway with
  | reading reading =>
      obtain ⟨_, _, _, same⟩ := writes
      rw [reading exchange inside] at same
      cases same
  | listing token read supported lists =>
      rcases List.mem_append.mp inside with inReads | inLookups
      · obtain ⟨_, _, _, same⟩ := writes
        rw [read.reads exchange inReads] at same
        cases same
      · obtain ⟨_, _, _, same⟩ := writes
        obtain ⟨_, listed⟩ := lists exchange inLookups
        rw [listed] at same
        cases same
  | @changing _ _ _ _ _ _ _ rest call read supported lookup planned change =>
      rcases List.mem_append.mp inside with before | inChanges
      · exact not_writes_of_looks (looks_before read lookup exchange before) writes
      · have inPlan :=
          List.mem_append_left (.ok call :: rest) (change.mem_plan inChanges)
        rw [← planned] at inPlan
        exact not_writes_of_planned inPlan writes
  | writing read supported lookup change =>
      rcases List.mem_append.mp inside with before | inChanges
      · exact not_writes_of_looks (looks_before read lookup exchange before) writes
      · exact not_writes_of_carried change exchange inChanges writes

/-- The write-back is the last call of a reconcile. -/
theorem eq_nil_of_writes
    {address : Address}
    {last : Program Time (ReconcileResult Nat)}
    {earlier later : History}
    {exchange : Exchange}
    (leads : (reconcile operator address).Leads (earlier ++ exchange :: later) last)
    (writes : Writes exchange.call) :
    later = [] := by
  cases later with
  | nil =>
      rfl
  | cons next others =>
      rw [List.append_cons] at leads
      obtain ⟨_, reaches, _⟩ := leads.split_call
      have underway := ((reconcile_meets operator address).of_leads reaches).1
      exact absurd writes (underway.not_writes exchange (by simp))

/-- Every call of a reconcile looks something up, disables, enables or writes. -/
theorem Underway.classified
    {address : Address}
    {history : History}
    {call : Call}
    (underway : Underway operator address history call) :
    Looks call ∨ Disables call ∨ Enables call ∨ Writes call := by
  cases underway with
  | reading reading =>
      exact .inl (.inl ⟨_, _, rfl⟩)
  | listing token read supported lists =>
      exact .inl (.inr ⟨_, _, rfl⟩)
  | @changing _ _ _ policy _ identifier made rest _ read supported lookup
        planned change =>
      have member : .ok call ∈ plan policy identifier := by
        rw [planned]
        exact List.mem_append_right _ List.mem_cons_self
      rcases planned_call member with ⟨_, disables⟩ | ⟨_, enables⟩
      · exact .inr (.inl disables)
      · exact .inr (.inr (.inl enables))
  | writing read supported lookup change =>
      exact .inr (.inr (.inr ⟨_, _, _, rfl⟩))

/--
A reconcile that has replaced a record has written its settled policy back, and it
ends as the answer calls for.
-/
theorem Course.write_inv
    {address : Address}
    {history : History}
    {outcome : Except Fault (ReconcileResult Nat)}
    {exchange : Exchange}
    (course : Course operator address history outcome)
    (inside : exchange ∈ history)
    (writes : Writes exchange.call) :
    ∃ record policy identifier,
      Policy.ofMembers record = .ok policy ∧
        exchange.call = writeCall operator (settledPolicy policy identifier) ∧
        outcome = (writeVerdict (settledPolicy policy identifier)
          exchange.answer).map
          fun _ => settled := by
  cases course with
  | unread read | missing read | unsupported read =>
      rw [read.reads exchange inside] at writes
      obtain ⟨_, _, _, same⟩ := writes
      cases same
  | targetMissing read supported lookup | unresolved read supported lookup =>
      exact absurd writes
        (not_writes_of_looks (looks_before read lookup exchange inside))
  | halted read supported lookup change =>
      rcases List.mem_append.mp inside with before | inChanges
      · exact absurd writes
          (not_writes_of_looks (looks_before read lookup exchange before))
      · exact absurd writes (not_writes_of_carried change exchange inChanges)
  | written read supported lookup change write =>
      rcases List.mem_append.mp inside with before | last
      · rcases List.mem_append.mp before with earlier | inChanges
        · exact absurd writes
            (not_writes_of_looks (looks_before read lookup exchange earlier))
        · exact absurd writes (not_writes_of_carried change exchange inChanges)
      · obtain ⟨record, _, parsed⟩ := read.exists_record
        cases write with
        | stalled halted =>
            cases last
        | answered answer =>
            cases List.mem_singleton.mp last
            exact ⟨record, _, _, parsed, rfl, rfl⟩

/--
A reconcile that has replaced a record ends as the answer to the replacement calls
for.
-/
theorem Course.of_writes
    {address : Address}
    {history : History}
    {outcome : Except Fault (ReconcileResult Nat)}
    {exchange : Exchange}
    (course : Course operator address history outcome)
    (inside : exchange ∈ history)
    (writes : Writes exchange.call) :
    ∃ policy, outcome = (writeVerdict policy exchange.answer).map fun _ =>
      settled := by
  obtain ⟨_, _, _, _, _, ended⟩ := course.write_inv inside writes
  exact ⟨_, ended⟩

/--
A conflict is reported with the address and the version that the call carried.
-/
theorem Course.conflict_inv
    {address target : Address}
    {history : History}
    {outcome : Except Fault (ReconcileResult Nat)}
    {body : Members}
    {timeout : Json}
    {response : ApiResponse}
    (course : Course operator address history outcome)
    (inside :
      ⟨.replaceRecord target (.obj body) timeout, .error (.api response)⟩ ∈ history)
    (conflict : response.status.isNumber 409 = true) :
    outcome = .error (.conflict target.recordNamespace target.name (versionOf body)
      (some response)) := by
  obtain ⟨record, policy, identifier, parsed, call, ended⟩ :=
    course.write_inv inside ⟨_, _, _, rfl⟩
  have shown := shows_of_ofMembers parsed
  have versioned : (settledPolicy policy identifier).version = versionOf record :=
    (gate_version policy).trans shown.version_eq
  obtain ⟨_, written⟩ := settledPolicy_call shown call
  obtain ⟨_, carried, _, _⟩ := settledPolicy_written identifier shown
  injection call with targeted
  rw [ended, targeted, written, carried, ← versioned]
  simp only [writeVerdict, if_pos conflict]
  rfl

/--
A reconcile that has enabled a resource and is settled has written its live policy
back.
-/
theorem Course.of_enables
    {address : Address}
    {history : History}
    {exchange : Exchange}
    (course : Course operator address history (.ok settled))
    (inside : exchange ∈ history)
    (enables : Enables exchange.call) :
    ∃ record policy identifier answer,
      ⟨readCall operator address, .ok (.obj record)⟩ ∈ history ∧
        Policy.ofMembers record = .ok policy ∧ policy.deletionRequested = false ∧
        ⟨writeCall operator (settledPolicy policy identifier), .ok answer⟩ ∈
          history := by
  -- of the courses that settle, one found no record and the other wrote it back
  generalize ended : Except.ok settled = outcome at course
  cases course with
  | unread read =>
      cases ended
  | missing read =>
      have looks : Looks exchange.call := by
        rw [read.reads exchange inside]
        exact .inl ⟨_, _, rfl⟩
      exact absurd enables (not_enables_of_looks looks)
  | unsupported read | targetMissing read =>
      simp [settled] at ended
  | @unresolved _ _ _ _ fault | @halted _ _ _ _ _ _ fault =>
      cases fault <;> simp [settled, pipelineFailure] at ended
  | @written reads lookups changes writes policy kind identifier result
      read supported lookup change write =>
      -- only the changes enable anything, and those of a deletion do not
      have live : policy.deletionRequested = false := by
        rcases List.mem_append.mp inside with before | last
        · rcases List.mem_append.mp before with earlier | inChanges
          · exact absurd enables
              (not_enables_of_looks (looks_before read lookup exchange earlier))
          · exact live_of_enables change inChanges enables
        · cases write with
          | stalled halted =>
              cases last
          | answered answer =>
              cases List.mem_singleton.mp last
              rcases enables with ⟨_, _, same⟩ | ⟨_, _, same⟩ <;> cases same
      obtain ⟨record, known, parsed⟩ := read.exists_record
      obtain ⟨answer, last⟩ : ∃ answer,
          ⟨writeCall operator (settledPolicy policy identifier), .ok answer⟩ ∈
            writes := by
        cases write with
        | stalled halted =>
            cases ended
        | answered answer =>
            cases answer with
            | ok body =>
                exact ⟨body, List.mem_cons_self⟩
            | error fault =>
                obtain ⟨left, refused⟩ :=
                  writeVerdict_error (settledPolicy policy identifier) fault
                rw [refused] at ended
                cases ended
      refine ⟨record, policy, identifier, answer, ?_, parsed, live,
        List.mem_append_right _ last⟩
      exact List.mem_append_left _
        (List.mem_append_left _ (List.mem_append_left _ known))

end PolicyReconciler.Reconcile

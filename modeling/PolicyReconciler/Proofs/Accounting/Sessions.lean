import PolicyReconciler.Proofs.Accounting.Calls
import PolicyReconciler.Proofs.VpcLattice.Change
import PolicyReconciler.Proofs.Reconcile.Stages

namespace PolicyReconciler

/-!
# Accounting for sessions

A session is a sequence of operations of the store, of the client and on the auth
state, each of which ends in its own way.  Over a whole session the counters tell
what happened: the calls, by operation and outcome, and the operations on the auth
state, of which those succeeded whose call to the service succeeded or had nothing
to remove.
-/

open Program VpcLattice

/-- Whether a call succeeded, or was to remove a policy that was not there. -/
def Exchange.accepted (exchange : Exchange) : Bool :=
  match exchange.call, exchange.answer with
  | _, .ok _ => true
  | .deleteAuthPolicy _, .error fault =>
      fault.hasServiceCode "ResourceNotFoundException"
  | _, .error _ => false

variable {Time Result : Type} [TimeScale Time]
variable {operator : Operator Time}

/-! ## Operations on the auth state -/

namespace VpcLattice

/--
Carry out an operation on the auth state; only attaching a policy needs a document.
-/
def manage (operator : Operator Time) (operation : AuthOperation)
    (identifier document : Json) : Program Time Unit :=
  match operation with
  | .enableAuth => enableAuth operator identifier
  | .disableAuth => disableAuth operator identifier
  | .putPolicy => putPolicy operator identifier document
  | .deletePolicy => deletePolicy operator identifier

/--
The call to the service that an operation on the auth state makes, or why it makes
none.
-/
def providerCall (operation : AuthOperation) (identifier document : Json) :
    Except Fault Call :=
  match operation with
  | .enableAuth => typeChange identifier signedRequests
  | .disableAuth => typeChange identifier noAuth
  | .putPolicy => .ok (.putAuthPolicy identifier document)
  | .deletePolicy => .ok (.deleteAuthPolicy identifier)

end VpcLattice

/-- The operation on the auth state that a counter tells of. -/
def Counter.authOperation? : Counter → Option AuthOperation
  | .authOperations operation _ => some operation
  | _ => none

/-- Whether no counter of a chronicle tells of operations on the auth state. -/
def Unmanaged (chronicle : Chronicle) : Prop :=
  ∀ counter ∈ Chronicle.counters chronicle, counter.authOperation? = none

/-- Unmanaged chronicles stay unmanaged when they are joined. -/
theorem unmanaged_additive : Additive Unmanaged where
  nil := by simp [Unmanaged]
  append := by
    intro first second without without' counter inside
    rw [Chronicle.counters_append] at inside
    rcases List.mem_append.mp inside with before | after
    · exact without counter before
    · exact without' counter after

/-- The receipt of an exchange counts no change of a resource. -/
theorem unmanaged_receipt (exchange : Exchange) :
    Unmanaged (.exchanged exchange :: exchange.receipt) := by
  intro counter inside
  obtain ⟨mark, member, shows⟩ := List.mem_filterMap.mp inside
  rcases List.mem_cons.mp member with rfl | later
  · cases shows
  · rcases Exchange.mem_receipt later with ⟨charged, tells, rfl⟩ | ⟨operation, rfl⟩
    · cases shows
      cases counter with
      | authOperations =>
          cases tells
      | reconciles | faults | requeues | apiCalls | rateLimitHits =>
          rfl
    · cases shows

omit [TimeScale Time] in
/-- Lines and attributes count no change of a resource. -/
theorem Effect.Describes.unmanaged
    {effect : Effect Time}
    (describes : effect.Describes)
    (reply : effect.Reply) :
    Unmanaged (effect.marks reply) := by
  cases effect <;>
    first | exact describes.elim | simp [Unmanaged, Effect.marks, Mark.counter?]

/--
A program of calls and descriptions is counted as no operation on the auth state.
-/
theorem Composed.unmanaged
    {program : Program Time Result}
    (composed : program.OfRequests operator fun _ => False) :
    program.Obeys Unmanaged := by
  refine composed.obeys unmanaged_additive unmanaged_receipt
    (.inr fun operation => ?_)
    fun _ allowed => allowed.elim Effect.Describes.unmanaged False.elim
  simp [Unmanaged, Mark.counter?]

omit [TimeScale Time] in
/-- An operation is counted last, by the outcome of its work. -/
theorem counted_leaves
    {operation : AuthOperation}
    {program : Program Time Result}
    {chronicle : Chronicle}
    {outcome : Except Fault Result}
    (leaves : (counted operation program).Leaves chronicle outcome) :
    ∃ inner, program.Leaves inner outcome ∧
      chronicle = inner ++
        [.counted (.authOperations operation
          (if outcome.isOk then .success else .error))] := by
  obtain ⟨inner, reached, last, rfl, before, after⟩ := leaves.followedBy_inv
  cases reached with
  | ok result =>
      obtain ⟨_, rfl, ended⟩ := (Always.count _).bind_inv after
      obtain ⟨rfl, rfl⟩ := ended.done_inv
      exact ⟨inner, before, rfl⟩
  | error fault =>
      obtain ⟨_, rfl, ended⟩ := (Always.count _).bind_inv after
      obtain ⟨rfl, rfl⟩ := ended.done_inv
      exact ⟨inner, before, rfl⟩

/--
What an operation exchanges: nothing where it makes no call, else one call that
decides.
-/
def Provides
    (step : Except Fault Call)
    (history : History)
    (success : Bool) :
    Prop :=
  (∃ fault, step = .error fault ∧ history = [] ∧ success = false) ∨
    ∃ call answer, step = .ok call ∧ history = [⟨call, answer⟩] ∧
      success = Exchange.accepted ⟨call, answer⟩

/--
A run of a step makes its call, unless it is impossible, and ends as the answer is
taken.
-/
theorem provides_of_carriesOut
    {step : Except Fault Call}
    {program : Program Time Unit}
    {chronicle : Chronicle}
    {outcome : Except Fault Unit}
    (carries : CarriesOut operator step program)
    (paced : operator.Paced)
    (decides : ∀ call answer, step = .ok call →
      (verdict call answer).isOk = Exchange.accepted ⟨call, answer⟩)
    (leaves : program.Leaves chronicle outcome) :
    Provides step (Chronicle.exchanges chronicle) outcome.isOk := by
  have ready : Limiter.turn operator.rates.lattice = .ok () := paced.turn .lattice
  have meets := carries (fun _ _ => True)
    (fun after reached => Provides step after reached.isOk) []
    (fun fault impossible => .inl ⟨fault, impossible, rfl, rfl⟩)
    (fun call fault _ halted => by rw [ready] at halted; cases halted)
    (fun _ _ => trivial)
    (fun call answer made =>
      .inr ⟨call, answer, made, rfl, decides call answer made⟩)
  exact meets.of_runs leaves.runs

/--
Whether an operation on the auth state is counted once, by how its call to the
service ended.
-/
def Managed
    (operation : AuthOperation)
    (step : Except Fault Call)
    (chronicle : Chronicle) :
    Prop :=
  ∃ success, Provides step (Chronicle.exchanges chronicle) success ∧
    (Chronicle.counters chronicle).filter (·.authOperation?.isSome) =
      [.authOperations operation (if success then .success else .error)]

/-- What is only described afterwards changes no account. -/
theorem Managed.append
    {operation : AuthOperation}
    {step : Except Fault Call}
    {first last : Chronicle}
    (managed : Managed operation step first)
    (unexchanged : Chronicle.exchanges last = [])
    (uncounted : Chronicle.counters last = []) :
    Managed operation step (first ++ last) := by
  obtain ⟨success, provides, counts⟩ := managed
  refine ⟨success, ?_, ?_⟩
  · rwa [Chronicle.exchanges_append, unexchanged, List.append_nil]
  · rwa [Chronicle.counters_append, uncounted, List.append_nil]

/--
A counted program of one step counts one change of a resource, by how it went.
-/
theorem managed_of_counted
    {operation : AuthOperation}
    {step : Except Fault Call}
    {program : Program Time Result}
    {chronicle : Chronicle}
    {outcome : Except Fault Result}
    (composed : program.OfRequests operator fun _ => False)
    (leaves : (counted operation program).Leaves chronicle outcome)
    (provides : Provides step (Chronicle.exchanges chronicle) outcome.isOk) :
    Managed operation step chronicle := by
  obtain ⟨inner, before, rfl⟩ := counted_leaves leaves
  refine ⟨outcome.isOk, provides, ?_⟩
  have unmanaged :
      (Chronicle.counters inner).filter (·.authOperation?.isSome) = [] := by
    rw [List.filter_eq_nil_iff]
    intro counter inside
    simp [composed.unmanaged inner outcome before counter inside]
  rw [Chronicle.counters_append, List.filter_append, unmanaged]
  rfl

/--
Setting an auth type is managed, and the line that is logged afterwards changes
nothing.
-/
theorem setting_managed
    {operation : AuthOperation}
    {identifier authType : Json}
    {line : String}
    {chronicle : Chronicle}
    {outcome : Except Fault Unit}
    (paced : operator.Paced)
    (leaves :
      (counted operation (changeAuthType operator identifier authType) >>= fun _ =>
      log .info .authState line).Leaves chronicle outcome) :
    Managed operation (typeChange identifier authType) chronicle := by
  have alone : ∀ first reached,
      (counted operation (changeAuthType operator identifier authType)).Leaves first
        reached →
      Managed operation (typeChange identifier authType) first := by
    intro first reached setting
    apply managed_of_counted (Composed.changeAuthType _ _) setting
    have carries : CarriesOut operator (typeChange identifier authType)
        (counted operation (changeAuthType operator identifier authType)) := by
      intro permits ends past impossible stalled permitted answered
      exact counted_meets operation
        (changeAuthType_carriesOut identifier authType permits ends past
          impossible stalled
          permitted answered)
    refine provides_of_carriesOut carries paced ?_ setting
    intro call answer step
    obtain ⟨kind, _, rfl⟩ := eq_of_typeChange_ok step
    cases answer <;> rfl
  rcases leaves.bind_inv with
    ⟨fault, failed, rfl⟩ | ⟨first, _, last, rfl, done, logged⟩
  · exact alone _ _ failed
  · obtain ⟨_, _, rfl, ended⟩ := Leaves.perform_inv logged
    obtain ⟨rfl, -⟩ := ended.done_inv
    exact (alone _ _ done).append rfl rfl

/-- Putting a policy counts one change, by how the call went. -/
theorem putPolicy_managed
    {identifier document : Json}
    {chronicle : Chronicle}
    {outcome : Except Fault Unit}
    (paced : operator.Paced)
    (leaves : (putPolicy operator identifier document).Leaves chronicle outcome) :
    Managed .putPolicy (.ok (.putAuthPolicy identifier document)) chronicle := by
  have ready : Limiter.turn operator.rates.lattice = .ok () := paced.turn .lattice
  have alone : ∀ first reached,
      (counted .putPolicy (putAuthPolicy operator identifier document)).Leaves first
        reached →
      Managed .putPolicy (.ok (.putAuthPolicy identifier document)) first := by
    intro first reached putting
    apply managed_of_counted (Composed.putAuthPolicy _ _) putting
    have meets :
        (counted .putPolicy (putAuthPolicy operator identifier document)).Meets
        (fun _ _ => True)
        (fun after reached =>
          Provides (.ok (.putAuthPolicy identifier document)) after
            reached.isOk) [] := by
      apply counted_meets
      apply reporting_meets
      apply invoke_meets
      · intro fault halted
        rw [ready] at halted
        cases halted
      · trivial
      · intro answer
        exact .inr ⟨_, answer, rfl, rfl, by cases answer <;> rfl⟩
    exact meets.of_runs putting.runs
  rcases leaves.bind_inv with
    ⟨fault, failed, rfl⟩ | ⟨first, answer, last, rfl, done, after⟩
  · exact alone _ _ failed
  · rcases after.bind_inv with
      ⟨fault, unread, rfl⟩ | ⟨_, state, _, rfl, read, logged⟩
    · obtain ⟨rfl, -⟩ := unread.done_inv
      exact (alone _ _ done).append rfl rfl
    · obtain ⟨rfl, -⟩ := read.done_inv
      obtain ⟨_, _, rfl, ended⟩ := Leaves.perform_inv logged
      obtain ⟨rfl, -⟩ := ended.done_inv
      exact (alone _ _ done).append rfl rfl

/-- Deleting a policy counts one change, by how the call went. -/
theorem deletePolicy_managed
    {identifier : Json}
    {chronicle : Chronicle}
    {outcome : Except Fault Unit}
    (paced : operator.Paced)
    (leaves : (deletePolicy operator identifier).Leaves chronicle outcome) :
    Managed .deletePolicy (.ok (.deleteAuthPolicy identifier)) chronicle := by
  apply managed_of_counted (Composed.removePolicy identifier) leaves
  refine provides_of_carriesOut (deletePolicy_carriesOut identifier) paced ?_ leaves
  rintro call answer ⟨⟩
  cases answer with
  | ok answer =>
      rfl
  | error fault =>
      dsimp only [verdict, Exchange.accepted]
      split
      · rename_i gone
        rw [gone]
        rfl
      · rename_i kept
        rw [Bool.not_eq_true] at kept
        rw [kept]
        rfl

/-- Each operation on the auth state is counted once, and makes at most one call. -/
theorem manage_managed
    {operation : AuthOperation}
    {identifier document : Json}
    {chronicle : Chronicle}
    {outcome : Except Fault Unit}
    (paced : operator.Paced)
    (leaves :
      (manage operator operation identifier document).Leaves chronicle outcome) :
    Managed operation (providerCall operation identifier document) chronicle := by
  cases operation with
  | enableAuth =>
      exact setting_managed paced leaves
  | disableAuth =>
      exact setting_managed paced leaves
  | putPolicy =>
      exact putPolicy_managed paced leaves
  | deletePolicy =>
      exact deletePolicy_managed paced leaves

/-! ## Sessions -/

/-- An operation of the store, of the client or on the auth state. -/
inductive Task where
  | read (address : Address)
  | write (policy : Policy)
  | list (kind : ResourceKind)
  | find (kind : ResourceKind) (name : Json)
  | setAuthType (kind : ResourceKind) (identifier authType : Json)
  | attach (identifier document : Json)
  | detach (identifier : Json)
  | manage (operation : AuthOperation) (identifier document : Json)

namespace Task

/-- Carry out an operation, whatever it gives. -/
def program (operator : Operator Time) : Task → Program Time Unit
  | read address => PolicyStore.get operator address >>= fun _ => finish ()
  | write policy => PolicyStore.update operator policy >>= fun _ => finish ()
  | list kind => VpcLattice.list operator kind >>= fun _ => finish ()
  | find kind name => findId operator kind name >>= fun _ => finish ()
  | setAuthType kind identifier authType =>
      VpcLattice.setAuthType operator kind identifier authType
  | attach identifier document =>
      putAuthPolicy operator identifier document >>= fun _ => finish ()
  | detach identifier => deleteAuthPolicy operator identifier
  | manage operation identifier document =>
      VpcLattice.manage operator operation identifier document

/-- The change that a task makes to what guards a resource, if it makes one. -/
def authOperation? : Task → Option AuthOperation
  | manage operation _ _ => some operation
  | _ => none

/-- The programs of operations are made of requests. -/
theorem composed
    {loose : Effect Time → Prop}
    (task : Task)
    (tallies : task.authOperation?.isSome = true →
      ∀ operation outcome, loose (.count (.authOperations operation outcome))) :
    (task.program operator).OfRequests operator loose := by
  cases task with
  | read address =>
      exact .bind (.get address) fun _ => .ended _
  | write policy =>
      exact .bind (.part (.update policy)) fun _ => .ended _
  | list kind =>
      exact .bind (.list kind) fun _ => .ended _
  | find kind name =>
      exact .bind (.findId kind name) fun _ => .ended _
  | setAuthType kind identifier authType =>
      exact .setAuthType kind identifier authType
  | attach identifier document =>
      exact .bind (.putAuthPolicy identifier document) fun _ => .ended _
  | detach identifier =>
      exact .deleteAuthPolicy identifier
  | manage operation identifier document =>
      cases operation with
      | enableAuth =>
          exact .enableAuth (tallies rfl) identifier
      | disableAuth =>
          exact .disableAuth (tallies rfl) identifier
      | putPolicy =>
          exact .putPolicy (tallies rfl) identifier document
      | deletePolicy =>
          exact .deletePolicy (tallies rfl) identifier

end Task

/-- An operation together with what others saw of it. -/
structure Entry where
  task : Task
  chronicle : Chronicle

/-- A sequence of operations, the first one first. -/
abbrev Session := List Entry

/-- Whether each operation of a session was carried out as it is recorded. -/
def Session.Performed (operator : Operator Time) (session : Session) : Prop :=
  ∀ entry ∈ session, ∃ outcome,
    (entry.task.program operator).Leaves entry.chronicle outcome

/-- What others saw of a whole session. -/
def Session.chronicle (session : Session) : Chronicle :=
  session.flatMap Entry.chronicle

/--
Whether the call of an operation to the service was accepted; false where it made
none.
-/
def Entry.provided (entry : Entry) : Bool :=
  (Chronicle.exchanges entry.chronicle).any Exchange.accepted

/-- A step went through exactly if some exchange was accepted. -/
theorem Provides.eq_any
    {step : Except Fault Call}
    {history : History}
    {success : Bool}
    (provides : Provides step history success) :
    success = history.any Exchange.accepted := by
  rcases provides with ⟨fault, _, rfl, rfl⟩ | ⟨call, answer, _, rfl, rfl⟩
  · rfl
  · simp

namespace Session

variable {session : Session}

/-- A performed session is billed for every exchange. -/
theorem Performed.billed
    (performed : session.Performed operator)
    (paced : operator.Paced) :
    Billed session.chronicle := by
  refine billed_additive.flatMap fun entry inside => ?_
  obtain ⟨outcome, leaves⟩ := performed entry inside
  refine Composed.billed paced
    (entry.task.composed fun _ operation outcome => ?_) _ _ leaves
  intro reply mark marked
  obtain rfl := List.mem_singleton.mp marked
  exact ⟨rfl, rfl⟩

/--
Each entry for an operation on the auth state tells whether its call was accepted.
-/
theorem Performed.managed
    (performed : session.Performed operator)
    (paced : operator.Paced)
    {entry : Entry}
    (inside : entry ∈ session)
    {operation : AuthOperation}
    {identifier document : Json}
    (recorded : entry.task = .manage operation identifier document) :
    Provides (providerCall operation identifier document)
        (Chronicle.exchanges entry.chronicle) entry.provided ∧
      (Chronicle.counters entry.chronicle).filter (·.authOperation?.isSome) =
        [.authOperations operation
          (if entry.provided then .success else .error)] := by
  obtain ⟨outcome, leaves⟩ := performed entry inside
  rw [recorded] at leaves
  obtain ⟨success, provides, counts⟩ := manage_managed paced leaves
  obtain rfl : success = entry.provided := provides.eq_any
  exact ⟨provides, counts⟩

/-- An entry is counted as one operation on the auth state, if it is one. -/
theorem Performed.count_authOperations
    (performed : session.Performed operator)
    (paced : operator.Paced)
    {entry : Entry}
    (inside : entry ∈ session)
    (operation : AuthOperation)
    (success : Bool) :
    (Chronicle.counters entry.chronicle).count
        (.authOperations operation (if success then .success else .error)) =
      if entry.task.authOperation? = some operation ∧ entry.provided = success
        then 1 else 0 := by
  set counter : Counter :=
  .authOperations operation (if success then .success else .error)
  have filtered :
      ((Chronicle.counters entry.chronicle).filter (·.authOperation?.isSome)).count
        counter =
        (Chronicle.counters entry.chronicle).count counter :=
    List.count_filter rfl
  rw [← filtered]
  cases known : entry.task.authOperation? with
  | none =>
      obtain ⟨outcome, leaves⟩ := performed entry inside
      have unmanaged := (entry.task.composed (by simp [known])).unmanaged _ _ leaves
      have none : (Chronicle.counters entry.chronicle).filter
          (·.authOperation?.isSome) = [] := by
        rw [List.filter_eq_nil_iff]
        intro other member
        simp [unmanaged other member]
      simp [none]
  | some managed =>
      obtain ⟨identifier, document, recorded⟩ :
          ∃ identifier document, entry.task =
            .manage managed identifier document := by
        generalize entry.task = task at known
        cases task with
        | manage operation identifier document =>
            cases known
            exact ⟨identifier, document, rfl⟩
        | read | write | list | find | setAuthType | attach | detach =>
            cases known
      obtain ⟨_, counts⟩ := performed.managed paced inside recorded
      rw [counts, List.count_singleton]
      cases entry.provided <;> cases success <;> simp [counter]

end Session

/--
Whether the counters and durations of a session tell exactly what happened in it.
-/
structure Session.Accounted (session : Session) : Prop where
  /-- Each call is counted under its operation and its own outcome. -/
  outcomes : ∀ operation outcome,
    (Chronicle.counters session.chronicle).count (.apiCalls operation outcome) =
      (Chronicle.exchanges session.chronicle).countP fun exchange =>
        exchange.call.operation? = some operation ∧ exchange.outcome = outcome
  /-- The calls of an operation are the sum over all outcomes. -/
  calls : ∀ operation,
    (Chronicle.exchanges session.chronicle).countP
        (fun exchange => exchange.call.operation? = some operation) =
      (CallOutcome.all.map fun outcome =>
        (Chronicle.counters session.chronicle).count
          (.apiCalls operation outcome)).sum
  /-- Each call is timed once. -/
  durations : ∀ operation,
    (Chronicle.exchanges session.chronicle).countP
        (fun exchange => exchange.call.operation? = some operation) =
      (Chronicle.timings session.chronicle).count (.apiCallDuration operation)
  /-- The refusals of the Lattice service are the throttled calls. -/
  refusals :
    (Chronicle.counters session.chronicle).count (.rateLimitHits .lattice) =
      (Chronicle.exchanges session.chronicle).countP Exchange.throttled
  /-- An operation on the auth state makes its one call, if it can be made. -/
  provider : ∀ entry ∈ session, ∀ operation identifier document,
    entry.task = .manage operation identifier document →
    Provides (providerCall operation identifier document)
      (Chronicle.exchanges entry.chronicle) entry.provided
  /-- The successes are the operations whose call was accepted. -/
  successes : ∀ operation,
    (Chronicle.counters session.chronicle).count
      (.authOperations operation .success) =
      session.countP fun entry =>
        entry.task.authOperation? = some operation ∧ entry.provided = true
  /-- Every operation on the auth state is a success or an error. -/
  invocations : ∀ operation,
    (Chronicle.counters session.chronicle).count
      (.authOperations operation .success) +
        (Chronicle.counters session.chronicle).count
          (.authOperations operation .error) =
      session.countP fun entry => entry.task.authOperation? = some operation

/--
However the services answer, every session is accounted for, as long as no rate is
zero and all faults of the services are documented ones.
-/
theorem Session.accounted
    {session : Session}
    (paced : operator.Paced)
    (performed : session.Performed operator)
    (fits : ∀ exchange ∈ Chronicle.exchanges session.chronicle, exchange.Fits) :
    session.Accounted := by
  have billed := performed.billed paced
  have managed : ∀ operation success,
      (Chronicle.counters session.chronicle).count
          (.authOperations operation (if success then .success else .error)) =
        session.countP (fun entry =>
          entry.task.authOperation? = some operation ∧
            entry.provided = success) := by
    intro operation success
    rw [Chronicle.counters, Session.chronicle, List.filterMap_flatMap]
    apply countP_flatMap_of_single
    intro entry inside
    have single := performed.count_authOperations paced inside operation success
    simpa [List.count] using single
  exact {
    outcomes := billed.count_apiCalls fits
    calls := fun operation => (billed.sum_apiCalls fits operation).symm
    durations := fun operation => (billed.count_timings operation).symm
    refusals := billed.count_rateLimitHits fits
    provider := fun entry inside operation identifier document recorded =>
      (performed.managed paced inside recorded).1
    successes := fun operation => managed operation true
    invocations := fun operation => by
      have whole := List.countP_eq_countP_filter_add session
        (fun entry => entry.task.authOperation? = some operation) Entry.provided
      have successes := managed operation true
      have errors := managed operation false
      rw [if_pos rfl] at successes
      rw [if_neg Bool.false_ne_true] at errors
      rw [successes, errors, whole, List.countP_filter, List.countP_filter]
      simp
  }

/-! ## A session of four operations -/

/-- An operation of the gateway's operator, watched while its calls are answered. -/
def watchedEntry (task : Task) (answers : List (Except Fault Json)) : Entry where
  task := task
  chronicle :=
    ((task.program Reconcile.gatewayOperator).watch 0 ⟨.null, none⟩ answers).1

/-- An error answer of the Lattice service with a code. -/
def refusal (code : String) : Fault :=
  .service ⟨.str code, .null, .str "DeleteAuthPolicy", none⟩

/--
A read of a record that is gone, and three operations on the auth state of a
resource.
-/
def gatewaySession : Session :=
  [watchedEntry (.read Reconcile.gatewayAddress)
      [.error (.api ⟨.int 404, .str "Not Found", .null, .null⟩)],
    watchedEntry (.manage .deletePolicy (.str "sn-1") .null)
      [.error (refusal "ResourceNotFoundException")],
    watchedEntry (.manage .disableAuth (.str "sn-1") .null)
      [.error (refusal "ThrottlingException")],
    watchedEntry (.manage .disableAuth (.str "elsewhere") .null) []]

/-- The session of the gateway was performed. -/
theorem gatewaySession_performed :
    gatewaySession.Performed Reconcile.gatewayOperator := by
  intro entry inside
  have watched : ∃ task answers, entry = watchedEntry task answers := by
    simp only [gatewaySession, List.mem_cons, List.not_mem_nil, or_false] at inside
    rcases inside with rfl | rfl | rfl | rfl <;> exact ⟨_, _, rfl⟩
  obtain ⟨task, answers, rfl⟩ := watched
  exact ⟨_, leaves_watch _ _ _ _⟩

/-- The exchanges of the session, none of which went through. -/
theorem gatewaySession_exchanges :
    Chronicle.exchanges gatewaySession.chronicle =
      [⟨PolicyStore.readCall Reconcile.gatewayOperator Reconcile.gatewayAddress,
          .error (.api ⟨.int 404, .str "Not Found", .null, .null⟩)⟩,
        ⟨.deleteAuthPolicy (.str "sn-1"),
          .error (refusal "ResourceNotFoundException")⟩,
        ⟨.setAuthType .serviceNetwork (.str "sn-1") noAuth,
          .error (refusal "ThrottlingException")⟩] := by
  with_unfolding_all rfl

theorem gatewaySession_accounted :
    Reconcile.gatewayOperator.Paced ∧
      gatewaySession.Performed Reconcile.gatewayOperator ∧
      (∀ exchange ∈ Chronicle.exchanges gatewaySession.chronicle, exchange.Fits) ∧
      gatewaySession.Accounted := by
  have paced : Reconcile.gatewayOperator.Paced := by
    intro api
    cases api <;> rfl
  have fits :
      ∀ exchange ∈ Chronicle.exchanges gatewaySession.chronicle, exchange.Fits := by
    rw [gatewaySession_exchanges]
    simp only [List.forall_mem_cons]
    refine ⟨?_, ?_, ?_, by simp⟩
    · rintro operation fault ⟨⟩ ⟨⟩
      exact ⟨_, rfl⟩
    · rintro operation fault ⟨⟩ ⟨⟩
      rfl
    · rintro operation fault ⟨⟩ ⟨⟩
      rfl
  exact ⟨paced, gatewaySession_performed, fits,
    Session.accounted paced gatewaySession_performed fits⟩

end PolicyReconciler

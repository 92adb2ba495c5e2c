import Mathlib.Tactic.SplitIfs
import PolicyReconciler.Proofs.Composition.Calls
import PolicyReconciler.Proofs.PolicyStore
import PolicyReconciler.Proofs.Program.Chronicle

namespace PolicyReconciler

/-!
# Receipts for calls

Each call leaves a receipt: the exchange itself, the counters that its answer is
counted under, and its duration.  The marks that concern calls are the receipts of
the exchanges, one after the other, in every program that the operator is made of.
Only a call that a rate of zero keeps from being made would leave a duration and no
exchange.
-/

open Program

/-! ## The receipt of an exchange -/

/-- The counters for a call to the Lattice service that has ended. -/
def VpcLattice.charges {Result : Type} (operation : Operation) :
    Except Fault Result → List Counter
  | .ok _ => [.apiCalls operation .success]
  | .error fault =>
      if fault.isServiceFault then
        .apiCalls operation .error ::
          if fault.hasServiceCode "ThrottlingException" then
            [.rateLimitHits .lattice]
          else
            []
      else
        []

/-- The counters for an attempt to read a record. -/
def PolicyStore.readCharges : Except Fault Json → List Counter
  | .ok _ => [.apiCalls .readPolicy .success]
  | .error (.api response) =>
      if response.status.isNumber 404 then
        [.apiCalls .readPolicy .notFound]
      else
        .apiCalls .readPolicy .error ::
          if Backoff.isRetryable (.api response) then
            [.rateLimitHits .kubernetes]
          else
            []
  | .error _ => []

/-- The counters for writing a record back. -/
def PolicyStore.writeCharges : Except Fault Json → List Counter
  | .ok _ => [.apiCalls .updatePolicy .success]
  | .error (.api response) =>
      if response.status.isNumber 409 then
        [.apiCalls .updatePolicy .conflict]
      else
        [.apiCalls .updatePolicy .error]
  | .error _ => []

/-- The counters for a call of an operation with an answer. -/
def Operation.charges
    (operation : Operation)
    (answer : Except Fault Json) :
    List Counter :=
  match operation with
  | .readPolicy => PolicyStore.readCharges answer
  | .updatePolicy => PolicyStore.writeCharges answer
  | _ => VpcLattice.charges operation answer

/-- The operation that a call carries out, if it is one that is accounted for. -/
def Call.operation? (call : Call) : Option Operation :=
  match call.method with
  | .operation operation => some operation
  | _ => none

namespace Exchange

/-- The counters that an exchange is counted under. -/
def charges (exchange : Exchange) : List Counter :=
  match exchange.call.operation? with
  | some operation => operation.charges exchange.answer
  | none => []

/-- The histograms that the duration of an exchange is added to. -/
def durations (exchange : Exchange) : List Histogram :=
  match exchange.call.operation? with
  | some operation => [.apiCallDuration operation]
  | none => []

/-- The marks that an exchange leaves after itself. -/
def receipt (exchange : Exchange) : Chronicle :=
  exchange.charges.map .counted ++ exchange.durations.map .timed

end Exchange

/-- Whether a counter tells of calls. -/
def Counter.tellsOfCalls : Counter → Bool
  | .apiCalls .. => true
  | .rateLimitHits _ => true
  | _ => false

/-- Whether a mark tells of calls. -/
def Mark.tellsOfCalls : Mark → Bool
  | exchanged _ => true
  | counted counter => counter.tellsOfCalls
  | timed (.apiCallDuration _) => true
  | _ => false

/--
Whether the marks of a chronicle that tell of calls are the exchanges with their
receipts.
-/
def Billed (chronicle : Chronicle) : Prop :=
  chronicle.filter Mark.tellsOfCalls =
    (Chronicle.exchanges chronicle).flatMap fun exchange =>
      .exchanged exchange :: exchange.receipt

/-- Billed chronicles stay billed when they are joined. -/
theorem billed_additive : Additive Billed where
  nil := rfl
  append := by
    intro first second billed billed'
    unfold Billed at *
    rw [List.filter_append, billed, billed']
    rw [Chronicle.exchanges_append, List.flatMap_append]

/-! ## What the receipts are made of -/

/-- What a request of the service is charged with tells of calls. -/
theorem VpcLattice.tellsOfCalls_of_mem_charges
    {Result : Type}
    {operation : Operation}
    {outcome : Except Fault Result}
    {counter : Counter}
    (charged : counter ∈ charges operation outcome) :
    counter.tellsOfCalls = true := by
  cases outcome with
  | ok result =>
      obtain rfl := List.mem_singleton.mp charged
      rfl
  | error fault =>
      unfold charges at charged
      dsimp only at charged
      split_ifs at charged
      · rcases List.mem_cons.mp charged with rfl | throttled
        · rfl
        · obtain rfl := List.mem_singleton.mp throttled
          rfl
      · obtain rfl := List.mem_singleton.mp charged
        rfl
      · cases charged

/-- What a read is charged with tells of calls. -/
theorem PolicyStore.tellsOfCalls_of_mem_readCharges
    {answer : Except Fault Json}
    {counter : Counter}
    (charged : counter ∈ readCharges answer) :
    counter.tellsOfCalls = true := by
  unfold readCharges at charged
  split at charged
  · obtain rfl := List.mem_singleton.mp charged
    rfl
  · split_ifs at charged
    · obtain rfl := List.mem_singleton.mp charged
      rfl
    · rcases List.mem_cons.mp charged with rfl | refused
      · rfl
      · obtain rfl := List.mem_singleton.mp refused
        rfl
    · obtain rfl := List.mem_singleton.mp charged
      rfl
  · cases charged

/-- What a replacement is charged with tells of calls. -/
theorem PolicyStore.tellsOfCalls_of_mem_writeCharges
    {answer : Except Fault Json}
    {counter : Counter}
    (charged : counter ∈ writeCharges answer) :
    counter.tellsOfCalls = true := by
  unfold writeCharges at charged
  split at charged
  · obtain rfl := List.mem_singleton.mp charged
    rfl
  · split_ifs at charged <;> obtain rfl := List.mem_singleton.mp charged <;> rfl
  · cases charged

/-- What any operation is charged with tells of calls. -/
theorem Operation.tellsOfCalls_of_mem_charges
    {operation : Operation}
    {answer : Except Fault Json}
    {counter : Counter}
    (charged : counter ∈ operation.charges answer) :
    counter.tellsOfCalls = true := by
  cases operation with
  | readPolicy =>
      exact PolicyStore.tellsOfCalls_of_mem_readCharges charged
  | updatePolicy =>
      exact PolicyStore.tellsOfCalls_of_mem_writeCharges charged
  | list | setAuthType | putAuthPolicy | deleteAuthPolicy =>
      exact VpcLattice.tellsOfCalls_of_mem_charges charged

/-- What any exchange is charged with tells of calls. -/
theorem Exchange.tellsOfCalls_of_mem_charges
    {exchange : Exchange}
    {counter : Counter}
    (charged : counter ∈ exchange.charges) :
    counter.tellsOfCalls = true := by
  unfold charges at charged
  split at charged
  · exact Operation.tellsOfCalls_of_mem_charges charged
  · cases charged

/-- A receipt holds counters that tell of calls, and durations of calls. -/
theorem Exchange.mem_receipt
    {exchange : Exchange}
    {mark : Mark}
    (inside : mark ∈ exchange.receipt) :
    (∃ counter : Counter, counter.tellsOfCalls = true ∧ mark = .counted counter) ∨
      ∃ operation, mark = .timed (.apiCallDuration operation) := by
  rcases List.mem_append.mp inside with charge | duration
  · obtain ⟨counter, charged, rfl⟩ := List.mem_map.mp charge
    exact .inl ⟨counter, tellsOfCalls_of_mem_charges charged, rfl⟩
  · obtain ⟨histogram, timed, rfl⟩ := List.mem_map.mp duration
    unfold durations at timed
    split at timed
    · obtain rfl := List.mem_singleton.mp timed
      exact .inr ⟨_, rfl⟩
    · cases timed

/-- A single exchange with its receipt is billed. -/
theorem billed_receipt (exchange : Exchange) :
    Billed (.exchanged exchange :: exchange.receipt) := by
  have only : ∀ mark ∈ exchange.receipt, mark.tellsOfCalls = true ∧
      mark.exchange? = none := by
    intro mark inside
    rcases Exchange.mem_receipt inside with ⟨counter, tells, rfl⟩ | ⟨operation, rfl⟩
    · exact ⟨tells, rfl⟩
    · exact ⟨rfl, rfl⟩
  have alone : Chronicle.exchanges (.exchanged exchange :: exchange.receipt) =
      [exchange] := by
    have rest : List.filterMap Mark.exchange? exchange.receipt = [] :=
      List.filterMap_eq_nil_iff.mpr fun mark inside => (only mark inside).2
    rw [Chronicle.exchanges, List.filterMap_cons, rest]
    rfl
  rw [Billed, alone, List.flatMap_singleton, List.filter_eq_self]
  intro mark inside
  rcases List.mem_cons.mp inside with rfl | later
  · rfl
  · exact (only mark later).1

/-! ## Calls and their receipts -/

variable {Time Result : Type} [TimeScale Time]
variable {operator : Operator Time}

/-- Whether no rate of an operator is zero, so that every call gets its turn. -/
def Operator.Paced (operator : Operator Time) : Prop :=
  ∀ api, TimeScale.isZero (operator.rates.of api) = false

/-- A paced operator always gets its turn. -/
theorem Operator.Paced.turn
    (paced : operator.Paced)
    (api : Api) :
    Limiter.turn (operator.rates.of api) = .ok () := by
  rw [Limiter.turn, paced api]
  rfl

namespace Limiter

/-- Waiting for a turn calls nothing. -/
theorem awaitTurn_always (rate : Time) (api : Api) :
    (awaitTurn rate api).Always [] (turn rate) := by
  refine Always.readClock_bind fun now => ?_
  unfold turn
  split
  · exact .done _
  · have noting :
        (readClock >>= fun start : Time =>
          Program.perform (.noteCall api start) finish).Always
          [] (.ok ()) :=
      Always.readClock_bind fun start => .effect (fun _ => rfl) fun _ => rfl
    refine Always.perform_unmarked (fun _ => rfl) fun last => ?_
    dsimp only [finish, followedBy]
    cases waitFor? (TimeScale.interval rate) last now with
    | some length =>
        exact Always.bind (Always.pause (.span length)) noting
    | none =>
        exact Always.bind (Always.done (.ok ())) noting

/--
A call that gets its turn is one exchange, whose answer is the outcome; else there
is none.
-/
theorem limited_leaves
    {rate : Time}
    {api : Api}
    {request : Call}
    {chronicle : Chronicle}
    {outcome : Except Fault Json}
    (leaves : (limited rate api (call request)).Leaves chronicle outcome) :
    chronicle = [.exchanged ⟨request, outcome⟩] ∨
      turn rate = .error .divisionByZero ∧ chronicle = [] ∧
        outcome = .error .divisionByZero := by
  have always := awaitTurn_always rate api
  cases ready : turn rate with
  | ok _ =>
      rw [ready] at always
      obtain ⟨later, rfl, rest⟩ := always.bind_inv leaves
      obtain ⟨answer, _, rfl, ended⟩ := Leaves.perform_inv rest
      obtain ⟨rfl, rfl⟩ := ended.done_inv
      exact .inl rfl
  | error fault =>
      obtain rfl := turn_error ready
      obtain ⟨first, reached, last, rfl, before, after⟩ := leaves.followedBy_inv
      obtain ⟨rfl, same⟩ := always _ _ before
      rw [same, ready] at after
      obtain ⟨rfl, rfl⟩ := Leaves.done_inv after
      exact .inr ⟨rfl, rfl, rfl⟩

end Limiter

/--
What a call leaves: itself with its receipt, or where it never gets its turn a
duration.
-/
def Called (operator : Operator Time) (operation : Operation) (request : Call)
    (chronicle : Chronicle) : Prop :=
  (∃ answer, chronicle = .exchanged ⟨request, answer⟩ ::
    Exchange.receipt ⟨request, answer⟩) ∨
    Limiter.turn (operator.rates.of operation.api) = .error .divisionByZero ∧
      chronicle = [.timed (.apiCallDuration operation)]

namespace VpcLattice

/-- A call is counted by its outcome and then timed, and the outcome is kept. -/
theorem measured_leaves
    {operation : Operation}
    {request : Program Time Result}
    {chronicle : Chronicle}
    {outcome : Except Fault Result}
    (leaves : (measured operation request).Leaves chronicle outcome) :
    ∃ inner, request.Leaves inner outcome ∧
      chronicle = inner ++ ((charges operation outcome).map .counted ++
        [.timed (.apiCallDuration operation)]) := by
  obtain ⟨start, leaves⟩ := leaves.readClock_inv
  obtain ⟨charged, rfl, called⟩ := leaves.ensuring_inv (Always.observe_since _ _)
  obtain ⟨inner, reached, charge, rfl, before, after⟩ := called.followedBy_inv
  suffices counting :
      charge = (charges operation reached).map .counted ∧ outcome = reached by
    obtain ⟨rfl, rfl⟩ := counting
    exact ⟨inner, before, by rw [List.append_assoc]⟩
  cases reached with
  | ok result =>
      exact Always.bind (Always.count _) (Always.done (.ok result)) _ _ after
  | error fault =>
      unfold charges
      dsimp only at after ⊢
      by_cases ours : fault.isServiceFault = true
      · rw [if_pos ours] at after ⊢
        obtain ⟨later, rfl, noted⟩ := (Always.count _).bind_inv after
        by_cases throttled : fault.hasServiceCode "ThrottlingException" = true
        · rw [if_pos throttled] at noted ⊢
          obtain ⟨_, rfl, ended⟩ := (Always.count _).bind_inv noted
          obtain ⟨rfl, rfl⟩ := ended.done_inv
          exact ⟨rfl, rfl⟩
        · rw [if_neg throttled] at noted ⊢
          obtain ⟨rfl, rfl⟩ := Leaves.done_inv noted
          exact ⟨rfl, rfl⟩
      · rw [if_neg ours] at after ⊢
        exact after.done_inv

/-- A request of the service leaves one exchange with its receipt. -/
theorem invoke_leaves
    {operation : Operation}
    {request : Call}
    {chronicle : Chronicle}
    {outcome : Except Fault Json}
    (named : request.method = .operation operation)
    (served : operation.api = .lattice)
    (leaves : (invoke operator operation request).Leaves chronicle outcome) :
    Called operator operation request chronicle := by
  obtain ⟨inner, before, rfl⟩ := measured_leaves leaves
  rcases Limiter.limited_leaves before with rfl | ⟨halted, rfl, rfl⟩
  · refine .inl ⟨outcome, ?_⟩
    simp only [Exchange.receipt, Exchange.charges, Exchange.durations,
      Call.operation?, named, List.singleton_append]
    cases operation with
    | readPolicy | updatePolicy =>
        cases served
    | list | setAuthType | putAuthPolicy | deleteAuthPolicy =>
        rfl
  · refine .inr ⟨?_, rfl⟩
    rw [served]
    exact halted

end VpcLattice

namespace PolicyStore

/-- A timed program leaves its duration last. -/
theorem timed_leaves
    {operation : Operation}
    {program : Program Time Result}
    {chronicle : Chronicle}
    {outcome : Except Fault Result}
    (leaves : (timed operation program).Leaves chronicle outcome) :
    ∃ inner, program.Leaves inner outcome ∧
      chronicle = inner ++ [.timed (.apiCallDuration operation)] := by
  obtain ⟨start, leaves⟩ := leaves.readClock_inv
  obtain ⟨inner, rfl, before⟩ := leaves.ensuring_inv (Always.observe_since _ _)
  exact ⟨inner, before, rfl⟩

omit [TimeScale Time] in
/-- What follows a failed read is the charge for it. -/
theorem afterReadFault_leaves
    {next : Option (Pause Time)}
    {fault : Fault}
    {chronicle : Chronicle}
    {outcome : Except Fault Attempt}
    (leaves : (afterReadFault next fault).Leaves chronicle outcome) :
    chronicle = (readCharges (.error fault)).map .counted := by
  cases fault with
  | api response =>
      unfold afterReadFault at leaves
      unfold readCharges
      dsimp only at leaves ⊢
      by_cases gone : response.status.isNumber 404 = true
      · rw [if_pos gone] at leaves ⊢
        obtain ⟨_, rfl, ended⟩ := (Always.count _).bind_inv leaves
        obtain ⟨rfl, -⟩ := ended.done_inv
        rfl
      · rw [if_neg gone] at leaves ⊢
        obtain ⟨_, rfl, counted⟩ := (Always.count _).bind_inv leaves
        by_cases busy : Backoff.isRetryable (.api response) = true
        · rw [if_pos busy] at counted ⊢
          obtain ⟨backed, reached, last, rfl, backing, ended⟩ :=
            counted.followedBy_inv
          obtain ⟨paused, rfl, pausing⟩ := (Always.count _).bind_inv backing
          suffices silent : paused = [] ∧ last = [] by
            obtain ⟨rfl, rfl⟩ := silent
            rfl
          cases next with
          | none =>
              obtain ⟨rfl, rfl⟩ := Leaves.done_inv pausing
              exact ⟨rfl, (Leaves.done_inv ended).1⟩
          | some length =>
              obtain ⟨_, rfl, paused⟩ := (Always.pause length).bind_inv pausing
              obtain ⟨rfl, rfl⟩ := paused.done_inv
              exact ⟨rfl, (Leaves.done_inv ended).1⟩
        · rw [if_neg busy] at counted ⊢
          obtain ⟨rfl, -⟩ := counted.done_inv
          rfl
  | _ =>
      obtain ⟨rfl, -⟩ := leaves.done_inv
      rfl

/-- An attempt to read leaves one exchange with its receipt. -/
theorem attempt_leaves
    {address : Address}
    {next : Option (Pause Time)}
    {chronicle : Chronicle}
    {outcome : Except Fault Attempt}
    (leaves : (attempt operator address next).Leaves chronicle outcome) :
    Called operator .readPolicy (readCall operator address) chronicle := by
  obtain ⟨inner, timing, rfl⟩ := timed_leaves leaves
  obtain ⟨first, reached, second, rfl, before, after⟩ := timing.followedBy_inv
  rcases before.bind_inv with
    ⟨fault, called, rfl⟩ | ⟨asked, record, rest, rfl, called, read⟩
  · obtain rfl := afterReadFault_leaves after
    rcases Limiter.limited_leaves called with rfl | ⟨halted, rfl, same⟩
    · exact .inl ⟨.error fault, rfl⟩
    · cases same
      exact .inr ⟨halted, rfl⟩
  · rcases Limiter.limited_leaves called with rfl | ⟨_, _, same⟩
    · obtain ⟨parsed, rfl, parsing⟩ := (Always.count _).bind_inv read
      -- a record that does not fit is counted as a successful call, and as nothing
      -- else
      have unmarked : parsed = [] ∧ second = [] := by
        rcases parsing.bind_inv with
          ⟨fault, unfit, rfl⟩ | ⟨_, policy, _, rfl, fit, ended⟩
        · obtain ⟨rfl, same⟩ := unfit.done_inv
          obtain rfl := afterReadFault_leaves after
          cases Policy.ofRecord_failsUnfit record fault same.symm <;>
            exact ⟨rfl, rfl⟩
        · obtain ⟨rfl, -⟩ := fit.done_inv
          obtain ⟨rfl, rfl⟩ := ended.done_inv
          obtain ⟨rfl, -⟩ := after.done_inv
          exact ⟨rfl, rfl⟩
      obtain ⟨rfl, rfl⟩ := unmarked
      exact .inl ⟨.ok record, rfl⟩
    · cases same

omit [TimeScale Time] in
/-- What follows a failed replacement is the charge for it. -/
theorem afterWriteFault_leaves
    {policy : Policy}
    {fault : Fault}
    {chronicle : Chronicle}
    {outcome : Except Fault Json}
    (leaves :
      (afterWriteFault policy fault : Program Time Json).Leaves chronicle outcome) :
    chronicle = (writeCharges (.error fault)).map .counted := by
  cases fault with
  | api response =>
      unfold afterWriteFault at leaves
      unfold writeCharges
      dsimp only at leaves ⊢
      by_cases conflict : response.status.isNumber 409 = true
      · rw [if_pos conflict] at leaves ⊢
        obtain ⟨_, rfl, ended⟩ := (Always.count _).bind_inv leaves
        obtain ⟨rfl, -⟩ := ended.done_inv
        rfl
      · rw [if_neg conflict] at leaves ⊢
        obtain ⟨_, rfl, ended⟩ := (Always.count _).bind_inv leaves
        obtain ⟨rfl, -⟩ := ended.done_inv
        rfl
  | _ =>
      obtain ⟨rfl, -⟩ := leaves.done_inv
      rfl

/-- A replacement leaves one exchange with its receipt. -/
theorem update_leaves
    {policy : Policy}
    {chronicle : Chronicle}
    {outcome : Except Fault Json}
    (leaves : (update operator policy).Leaves chronicle outcome) :
    Called operator .updatePolicy (writeCall operator policy) chronicle := by
  obtain ⟨inner, timing, rfl⟩ := timed_leaves leaves
  obtain ⟨first, reached, second, rfl, before, after⟩ := timing.followedBy_inv
  rcases before.bind_inv with
    ⟨fault, called, rfl⟩ | ⟨asked, record, rest, rfl, called, stored⟩
  · obtain rfl := afterWriteFault_leaves after
    rcases Limiter.limited_leaves called with rfl | ⟨halted, rfl, same⟩
    · exact .inl ⟨.error fault, rfl⟩
    · cases same
      exact .inr ⟨halted, rfl⟩
  · rcases Limiter.limited_leaves called with rfl | ⟨_, _, same⟩
    · obtain ⟨last, rfl, ended⟩ := (Always.count _).bind_inv stored
      obtain ⟨rfl, rfl⟩ := ended.done_inv
      obtain ⟨rfl, -⟩ := after.done_inv
      exact .inl ⟨.ok record, rfl⟩
    · cases same

end PolicyStore

/-! ## All programs -/

/--
A law of receipts, of descriptions and of loose effects is a law of all programs
made of requests.  Where a rate is zero, it has to hold of the durations of calls
that are never made, too.
-/
theorem Composed.obeys
    {loose : Effect Time → Prop}
    {law : Chronicle → Prop}
    {program : Program Time Result}
    (additive : Additive law)
    (receipts :
      ∀ exchange : Exchange, law (.exchanged exchange :: exchange.receipt))
    (stalls :
      operator.Paced ∨ ∀ operation, law [.timed (.apiCallDuration operation)])
    (others :
      ∀ effect, effect.Describes ∨ loose effect → ∀ reply, law (effect.marks reply))
    (composed : program.OfRequests operator loose) :
    program.Obeys law := by
  have calls : ∀ {operation request chronicle},
      Called operator operation request chronicle → law chronicle := by
    rintro operation request chronicle (⟨answer, rfl⟩ | ⟨halted, rfl⟩)
    · exact receipts _
    · rcases stalls with paced | durations
      · rw [paced.turn operation.api] at halted
        cases halted
      · exact durations operation
  refine composed.holds_first (fun _ program => program.Obeys law) (.done additive)
    (fun allowed => .perform additive (others _ allowed)) (fun part => ?_)
    (.followedBy additive)
  cases part with
  | invoke named served =>
      exact fun _ _ leaves => calls (VpcLattice.invoke_leaves named served leaves)
  | attempt address next =>
      exact fun _ _ leaves => calls (PolicyStore.attempt_leaves leaves)
  | update policy =>
      exact fun _ _ leaves => calls (PolicyStore.update_leaves leaves)

/-- Whether an effect leaves no mark that tells of calls. -/
def Effect.Unbilled (effect : Effect Time) : Prop :=
  ∀ reply, ∀ mark ∈ effect.marks reply, mark.tellsOfCalls = false ∧
    mark.exchange? = none

omit [TimeScale Time] in
/-- Lines and attributes bill nothing. -/
theorem Effect.Describes.unbilled
    {effect : Effect Time}
    (describes : effect.Describes) :
    effect.Unbilled := by
  intro reply mark inside
  cases effect with
  | log record =>
      obtain rfl := List.mem_singleton.mp inside
      exact ⟨rfl, rfl⟩
  | readContext | enterCorrelation | leaveCorrelation | openSpan
  | annotateSpan | closeSpan =>
      cases inside
  | call | readClock | pause | lastCall | noteCall | count | observe | emit =>
      exact describes.elim

/-- All calls of a program that is made of requests are billed. -/
theorem Composed.billed
    {program : Program Time Result}
    (paced : operator.Paced)
    (composed : program.OfRequests operator Effect.Unbilled) :
    program.Obeys Billed := by
  refine composed.obeys billed_additive billed_receipt (.inl paced)
    fun effect allowed reply => ?_
  have silent := allowed.elim Effect.Describes.unbilled id reply
  have apart : Chronicle.exchanges (effect.marks reply) = [] :=
    List.filterMap_eq_nil_iff.mpr fun mark inside => (silent mark inside).2
  rw [Billed, apart, List.flatMap_nil, List.filter_eq_nil_iff]
  intro mark inside
  rw [(silent mark inside).1]
  simp

end PolicyReconciler

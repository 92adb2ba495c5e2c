import Mathlib.Algebra.Ring.Nat
import PolicyReconciler.Proofs.Accounting.Receipts

namespace PolicyReconciler

/-!
# Accounting for calls

However the services answer, as long as their errors are the documented ones, the
counters tell exactly what happened: each call is counted once, under its own
outcome, and timed once, and the refusals of the Lattice service are the throttled
calls.
-/

/-! ## Outcomes of calls -/

/-- Whether a fault is one that calls to a service are documented to fail with. -/
def Fault.RaisedBy (fault : Fault) : Api → Prop
  | .kubernetes => ∃ response, fault = .api response
  | .lattice => fault.isServiceFault = true

namespace Exchange

/-- The outcome that a call has to be counted under. -/
def outcome (exchange : Exchange) : CallOutcome :=
  match exchange.answer with
  | .ok _ => .success
  | .error fault =>
      match exchange.call.operation?, fault with
      | some .readPolicy, .api response =>
          if response.status.isNumber 404 then .notFound else .error
      | some .updatePolicy, .api response =>
          if response.status.isNumber 409 then .conflict else .error
      | _, _ => .error

/-- Whether a call to the Lattice service was refused for the rate of calls. -/
def throttled (exchange : Exchange) : Bool :=
  match exchange.call.operation?, exchange.answer with
  | some operation, .error fault =>
      operation.api = .lattice && fault.hasServiceCode "ThrottlingException"
  | _, _ => false

/-- Whether a call failed, if it did, in a documented way. -/
def Fits (exchange : Exchange) : Prop :=
  ∀ operation fault, exchange.call.operation? = some operation →
    exchange.answer = .error fault → fault.RaisedBy operation.api

end Exchange

/--
Whether a call is counted under its outcome, and besides only for having been
refused for its rate.
-/
structure Charged
    (operation : Operation)
    (exchange : Exchange)
    (refusals : List Counter) :
    Prop where
  charges : operation.charges exchange.answer =
    .apiCalls operation exchange.outcome :: refusals
  refused : ∀ counter ∈ refusals, ∃ api, counter = .rateLimitHits api
  throttled :
    refusals.count (.rateLimitHits .lattice) = if exchange.throttled then 1 else 0

/-- Every answer to a request of the service fits the rules of charging. -/
theorem exists_charged_of_lattice
    {operation : Operation}
    {exchange : Exchange}
    (carried : exchange.call.operation? = some operation)
    (served : operation.api = .lattice)
    (fits : exchange.Fits) :
    ∃ refusals, Charged operation exchange refusals := by
  have charging : operation.charges exchange.answer =
      VpcLattice.charges operation exchange.answer := by
    cases operation with
    | readPolicy | updatePolicy =>
        cases served
    | list | setAuthType | putAuthPolicy | deleteAuthPolicy =>
        rfl
  obtain ⟨call, answer⟩ := exchange
  cases answer with
  | ok result =>
      exact ⟨[], charging, by simp, by simp [Exchange.throttled]⟩
  | error fault =>
      have ours : fault.isServiceFault = true := by
        have raised := fits operation fault carried rfl
        rwa [served] at raised
      have ended : Exchange.outcome ⟨call, .error fault⟩ = .error := by
        cases operation with
        | readPolicy | updatePolicy =>
            cases served
        | list | setAuthType | putAuthPolicy | deleteAuthPolicy =>
            simp only [Exchange.outcome, carried]
      have refusal : Exchange.throttled ⟨call, .error fault⟩ =
          fault.hasServiceCode "ThrottlingException" := by
        simp only [Exchange.throttled, carried, served, decide_true, Bool.true_and]
      cases throttled : fault.hasServiceCode "ThrottlingException" with
      | true =>
          refine ⟨[.rateLimitHits .lattice],
            ?_, by simp, by rw [refusal, throttled]; rfl⟩
          rw [charging, ended, VpcLattice.charges, if_pos ours, if_pos throttled]
      | false =>
          refine ⟨[], ?_, by simp, by rw [refusal, throttled]; rfl⟩
          rw [charging, ended, VpcLattice.charges, if_pos ours,
            if_neg (by simp [throttled])]

/-- Every answer to a request of the cluster fits the rules of charging. -/
theorem exists_charged_of_kubernetes
    {operation : Operation}
    {exchange : Exchange}
    (carried : exchange.call.operation? = some operation)
    (served : operation.api = .kubernetes)
    (fits : exchange.Fits) :
    ∃ refusals, Charged operation exchange refusals := by
  have unthrottled : ∀ refusals : List Counter,
      refusals.count (.rateLimitHits .lattice) = 0 →
      refusals.count (.rateLimitHits .lattice) =
        if exchange.throttled then 1 else 0 := by
    intro refusals none
    rw [none, Exchange.throttled, carried]
    split
    · rename_i same _
      cases same
      simp_all
    · rfl
  obtain ⟨call, answer⟩ := exchange
  cases answer with
  | ok result =>
      refine ⟨[], ?_, by simp, unthrottled _ rfl⟩
      cases operation with
      | readPolicy | updatePolicy =>
          rfl
      | list | setAuthType | putAuthPolicy | deleteAuthPolicy =>
          cases served
  | error fault =>
      have raised := fits operation fault carried rfl
      rw [served] at raised
      obtain ⟨response, rfl⟩ := raised
      cases operation with
      | readPolicy =>
          by_cases gone : response.status.isNumber 404 = true
          · refine ⟨[], ?_, by simp, unthrottled _ rfl⟩
            simp only [Operation.charges, PolicyStore.readCharges,
              Exchange.outcome, carried, if_pos gone]
          by_cases busy : Backoff.isRetryable (.api response) = true
          · refine ⟨[.rateLimitHits .kubernetes], ?_, by simp, unthrottled _ rfl⟩
            simp only [Operation.charges, PolicyStore.readCharges,
              Exchange.outcome, carried, if_neg gone, if_pos busy]
          · refine ⟨[], ?_, by simp, unthrottled _ rfl⟩
            simp only [Operation.charges, PolicyStore.readCharges,
              Exchange.outcome, carried, if_neg gone, if_neg busy]
      | updatePolicy =>
          refine ⟨[], ?_, by simp, unthrottled _ rfl⟩
          simp only [Operation.charges, PolicyStore.writeCharges,
            Exchange.outcome, carried]
          split_ifs <;> rfl
      | list | setAuthType | putAuthPolicy | deleteAuthPolicy =>
          cases served

/-- Every exchange of an operation is charged by the rules. -/
theorem Exchange.Fits.exists_charged
    {operation : Operation}
    {exchange : Exchange}
    (fits : exchange.Fits)
    (carried : exchange.call.operation? = some operation) :
    ∃ refusals, Charged operation exchange refusals := by
  cases served : operation.api with
  | kubernetes =>
      exact exists_charged_of_kubernetes carried served fits
  | lattice =>
      exact exists_charged_of_lattice carried served fits

/-! ## Tallies -/

/--
What is counted at most once in each part is counted once for each part that has it.
-/
theorem countP_flatMap_of_single
    {Part Item : Type}
    {parts : List Part}
    {items : Part → List Item}
    {picks : Item → Bool}
    {has : Part → Bool}
    (single :
      ∀ part ∈ parts, (items part).countP picks = if has part then 1 else 0) :
    (parts.flatMap items).countP picks = parts.countP has := by
  induction parts with
  | nil =>
      rfl
  | cons part rest inductionHypothesis =>
      obtain ⟨first, others⟩ := List.forall_mem_cons.mp single
      rw [List.flatMap_cons, List.countP_append, first, inductionHypothesis others,
        List.countP_cons, Nat.add_comm]

/-- A tally of marks that tell of calls is a tally of the receipts. -/
theorem Billed.countP_eq
    {chronicle : Chronicle}
    {picks : Mark → Bool}
    {has : Exchange → Bool}
    (billed : Billed chronicle)
    (tells : ∀ mark, picks mark = true → mark.tellsOfCalls = true)
    (single : ∀ exchange ∈ Chronicle.exchanges chronicle,
      (Mark.exchanged exchange :: exchange.receipt).countP picks =
        if has exchange then 1 else 0) :
    chronicle.countP picks = (Chronicle.exchanges chronicle).countP has := by
  have filtered : (chronicle.filter Mark.tellsOfCalls).countP picks =
      chronicle.countP picks := by
    rw [List.countP_filter]
    apply List.countP_congr
    intro mark _
    simp only [Bool.and_eq_true]
    exact ⟨And.left, fun picked => ⟨picked, tells mark picked⟩⟩
  rw [← filtered, billed]
  exact countP_flatMap_of_single single

namespace Exchange

/-- An exchange counts a counter as often as its charges list it. -/
theorem countP_counter_receipt (exchange : Exchange) (counter : Counter) :
    (Mark.exchanged exchange :: exchange.receipt).countP
      (·.counter? == some counter) =
      exchange.charges.count counter := by
  simp [receipt, List.count, List.countP_map, Function.comp_def, Mark.counter?]

/-- An exchange is timed as often as its durations list it. -/
theorem countP_histogram_receipt (exchange : Exchange) (histogram : Histogram) :
    (Mark.exchanged exchange :: exchange.receipt).countP
      (·.histogram? == some histogram) =
      exchange.durations.count histogram := by
  simp [receipt, List.count, List.countP_map, Function.comp_def, Mark.histogram?]

/-- An exchange is counted once, for its own operation and outcome. -/
theorem count_apiCalls_charges
    {exchange : Exchange}
    (fits : exchange.Fits)
    (operation : Operation)
    (outcome : CallOutcome) :
    exchange.charges.count (.apiCalls operation outcome) =
      if exchange.call.operation? = some operation ∧ exchange.outcome = outcome
        then 1 else 0 := by
  unfold charges
  cases carried : exchange.call.operation? with
  | none =>
      simp
  | some carriedOut =>
      obtain ⟨refusals, charged⟩ := fits.exists_charged carried
      have others : refusals.count (.apiCalls operation outcome) = 0 := by
        rw [List.count_eq_zero]
        intro inside
        obtain ⟨api, same⟩ := charged.refused _ inside
        cases same
      dsimp only
      rw [charged.charges, List.count_cons, others, Nat.zero_add]
      simp

/-- An exchange is counted as throttled exactly if it was refused for its pace. -/
theorem count_rateLimitHits_charges
    {exchange : Exchange}
    (fits : exchange.Fits) :
    exchange.charges.count (.rateLimitHits .lattice) =
      if exchange.throttled then 1 else 0 := by
  unfold charges
  cases carried : exchange.call.operation? with
  | none =>
      simp [throttled, carried]
  | some carriedOut =>
      obtain ⟨refusals, charged⟩ := fits.exists_charged carried
      dsimp only
      rw [charged.charges, List.count_cons, charged.throttled]
      rfl

/-- An exchange is timed once, for its own operation. -/
theorem count_durations (exchange : Exchange) (operation : Operation) :
    exchange.durations.count (.apiCallDuration operation) =
      if exchange.call.operation? = some operation then 1 else 0 := by
  unfold durations
  cases exchange.call.operation? with
  | none =>
      simp
  | some carriedOut =>
      simp [List.count_singleton]

end Exchange

/-- The outcomes that calls are counted under. -/
def CallOutcome.all : List CallOutcome :=
  [success, error, notFound, conflict]

namespace Billed

variable {chronicle : Chronicle}

/-- A counter of calls stands at the number of the exchanges that count it. -/
theorem count_counter
    {counter : Counter}
    {has : Exchange → Bool}
    (billed : Billed chronicle)
    (tells : counter.tellsOfCalls = true)
    (single : ∀ exchange ∈ Chronicle.exchanges chronicle,
      exchange.charges.count counter = if has exchange then 1 else 0) :
    (Chronicle.counters chronicle).count counter =
      (Chronicle.exchanges chronicle).countP has := by
  rw [Chronicle.counters, List.count_filterMap]
  apply billed.countP_eq
  · intro mark picked
    cases mark with
    | counted other =>
        simp only [Mark.counter?, beq_iff_eq, Option.some.injEq] at picked
        rw [picked]
        exact tells
    | exchanged | timed | logged | emitted =>
        simp [Mark.counter?] at picked
  · intro exchange inside
    rw [exchange.countP_counter_receipt]
    exact single exchange inside

/-- Each call is counted once, under its operation and its own outcome. -/
theorem count_apiCalls
    (billed : Billed chronicle)
    (fits : ∀ exchange ∈ Chronicle.exchanges chronicle, exchange.Fits)
    (operation : Operation)
    (outcome : CallOutcome) :
    (Chronicle.counters chronicle).count (.apiCalls operation outcome) =
      (Chronicle.exchanges chronicle).countP fun exchange =>
        exchange.call.operation? = some operation ∧ exchange.outcome = outcome := by
  apply billed.count_counter rfl
  intro exchange inside
  rw [Exchange.count_apiCalls_charges (fits exchange inside)]
  simp

/-- The hits of the rate limit number the throttled exchanges. -/
theorem count_rateLimitHits
    (billed : Billed chronicle)
    (fits : ∀ exchange ∈ Chronicle.exchanges chronicle, exchange.Fits) :
    (Chronicle.counters chronicle).count (.rateLimitHits .lattice) =
      (Chronicle.exchanges chronicle).countP Exchange.throttled := by
  apply billed.count_counter rfl
  intro exchange inside
  exact Exchange.count_rateLimitHits_charges (fits exchange inside)

/-- The timings of an operation number its exchanges. -/
theorem count_timings
    (billed : Billed chronicle)
    (operation : Operation) :
    (Chronicle.timings chronicle).count (.apiCallDuration operation) =
      (Chronicle.exchanges chronicle).countP fun exchange =>
        exchange.call.operation? = some operation := by
  rw [Chronicle.timings, List.count_filterMap]
  apply billed.countP_eq
  · intro mark picked
    cases mark with
    | timed other =>
        simp only [Mark.histogram?, beq_iff_eq, Option.some.injEq] at picked
        rw [picked]
        rfl
    | exchanged | counted | logged | emitted =>
        simp [Mark.histogram?] at picked
  · intro exchange _
    rw [exchange.countP_histogram_receipt, exchange.count_durations]
    simp

/-- The calls of an operation are the sum of its outcomes. -/
theorem sum_apiCalls
    (billed : Billed chronicle)
    (fits : ∀ exchange ∈ Chronicle.exchanges chronicle, exchange.Fits)
    (operation : Operation) :
    (CallOutcome.all.map fun outcome =>
        (Chronicle.counters chronicle).count (.apiCalls operation outcome)).sum =
      (Chronicle.exchanges chronicle).countP fun exchange =>
        exchange.call.operation? = some operation := by
  simp only [billed.count_apiCalls fits, Bool.decide_and]
  induction Chronicle.exchanges chronicle with
  | nil =>
      rfl
  | cons exchange rest inductionHypothesis =>
      simp only [CallOutcome.all, List.map_cons, List.map_nil,
        List.sum_cons, List.sum_nil, List.countP_cons] at inductionHypothesis ⊢
      by_cases carried : exchange.call.operation? = some operation
      · cases ended : exchange.outcome <;>
          simp only [carried, decide_true, decide_false,
            Bool.and_self, Bool.and_false, Bool.false_eq_true, if_true, if_false,
            reduceCtorEq] <;> omega
      · simp only [carried, decide_false, Bool.false_and,
          Bool.false_eq_true, if_false]
        omega

end Billed

end PolicyReconciler

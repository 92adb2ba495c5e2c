import PolicyReconciler.Proofs.Composition.Walk

namespace PolicyReconciler

/-!
# The calls that programs are made of

Where it matters what is noted about a call, programs are made of whole requests
with their counters and durations.  Where only the calls matter, requests are taken
apart further: into calls that wait for their turns, and these into the calls
themselves.  All accounts of calls are then loose effects in between.
-/

open Program

variable {Time : Type} [TimeScale Time]
variable {operator : Operator Time}

/-! ## Calls in turn -/

/-- The service that a call is made to, if it is one that is called in turn. -/
def Call.api? (call : Call) : Option Api :=
  match call.method with
  | .operation operation => some operation.api
  | _ => none

/-- The calls that wait for their turns at the limiters of their services. -/
inductive LimitedCall (rates : Rates Time) : Parts Time where
  | limited {request : Call} {api : Api}
      (served : request.api? = some api) :
      LimitedCall rates Json (Limiter.limited (rates.of api) api (call request))

/-- A request of the cluster that waits for its turn is a limited call. -/
theorem LimitedCall.kubernetes
    {rates : Rates Time}
    {request : Call}
    (served : request.api? = some .kubernetes) :
    LimitedCall rates Json
      (Limiter.limited rates.kubernetes .kubernetes (call request)) :=
  .limited served

/--
Whether an effect only keeps accounts: clocks, pauses, counters, durations and
events.
-/
def Effect.Accounts : Effect Time → Prop
  | .readClock | .pause _ | .count _ | .observe .. | .emit _ => True
  | _ => False

/-- Whether an effect keeps accounts, or the times at which calls last started. -/
def Effect.KeepsTurns : Effect Time → Prop
  | .readClock | .pause _ | .lastCall _ | .noteCall ..
  | .count _ | .observe .. | .emit _ => True
  | _ => False

/-- The calls themselves. -/
inductive BareCall : Parts Time where
  | call (request : Call) :
      BareCall Json (Program.call request)

namespace Composed

variable {order : Redaction.FieldOrder}
variable {parts : Parts Time}
variable {Result : Type}
variable {first second : Program Time Result}

/-- The duration of a program is observed however it ends. -/
theorem timed
    (operation : Operation)
    (inner : Composed order parts Effect.Accounts first second) :
    Composed order parts Effect.Accounts (PolicyStore.timed operation first)
      (PolicyStore.timed operation second) :=
  .bind (.readClock trivial) fun _ => inner.ensuring <|
    .bind (.readClock trivial) fun _ => .observe trivial

/--
A call is counted by how it ended, and a refusal for the rate of calls is noted.
-/
theorem measured
    (operation : Operation)
    (inner : Composed order parts Effect.Accounts first second) :
    Composed order parts Effect.Accounts (VpcLattice.measured operation first)
      (VpcLattice.measured operation second) := by
  refine .timed operation (.followedBy inner fun outcome outcome' alike => ?_)
  cases alike with
  | ok result =>
      exact .bind (.count trivial) fun _ => .ended _
  | error alike =>
      dsimp only
      rw [alike.isServiceFault_eq, alike.hasServiceCode_eq]
      split
      · refine .bind (.count trivial) fun _ => ?_
        split
        · exact .bind (.count trivial) fun _ => .fail alike
        · exact .fail alike
      · exact .fail alike

omit [TimeScale Time] in
/-- The pause before a further attempt. -/
theorem backOff (next : Option (Pause Time)) :
    Composed order parts Effect.Accounts (Backoff.backOff next)
      (Backoff.backOff next) := by
  refine .bind (.count trivial) fun _ => ?_
  cases next with
  | some length =>
      exact .bind (.single (.inr trivial) fun _ => ⟨_, rfl⟩) fun _ => .ended _
  | none =>
      exact .ended _

omit [TimeScale Time] in
/-- After a fault of a read, responses of one status are treated alike. -/
theorem afterReadFault (next : Option (Pause Time)) :
    ∀ fault fault' : Fault, fault.Alike order fault' →
      Composed order parts Effect.Accounts (PolicyStore.afterReadFault next fault)
        (PolicyStore.afterReadFault next fault') := by
  refine Fault.Alike.handled (Composed order parts Effect.Accounts)
    (PolicyStore.afterReadFault next) Program.fail ?service ?api
      ?temporary ?missing ?plain
    fun _ _ => .fail
  case service =>
    exact fun _ _ alike => .fail alike
  case api =>
    intro response response' alike
    obtain ⟨status, retryable⟩ := alike.api_inv
    simp only [PolicyStore.afterReadFault, status, retryable]
    split
    · exact .bind (.count trivial) fun _ => .ended _
    · refine .bind (.count trivial) fun _ => ?_
      split
      · refine .bind (.backOff next) fun again => ?_
        cases again with
        | true =>
            exact .ended _
        | false =>
            exact .fail alike
      · exact .fail alike
  case temporary | missing =>
    exact fun _ _ => .ended _
  case plain =>
    intro other plain
    cases other <;> first | rfl | exact plain.elim

omit [TimeScale Time] in
/--
After a fault of a write, a conflict keeps its response, but does not tell it.
-/
theorem afterWriteFault (policy : Policy) :
    ∀ fault fault' : Fault, fault.Alike order fault' →
      Composed order parts Effect.Accounts
        (PolicyStore.afterWriteFault policy fault : Program Time Result)
        (PolicyStore.afterWriteFault policy fault') := by
  refine Fault.Alike.handled (Composed order parts Effect.Accounts)
    (PolicyStore.afterWriteFault policy) Program.fail ?service ?api
      ?temporary ?missing ?plain
    fun _ _ => .fail
  case service =>
    exact fun _ _ alike => .fail alike
  case api =>
    intro response response' alike
    obtain ⟨status, _⟩ := alike.api_inv
    simp only [PolicyStore.afterWriteFault, status]
    split
    · exact .bind (.count trivial) fun _ =>
        .fail (.plain trivial trivial rfl rfl rfl)
    · exact .bind (.count trivial) fun _ => .fail alike
  case temporary | missing =>
    exact fun _ _ => .ended _
  case plain =>
    intro other plain
    cases other <;> first | rfl | exact plain.elim

variable {program : Program Time Result}

/-- Requests are made of calls in turn and of accounts of them. -/
theorem ofTurns
    (composed : program.OfRequests operator Effect.Accounts) :
    program.MadeOf operator (LimitedCall operator.rates) Effect.Accounts := by
  refine composed.refined (fun part => ?_) fun _ => id
  cases part with
  | @invoke operation request named served =>
      have inTurn : request.api? = some .lattice := by
        simp only [Call.api?, named, served]
      exact .measured operation (.part (.limited inTurn))
  | attempt address next =>
      exact .timed _ <| .recover
        (.bind (.part (.kubernetes rfl)) fun _ => .bind (.count trivial) fun _ =>
          .bind (.ended _) fun _ => .ended _)
        (.afterReadFault next)
  | update policy =>
      exact .timed _ <| .recover
        (.bind (.part (.kubernetes rfl)) fun _ => .bind (.count trivial) fun _ =>
          .ended _)
        (.afterWriteFault policy)

/-- A turn keeps accounts, and asks its limiter. -/
theorem awaitTurn
    {order : Redaction.FieldOrder}
    {parts : Parts Time}
    (rate : Time)
    (api : Api) :
    Composed order parts Effect.KeepsTurns (Limiter.awaitTurn rate api)
      (Limiter.awaitTurn rate api) := by
  refine .bind (.readClock trivial) fun now => ?_
  split
  · exact .ended _
  · refine .bind (.single (.inr trivial) fun _ => ⟨_, rfl⟩) fun last => ?_
    have noting : Composed order parts Effect.KeepsTurns
        (Program.readClock >>= fun start =>
          Program.perform (.noteCall api start) finish)
        (Program.readClock >>= fun start =>
          Program.perform (.noteCall api start) finish) :=
      .bind (.readClock trivial) fun start => .single (.inr trivial) fun _ =>
        ⟨_, rfl⟩
    cases Limiter.waitFor? (TimeScale.interval rate) last now with
    | some length =>
        exact .bind (.single (.inr trivial) fun _ => ⟨_, rfl⟩) fun _ => noting
    | none =>
        exact .bind (.ended _) fun _ => noting

/--
Calls in turn are made of calls, of accounts of them and of questions to the
limiters.
-/
theorem ofBareCalls
    (composed :
      program.MadeOf operator (LimitedCall operator.rates) Effect.Accounts) :
    program.MadeOf operator BareCall Effect.KeepsTurns := by
  refine composed.refined (fun part => ?_) fun effect accounts => ?_
  · cases part with
    | limited =>
        exact .bind (.awaitTurn _ _) fun _ => .part (.call _)
  · cases effect <;> trivial

/-- Every reconcile is made of calls in turn and of accounts of them. -/
theorem reconcile_ofTurns (operator : Operator Time) (address : Address) :
    (Reconcile.reconcile operator address).MadeOf operator
      (LimitedCall operator.rates)
      Effect.Accounts :=
  ofTurns (.reconcile (fun _ _ => trivial) (fun _ => trivial)
    (fun _ => trivial) address)

/-- Every run is made of calls in turn and of accounts of them. -/
theorem runReconcile_ofTurns
    (operator : Operator Time)
    (correlation record : Json)
    (address : Address) :
    (Reconcile.runReconcile operator correlation record address).MadeOf operator
      (LimitedCall operator.rates) Effect.Accounts :=
  ofTurns (.runReconcile (fun _ _ => trivial) (fun _ => trivial)
    (fun _ => trivial) trivial
    (fun _ _ => trivial) (fun _ _ => trivial) (fun _ _ => trivial)
      correlation record address)

end Composed

end PolicyReconciler

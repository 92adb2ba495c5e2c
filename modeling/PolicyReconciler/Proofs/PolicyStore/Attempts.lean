import Mathlib.Tactic.IntervalCases
import PolicyReconciler.Proofs.PolicyStore
import PolicyReconciler.Proofs.Program.Spending

namespace PolicyReconciler

/-!
# Attempts to read a record

On a supply of answers a read makes one attempt after the other, as long as the
answers ask for the call to be made again later and there is a pause left to take.
So the answers fix how many attempts there are and what stands between them, and the
last answer alone fixes the outcome.
-/

open Program

/-! ## Answers to a read -/

/-- A response has one status. -/
theorem Json.isNumber_unique
    {value : Json}
    {first second : Int}
    (isFirst : value.isNumber first = true)
    (isSecond : value.isNumber second = true) :
    first = second := by
  have placed : ∀ {number}, value.isNumber number = true →
      value.place? = some (.ofInt number) := by
    intro number same
    cases value with
    | int whole =>
        obtain rfl := of_decide_eq_true same
        rfl
    | bool flag =>
        exact congrArg some (eq_of_beq same)
    | float fraction =>
        simp only [isNumber, scalarAlike, place?] at same ⊢
        generalize Decimal.Place.ofFloat? fraction = place at same ⊢
        cases place with
        | none =>
            cases same
        | some place =>
            exact congrArg some (eq_of_beq same)
    | null | str | arr | obj =>
        cases same
  have same :
      some (Decimal.Place.ofInt first) = some (Decimal.Place.ofInt second) :=
    (placed isFirst).symm.trans (placed isSecond)
  exact Decimal.Place.ofInt_injective (Option.some.inj same)

/-- Whole numbers are ordered as such. -/
theorem Json.before?_int (left right : Int) :
    (Json.int left).before? (.int right) = some (decide (left < right)) := by
  rw [before?, place?, place?]
  exact congrArg some (Decimal.Place.before_ofInt left right)
  all_goals simp

/-! ## The decision on another attempt -/

/--
The pauses of a read are those after which it is decided to make another attempt.
-/
theorem Backoff.nextPause_eq_readPauses
    {attempt : Nat}
    (within : attempt ≤ defaultRetries.toNat) :
    nextPause (.int attempt) (.int defaultRetries) =
      .ok PolicyStore.readPauses[attempt]? := by
  have few : attempt ≤ 3 := within
  rw [nextPause, Json.before?_int]
  interval_cases attempt <;> rfl

/--
A read decides on another attempt as is decided for any call with so many retries.
-/
theorem Backoff.shouldRetry_eq_backOff
    (fault : Fault)
    {attempt : Nat}
    (within : attempt ≤ defaultRetries.toNat) :
    shouldRetry fault (.int attempt) (.int defaultRetries) =
      if isRetryable fault then
        backOff PolicyStore.readPauses[attempt]?
      else
        finish false := by
  rw [shouldRetry, nextPause_eq_readPauses within]

/--
What a read does after a response, with the decision on another attempt spelled out.
-/
theorem PolicyStore.afterReadFault_eq_shouldRetry
    (response : ApiResponse)
    {attempt : Nat}
    (within : attempt ≤ Backoff.defaultRetries.toNat) :
    (afterReadFault readPauses[attempt]? (.api response) : Program Float Attempt) =
      if response.status.isNumber 404 then
        count (.apiCalls .readPolicy .notFound) >>= fun _ => finish .missing
      else
        count (.apiCalls .readPolicy .error) >>= fun _ =>
          Backoff.shouldRetry (.api response) (.int attempt)
            (.int Backoff.defaultRetries)
            >>= fun again =>
              if again then finish .again else fail (.api response) := by
  rw [Backoff.shouldRetry_eq_backOff _ within]
  unfold afterReadFault
  by_cases busy : Backoff.isRetryable (.api response) = true
  · simp only [busy, if_true]
  · simp only [busy]
    rfl

namespace PolicyStore

/-! ## What answers ask for -/

variable {Time : Type}

/--
Whether an answer asks for the call to be made again later: a response with status
429, or with status 503 and a text that speaks of a rate limit, in whatever case.
-/
def deferred : Except Fault Json → Bool
  | .error (.api response) =>
      response.status.isNumber 429 ||
        (response.status.isNumber 503 &&
          Text.occursIn "rate limit".toList (Text.lower response.text.toList))
  | _ => false

/-- What a read makes of an answer that it does not follow by another attempt. -/
def readVerdict : Except Fault Json → Except Fault (Option Policy)
  | .ok record => (Policy.ofRecord record).map some
  | .error (.api response) =>
      if response.status.isNumber 404 then .ok none else .error (.api response)
  | .error fault => .error fault

/-- What a read that was answered comes to. -/
def Attempt.settled : Option Policy → Attempt
  | some policy => .found policy
  | none => .missing

/-- How an attempt ends on an answer, where another one may follow after a pause. -/
def attempted
    (next : Option Nat)
    (answer : Except Fault Json) :
    Except Fault Attempt :=
  if deferred answer && next.isSome then
    .ok .again
  else
    (readVerdict answer).map Attempt.settled

/--
What an attempt does about an answer, before the next attempt if there is one.
-/
def delay (next : Option Nat) (answer : Except Fault Json) : List (Effect Time) :=
  if deferred answer then
    .count (.rateLimitHits .kubernetes) :: next.toList.map fun seconds =>
      .pause (.seconds seconds)
  else
    []

/-- A final answer asks for no pause. -/
theorem delay_of_final
    {answer : Except Fault Json}
    (final : deferred answer = false)
    (next : Option Nat) :
    (delay next answer : List (Effect Time)) = [] := by
  rw [delay, final]
  rfl

/-- A final answer settles the attempt. -/
theorem attempted_of_final
    {answer : Except Fault Json}
    (final : deferred answer = false)
    (next : Option Nat) :
    attempted next answer = (readVerdict answer).map Attempt.settled := by
  rw [attempted, final]
  rfl

/-- An answer that a record does not exist does not ask for another attempt. -/
theorem isRetryable_of_missing
    {response : ApiResponse}
    (gone : response.status.isNumber 404 = true) :
    Backoff.isRetryable (.api response) = false := by
  have other :
      ∀ status, status ≠ 404 → response.status.isNumber status = false := by
    intro status different
    by_contra isStatus
    exact different (Json.isNumber_unique (eq_true_of_ne_false isStatus) gone)
  rw [Backoff.isRetryable, other 429 (by decide), other 503 (by decide)]
  rfl

end PolicyStore

/-! ## Parts of a read -/

variable {Time Result : Type} [TimeScale Time]

/-- A call of a service that is given a rate waits at most once. -/
theorem Limiter.awaitTurn_spends
    {rate : Time}
    (paced : TimeScale.isZero rate = false)
    (api : Api)
    (supply : Supply) :
    (Limiter.awaitTurn rate api).Spends supply [] 1 supply (.ok ()) := by
  unfold awaitTurn
  rw [paced]
  have noting :
      (readClock >>= fun start : Time =>
        perform (.noteCall api start) finish).Spends supply
        [] 0 supply (.ok ()) :=
    Spends.unnoticed trivial rfl rfl fun start =>
      Spends.unnoticed trivial rfl rfl fun _ => Spends.done supply _
  refine Spends.unnoticed trivial rfl rfl fun now => ?_
  refine Spends.unnoticed trivial rfl rfl fun last => ?_
  dsimp only [finish, Program.followedBy]
  cases waitFor? (TimeScale.interval rate) last now with
  | some length =>
      exact Spends.waiting noting
  | none =>
      exact Spends.mono noting (Nat.zero_le 1)

/-- A call that is given a rate waits at most once, and takes the next answer. -/
theorem Limiter.limited_spends
    {rate : Time}
    (paced : TimeScale.isZero rate = false)
    (api : Api)
    (request : Call)
    (supply : Supply) :
    (Limiter.limited rate api (Program.call request)).Spends supply
      [.call request] 1
      supply.tail supply.head := by
  have whole : (Limiter.limited rate api (Program.call request)).Spends supply
      ([] ++ [.call request]) (1 + 0) supply.tail supply.head :=
    Spends.bind (awaitTurn_spends paced api supply) (Spends.call request supply)
  exact whole

namespace PolicyStore

/-- Timing a program spends nothing. -/
theorem timed_spends
    {operation : Operation}
    {program : Program Time Result}
    {supply left : Supply}
    {told : List (Effect Time)}
    {waits : Nat}
    {outcome : Except Fault Result}
    (inner : program.Spends supply told waits left outcome) :
    (timed operation program).Spends supply told waits left outcome := by
  refine Spends.unnoticed trivial rfl rfl fun start => inner.ensuring ?_
  exact Spends.unnoticed trivial rfl rfl fun stop =>
    Spends.unnoticed trivial rfl rfl fun _ => Spends.done left _

omit [TimeScale Time] in
/-- What follows a failed read spends the pause it asks for. -/
theorem afterReadFault_spends
    (next : Option Nat)
    (fault : Fault)
    (supply : Supply) :
    (afterReadFault (next.map .seconds) fault : Program Time Attempt).Spends supply
      (delay next (.error fault)) 0 supply (attempted next (.error fault)) := by
  cases fault with
  | api response =>
      unfold afterReadFault
      dsimp only
      by_cases gone : response.status.isNumber 404 = true
      · have final : deferred (.error (.api response)) = false :=
          isRetryable_of_missing gone
        rw [if_pos gone, delay_of_final final, attempted_of_final final,
          readVerdict, if_pos gone]
        exact Spends.unnoticed trivial rfl rfl fun _ => Spends.done supply _
      · rw [if_neg gone]
        refine Spends.unnoticed trivial rfl rfl fun _ => ?_
        by_cases busy : Backoff.isRetryable (.api response) = true
        · have asks : deferred (.error (.api response)) = true := busy
          rw [delay, attempted, asks]
          change (if _ then _ else _ : Program Time Attempt).Spends _ _ _ _ _
          rw [if_pos busy]
          cases next with
          | none =>
              rw [readVerdict, if_neg gone]
              exact Spends.telling trivial rfl rfl fun _ => Spends.done supply _
          | some seconds =>
              exact Spends.telling trivial rfl rfl fun _ =>
                Spends.telling trivial rfl rfl fun _ => Spends.done supply _
        · have final : deferred (.error (.api response)) = false :=
            eq_false_of_ne_true busy
          rw [delay_of_final final, attempted_of_final final,
            readVerdict, if_neg gone]
          change (if _ then _ else _ : Program Time Attempt).Spends _ _ _ _ _
          rw [if_neg busy]
          exact Spends.done supply _
  | _ =>
      exact Spends.done supply _

/--
A record that was read is counted, and the policy in it is found unless it does not
fit.
-/
theorem read_spends
    {operator : Operator Time}
    (paced : TimeScale.isZero operator.rates.kubernetes = false)
    (address : Address)
    (supply : Supply) :
    (do
      let record ← Limiter.limited operator.rates.kubernetes .kubernetes
        (Program.call (readCall operator address))
      count (.apiCalls .readPolicy .success)
      let policy ← Program.ofExcept (Policy.ofRecord record)
      finish (.found policy) : Program Time Attempt).Spends supply
        [.call (readCall operator address)] 1 supply.tail
        (supply.head.bind fun record =>
          (Policy.ofRecord record).map Attempt.found) := by
  have called :=
    Limiter.limited_spends paced .kubernetes (readCall operator address) supply
  generalize supply.head = answer at called ⊢
  cases answer with
  | error fault =>
      exact called.bind_error
  | ok record =>
      refine called.bind_quiet (Spends.unnoticed trivial rfl rfl fun _ => ?_)
      change (Program.ofExcept (Policy.ofRecord record) >>= _).Spends _ _ _ _
        ((Policy.ofRecord record).map Attempt.found)
      cases Policy.ofRecord record <;> exact Spends.done supply.tail _

/-- One attempt waits at most once, and takes the next answer. -/
theorem attempt_spends
    {operator : Operator Time}
    (paced : TimeScale.isZero operator.rates.kubernetes = false)
    (address : Address)
    (next : Option Nat)
    (supply : Supply) :
    (attempt operator address (next.map .seconds)).Spends supply
      (.call (readCall operator address) :: delay next supply.head) 1 supply.tail
      (attempted next supply.head) := by
  apply timed_spends
  have read := read_spends paced address supply
  generalize supply.head = answer at read ⊢
  cases answer with
  | error fault =>
      exact read.recover_error (afterReadFault_spends next fault supply.tail)
  | ok record =>
      rw [delay_of_final rfl, attempted_of_final rfl, readVerdict]
      have unfit := Policy.ofRecord_failsUnfit record
      change Program.Spends _ _ _ _ _ ((Policy.ofRecord record).map Attempt.found)
        at read
      generalize Policy.ofRecord record = parsed at unfit read ⊢
      cases parsed with
      | ok policy =>
          exact read.recover_ok
      | error fault =>
          -- a record that does not fit fails the read, since its fault is no
          -- response
          apply read.recover_error_quiet
          cases unfit fault rfl <;> exact Spends.done supply.tail _

/-! ## Whole reads -/

/--
How many of the first answers ask for another attempt, before the first that does
not.
-/
def leading : Nat → Supply → Nat
  | 0, _ => 0
  | bound + 1, supply =>
      if deferred supply.head then leading bound supply.tail + 1 else 0

/--
The effects of a read that tell of attempts, with the pauses that it may take.
-/
def readEffects (request : Call) : List Nat → Supply → List (Effect Time)
  | [], supply => .call request :: delay none supply.head
  | seconds :: rest, supply =>
      .call request :: delay (some seconds) supply.head ++
        if deferred supply.head then readEffects request rest supply.tail else []

omit [TimeScale Time] in
/-- An attempt that settles a read ends it. -/
theorem settled_spends
    {program : Program Time Attempt}
    {onward : Attempt → Program Time (Option Policy)}
    {supply left : Supply}
    {told : List (Effect Time)}
    {waits : Nat}
    {outcome : Except Fault (Option Policy)}
    (first : program.Spends supply told waits left (outcome.map Attempt.settled))
    (ended : ∀ found, onward (Attempt.settled found) = finish found) :
    (program >>= onward).Spends supply told waits left outcome := by
  cases outcome with
  | error fault =>
      exact first.bind_error
  | ok found =>
      apply first.bind_quiet
      rw [ended found]
      exact Spends.done left (.ok found)

/--
A read takes as many answers as its attempts, and ends as the last of them calls
for.
-/
theorem getWith_spends
    {operator : Operator Time}
    (paced : TimeScale.isZero operator.rates.kubernetes = false)
    (address : Address)
    (pauses : List Nat)
    (supply : Supply) :
    (getWith operator address (pauses.map .seconds)).Spends supply
      (readEffects (readCall operator address) pauses supply)
      (leading pauses.length supply + 1)
      (supply.drop (leading pauses.length supply + 1))
      (readVerdict (supply.get (leading pauses.length supply))) := by
  induction pauses generalizing supply with
  | nil =>
      have last := attempt_spends paced address none supply
      rw [attempted, Option.isSome_none, Bool.and_false] at last
      refine settled_spends last fun found => ?_
      cases found <;> rfl
  | cons seconds rest inductionHypothesis =>
      have first := attempt_spends paced address (some seconds) supply
      rw [List.length_cons, leading, readEffects]
      by_cases asks : deferred supply.head = true
      · rw [if_pos asks, if_pos asks]
        rw [attempted, asks] at first
        refine Spends.mono (first.bind (inductionHypothesis supply.tail)) ?_
        exact Nat.le_of_eq (Nat.add_comm 1 _)
      · have final := eq_false_of_ne_true asks
        rw [if_neg asks, if_neg asks, List.append_nil]
        rw [attempted_of_final final] at first
        refine settled_spends first fun found => ?_
        cases found <;> rfl

end PolicyStore

end PolicyReconciler

import PolicyReconciler.Json.Order
import PolicyReconciler.Json.Use
import PolicyReconciler.Program.Basic
import PolicyReconciler.Text.Lowercase

namespace PolicyReconciler

/-!
# Limiting the rate of calls

Calls to a service start at least one interval apart: a call that comes too
early waits first.  The time of the last call is shared by all calls to the
service.  A response that asks for fewer calls is answered by a pause that
doubles with each attempt.
-/

/-- The calls per second that each service is given. -/
structure Rates (Time : Type) where
  kubernetes : Time
  lattice : Time

/-- The rate that an interface is held to. -/
def Rates.of {Time : Type} (rates : Rates Time) : Api → Time
  | .kubernetes => rates.kubernetes
  | .lattice => rates.lattice

namespace Limiter

open Program

variable {Time : Type} [TimeScale Time]

/-- How long a call has to wait, if it has to, after the last call. -/
def waitFor? (interval last now : Time) : Option Time :=
  if TimeScale.less (TimeScale.since now last) interval then
    some (TimeScale.since interval (TimeScale.since now last))
  else
    none

/-- Wait until the next call to a service may start, and note that it starts. -/
def awaitTurn (rate : Time) (api : Api) : Program Time Unit := do
  let now ← readClock
  if TimeScale.isZero rate then
    fail .divisionByZero
  else
    let last ← perform (.lastCall api) finish
    match waitFor? (TimeScale.interval rate) last now with
    | some length => pause (.span length)
    | none => finish ()
    let start ← readClock
    perform (.noteCall api start) finish

/-- A request that first waits for its turn. -/
def limited
    {Result : Type}
    (rate : Time)
    (api : Api)
    (request : Program Time Result) :
    Program Time Result := do
  awaitTurn rate api
  request

end Limiter

namespace Backoff

open Program

variable {Time : Type} [TimeScale Time]

/-- Whether a fault is a response that asks for fewer calls. -/
def isRetryable : Fault → Bool
  | .api response =>
      response.status.isNumber 429 ||
        (response.status.isNumber 503 &&
          Text.occursIn "rate limit".toList (Text.lower response.text.toList))
  | _ => false

/-- The pause before the attempt after a number of attempts. -/
def pauseAfter (attempt : Int) : Pause Time :=
  if attempt < 0 then
    .span (TimeScale.powerOfTwo attempt)
  else
    .seconds (Nat.pow 2 attempt.toNat)

/--
Note that calls were refused for their rate, and pause if there is to be another
attempt.
-/
def backOff (next : Option (Pause Time)) : Program Time Bool := do
  count (.rateLimitHits .kubernetes)
  match next with
  | some length =>
      pause length
      finish true
  | none => finish false

/-- How often a refused read is tried again. -/
def defaultRetries : Int := 3

/-- The pause before the attempt after a number of attempts, given as any value. -/
def givenPause : Json → Except Fault (Pause Float)
  | .bool flag => .ok (pauseAfter (if flag then 1 else 0))
  | .int attempt =>
      if attempt < 0 then
        (Json.realOfInt attempt).map fun _ => pauseAfter attempt
      else
        .ok (pauseAfter attempt)
  | .float attempt =>
      let length := Float.pow 2 attempt
      if length.isInf && !attempt.isInf then
        .error .powerTooLarge
      else
        .ok (.span length)
  | other =>
      .error (.wrongUse
        ("unsupported operand type(s) for ** or pow(): 'int' and '" ++
          other.kindName ++ "'"))

/--
Whether there is to be another attempt after a number of attempts, and after which
pause.
-/
def nextPause (attempt retries : Json) : Except Fault (Option (Pause Float)) :=
  match attempt.before? retries with
  | none =>
      .error (.wrongUse
        ("'<' not supported between instances of '" ++
          attempt.kindName ++ "' and '" ++
          retries.kindName ++ "'"))
  | some false => .ok none
  | some true => (givenPause attempt).map some

/-- Decide whether a call is repeated after a fault, pausing first if it is. -/
def shouldRetry (fault : Fault) (attempt retries : Json) : Program Float Bool :=
  if isRetryable fault then
    match nextPause attempt retries with
    | .ok next => backOff next
    | .error unfit => do
        count (.rateLimitHits .kubernetes)
        fail unfit
  else
    finish false

end Backoff

end PolicyReconciler

import PolicyReconciler.VpcLattice.Client
import PolicyReconciler.Policy.Finalizer

namespace PolicyReconciler.PolicyStore

/-!
# Reading and writing records

A read is repeated when the service asks for fewer calls.  A write carries the
version that was read, so a record that has changed since is not overwritten.
-/

open Program

variable {Time : Type} [TimeScale Time]

/-- A program whose duration is observed, however it ends. -/
def timed {Result : Type} (operation : Operation) (program : Program Time Result) :
    Program Time Result := do
  let start ← readClock
  program.ensuring do
    let stop ← readClock
    observe (.apiCallDuration operation) (TimeScale.since stop start)

/-- How one attempt to read a record ended. -/
inductive Attempt where
  | found (policy : Policy)
  | missing
  | again

/--
Go on after a fault of a read, with a pause if there is to be another attempt.
-/
def afterReadFault
    (next : Option (Pause Time))
    (fault : Fault) :
    Program Time Attempt :=
  match fault with
  | .api response =>
      if response.status.isNumber 404 then do
        count (.apiCalls .readPolicy .notFound)
        finish .missing
      else do
        count (.apiCalls .readPolicy .error)
        if Backoff.isRetryable fault then
          if ← Backoff.backOff next then
            finish .again
          else
            fail fault
        else
          fail fault
  | _ => fail fault

/-- One attempt to read a record. -/
def attempt
    (operator : Operator Time)
    (address : Address)
    (next : Option (Pause Time)) :
    Program Time Attempt :=
  timed .readPolicy <|
    let read : Program Time Attempt := do
      let record ← Limiter.limited operator.rates.kubernetes .kubernetes
        (call (.readRecord address operator.requestTimeout))
      count (.apiCalls .readPolicy .success)
      let policy ← ofExcept (Policy.ofRecord record)
      finish (.found policy)
    read.recover (afterReadFault next)

/-- Read a record, making another attempt after each of the pauses. -/
def getWith (operator : Operator Time) (address : Address) :
    List (Pause Time) → Program Time (Option Policy)
  | [] => do
      match ← attempt operator address none with
      | .found policy => finish (some policy)
      | .missing => finish none
      | .again => finish none
  | next :: rest => do
      match ← attempt operator address (some next) with
      | .found policy => finish (some policy)
      | .missing => finish none
      | .again => getWith operator address rest

/--
The pauses between the attempts to read a record, one for each further attempt.
-/
def readPauses : List (Pause Time) :=
  (List.range Backoff.defaultRetries.toNat).map fun attempt : Nat =>
    Backoff.pauseAfter attempt

/-- The record at an address, none if the cluster has none there. -/
def get
    (operator : Operator Time)
    (address : Address) :
    Program Time (Option Policy) :=
  getWith operator address readPauses

/-- What a failed replacement comes to. The answer 409 becomes a conflict. -/
def afterWriteFault
    {Result : Type}
    (policy : Policy)
    (fault : Fault) :
    Program Time Result :=
  match fault with
  | .api response =>
      if response.status.isNumber 409 then do
        count (.apiCalls .updatePolicy .conflict)
        fail (.conflict policy.recordNamespace policy.name policy.version
          (some response))
      else do
        count (.apiCalls .updatePolicy .error)
        fail fault
  | _ => fail fault

/--
The replacement of a record by one policy, and the record that is stored then.
-/
def update (operator : Operator Time) (policy : Policy) : Program Time Json :=
  timed .updatePolicy <|
    let write : Program Time Json := do
      let stored ← Limiter.limited operator.rates.kubernetes .kubernetes
        (call (.replaceRecord ⟨policy.recordNamespace, policy.name⟩ policy.toRecord
          operator.requestTimeout))
      count (.apiCalls .updatePolicy .success)
      finish stored
    write.recover (afterWriteFault policy)

end PolicyReconciler.PolicyStore

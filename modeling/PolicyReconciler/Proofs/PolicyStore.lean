import PolicyReconciler.PolicyStore
import PolicyReconciler.Proofs.Program.Quiet

namespace PolicyReconciler

/-!
# Calls of the policy store

Reading a record is one exchange, or a few: an answer that asks for fewer calls
is followed by another attempt while there is one left.  Writing a policy back
is one exchange, and an answer that reports a conflict becomes the fault that
names the version which was read.
-/

/-! ## Records that do not fit -/

namespace Fault

/-- Whether a fault says that a value does not fit where it is used. -/
inductive Unfit : Fault → Prop where
  | wrongShape (message : String) : Unfit (.wrongShape message)
  | wrongUse (message : String) : Unfit (.wrongUse message)
  | badValue (message : String) : Unfit (.badValue message)

end Fault

/-- Whether an outcome fails only because a value does not fit. -/
def FailsUnfit {Result : Type} (outcome : Except Fault Result) : Prop :=
  ∀ fault, outcome = .error fault → fault.Unfit

namespace FailsUnfit

variable {Result Other : Type}

/-- A result is no failure. -/
theorem ok (result : Result) : FailsUnfit (.ok result) := by
  rintro fault ⟨⟩

/-- An unfit fault. -/
theorem error {fault : Fault} (unfit : fault.Unfit) :
    FailsUnfit (.error fault : Except Fault Result) := by
  rintro _ ⟨⟩
  exact unfit

/-- Two steps that fail only as unfit. -/
theorem bind
    {outcome : Except Fault Result}
    {next : Result → Except Fault Other}
    (first : FailsUnfit outcome)
    (rest : ∀ result, FailsUnfit (next result)) :
    FailsUnfit (outcome.bind next) := by
  cases outcome with
  | error fault =>
      exact error (first fault rfl)
  | ok result =>
      exact rest result

/-- A converted result. -/
theorem map
    {outcome : Except Fault Result}
    (convert : Result → Other)
    (first : FailsUnfit outcome) :
    FailsUnfit (outcome.map convert) := by
  cases outcome with
  | error fault =>
      exact error (first fault rfl)
  | ok result =>
      exact ok (convert result)

end FailsUnfit

namespace Json

/-- Reading entries fails only as unfit. -/
theorem entries_failsUnfit (value : Json) : FailsUnfit (entries value) := by
  cases value <;> first | exact .ok _ | exact .error (.wrongUse _)

theorem key_failsUnfit (value : Json) : FailsUnfit (key value) := by
  cases value <;> first | exact .ok _ | exact .error (.wrongUse _)

theorem addPair_failsUnfit (table : Table) (position : Nat) (pair : Json) :
    FailsUnfit (addPair table position pair) := by
  unfold addPair
  split
  · exact .error (.wrongUse _)
  · exact (key_failsUnfit _).map _
  · exact .error (.badValue _)

theorem addPairs_failsUnfit (table : Table) (position : Nat) (pairs : List Json) :
    FailsUnfit (addPairs table position pairs) := by
  induction pairs generalizing table position with
  | nil =>
      exact .ok table
  | cons pair rest inductionHypothesis =>
      unfold addPairs
      split
      · rename_i fault unpaired
        exact .error (addPair_failsUnfit table position pair fault unpaired)
      · exact inductionHypothesis _ _

/-- Reading a table fails only as unfit. -/
theorem table_failsUnfit (value : Json) : FailsUnfit (table value) := by
  have ofPairs : FailsUnfit ((entries value).bind (addPairs [] 0)) :=
    (entries_failsUnfit value).bind (addPairs_failsUnfit [] 0)
  cases value with
  | obj members =>
      exact .ok _
  | null | bool | int | float | str | arr =>
      exact ofPairs

theorem tableMembers_failsUnfit
    (value : Json) :
    FailsUnfit (tableMembers value) := by
  have ofTable : FailsUnfit ((table value).map Table.members) :=
    (table_failsUnfit value).map _
  cases value with
  | obj members =>
      exact .ok members
  | null | bool | int | float | str | arr =>
      exact ofTable

theorem optionalEntries_failsUnfit
    (value : Json) :
    FailsUnfit (optionalEntries value) := by
  unfold optionalEntries
  split
  · exact entries_failsUnfit value
  · exact .ok []

theorem optionalMembers_failsUnfit
    (value : Json) :
    FailsUnfit (optionalMembers value) := by
  unfold optionalMembers
  split
  · exact tableMembers_failsUnfit value
  · exact .ok []

end Json

/-- Reading a target fails only as unfit. -/
theorem TargetRef.ofJson_failsUnfit
    (value : Json) :
    FailsUnfit (TargetRef.ofJson value) := by
  cases value <;> first | exact .ok _ | exact .error (.wrongShape _)

namespace Policy

/-- Reading a section fails only as unfit. -/
theorem section?_failsUnfit (record : Members) (key : String) :
    FailsUnfit (section? record key) := by
  unfold section?
  split
  · exact .ok _
  · exact .error (.wrongShape _)

/-- A record that no policy is read from has a part that does not fit. -/
theorem ofRecord_failsUnfit (record : Json) : FailsUnfit (ofRecord record) := by
  cases record with
  | obj members =>
      exact (section?_failsUnfit members "spec").bind fun spec =>
        (section?_failsUnfit members "metadata").bind fun metadata =>
        (TargetRef.ofJson_failsUnfit _).bind fun target =>
        (Json.optionalEntries_failsUnfit _).bind fun finalizers =>
        (Json.optionalMembers_failsUnfit _).bind fun annotations =>
        .ok _
  | null | bool | int | float | str | arr =>
      exact .error (.wrongShape _)

end Policy

namespace PolicyStore

open Program

variable {Time Result : Type} [TimeScale Time]
variable {permits : History → Call → Prop}
variable {past : History}

/-- Timing a program changes nothing in what it meets. -/
theorem timed_meets
    {ends : History → Except Fault Result → Prop}
    {program : Program Time Result}
    (operation : Operation)
    (inner : program.Meets permits ends past) :
    (timed operation program).Meets permits ends past :=
  Meets.readClock_bind fun _ => inner.ensuring_quietly <|
    Quietly.readClock_bind fun _ => Quietly.observe _ _

/-! ## Reading -/

/-- Whether a fault is the answer that a record does not exist. -/
def TellsMissing (fault : Fault) : Prop :=
  ∃ response, fault = .api response ∧ response.status.isNumber 404 = true

/-- The call that reads the record at an address. -/
def readCall (operator : Operator Time) (address : Address) : Call :=
  .readRecord address operator.requestTimeout

/-- What reading a record exchanges and gives, with some further attempts left. -/
inductive Reading (operator : Operator Time) (address : Address) :
    Nat → History → Except Fault (Option Policy) → Prop where
  | stalled (retries : Nat) {fault : Fault}
      (halted : Limiter.turn operator.rates.kubernetes = .error fault) :
      Reading operator address retries [] (.error fault)
  | found (retries : Nat) {record : Json} {policy : Policy}
      (fit : Policy.ofRecord record = .ok policy) :
      Reading operator address retries [⟨readCall operator address, .ok record⟩]
        (.ok (some policy))
  | malformed (retries : Nat) {record : Json} {fault : Fault}
      (unfit : Policy.ofRecord record = .error fault) :
      Reading operator address retries [⟨readCall operator address, .ok record⟩]
        (.error fault)
  | missing (retries : Nat) {fault : Fault}
      (gone : TellsMissing fault) :
      Reading operator address retries
        [⟨readCall operator address, .error fault⟩] (.ok none)
  | refused (retries : Nat) {fault : Fault}
      (kept : ¬ TellsMissing fault)
      (final : Backoff.isRetryable fault = true → retries = 0) :
      Reading operator address retries [⟨readCall operator address, .error fault⟩]
        (.error fault)
  | again {retries : Nat} {fault : Fault} {calls : History}
      {result : Except Fault (Option Policy)}
      (kept : ¬ TellsMissing fault)
      (busy : Backoff.isRetryable fault = true)
      (later : Reading operator address retries calls result) :
      Reading operator address (retries + 1)
        (⟨readCall operator address, .error fault⟩ :: calls) result

/-- How many further attempts a read may make. -/
def readRetries : Nat := Backoff.defaultRetries.toNat

/-- Every exchange of a read is the call that reads the record. -/
theorem Reading.reads
    {operator : Operator Time}
    {address : Address}
    {retries : Nat}
    {calls : History}
    {result : Except Fault (Option Policy)}
    (reading : Reading operator address retries calls result) :
    ∀ exchange ∈ calls, exchange.call = readCall operator address := by
  induction reading with
  | stalled retries halted =>
      simp
  | found retries fit =>
      simp
  | malformed retries unfit =>
      simp
  | missing retries gone =>
      simp
  | refused retries kept final =>
      simp
  | again kept busy later inductionHypothesis =>
      exact List.forall_mem_cons.mpr ⟨rfl, inductionHypothesis⟩

/--
A policy that was found was read from the one record that the reads were answered
by.
-/
theorem Reading.only_record
    {operator : Operator Time}
    {address : Address}
    {retries : Nat}
    {calls : History}
    {policy : Policy}
    (reading : Reading operator address retries calls (.ok (some policy))) :
    ∃ record, Policy.ofMembers record = .ok policy ∧
      ∀ body, ⟨readCall operator address, .ok body⟩ ∈ calls ↔
        body = .obj record := by
  generalize found : Except.ok (some policy) = result at reading
  induction reading with
  | stalled retries halted =>
      cases found
  | @found retries record policy' fit =>
      cases found
      cases record with
      | obj members =>
          exact ⟨members, fit, fun body => by simp⟩
      | null | bool | int | float | str | arr =>
          cases fit
  | malformed retries unfit =>
      cases found
  | missing retries gone =>
      cases found
  | refused retries kept final =>
      cases found
  | again kept busy later inductionHypothesis =>
      obtain ⟨record, fit, only⟩ := inductionHypothesis found
      exact ⟨record, fit, fun body => by simp [only]⟩

/-- A policy that was read was answered as a record. -/
theorem Reading.exists_record
    {operator : Operator Time}
    {address : Address}
    {retries : Nat}
    {calls : History}
    {policy : Policy}
    (reading : Reading operator address retries calls (.ok (some policy))) :
    ∃ record, ⟨readCall operator address, .ok (.obj record)⟩ ∈ calls ∧
      Policy.ofMembers record = .ok policy := by
  obtain ⟨record, fit, only⟩ := reading.only_record
  exact ⟨record, (only _).mpr rfl, fit⟩

omit [TimeScale Time] in
/-- After a fault of a read there is nothing, the fault, or another attempt. -/
theorem afterReadFault_meets
    {next : Option (Pause Time)}
    {fault : Fault}
    {ends : History → Except Fault Attempt → Prop}
    (missing : TellsMissing fault → ends past (.ok .missing))
    (refused :
      ¬ TellsMissing fault → (Backoff.isRetryable fault = true → next = none) →
      ends past (.error fault))
    (again :
      ¬ TellsMissing fault → Backoff.isRetryable fault = true → next.isSome = true →
      ends past (.ok .again)) :
    (afterReadFault next fault).Meets permits ends past := by
  by_cases gone : TellsMissing fault
  · have absent := missing gone
    obtain ⟨response, rfl, status⟩ := gone
    simp only [afterReadFault, status, if_true]
    exact (Quietly.count _).meets_bind ((Quietly.finish _).meets absent)
  · have final := refused gone
    have repeated := again gone
    cases fault with
    | api response =>
        have status : ¬ response.status.isNumber 404 = true := fun status =>
          gone ⟨response, rfl, status⟩
        simp only [afterReadFault, if_neg status]
        refine (Quietly.count _).meets_bind ?_
        split
        · rename_i busy
          cases next with
          | none =>
              exact ((Quietly.count _).bind (Quietly.finish false)).meets_bind
                ((Quietly.fail _).meets (final fun _ => rfl))
          | some length =>
              exact ((Quietly.count _).bind
                ((Quietly.pause length).bind (Quietly.finish true))).meets_bind
                ((Quietly.finish _).meets (repeated busy rfl))
        · rename_i idle
          exact (Quietly.fail _).meets (final fun busy => absurd busy idle)
    | _ =>
        exact (Quietly.fail _).meets (final fun busy => by cases busy)

/-- What an attempt to read can come to. -/
theorem attempt_meets
    {operator : Operator Time}
    {address : Address}
    {next : Option (Pause Time)}
    {ends : History → Except Fault Attempt → Prop}
    (stalled : ∀ fault, Limiter.turn operator.rates.kubernetes = .error fault →
      ends past (.error fault))
    (permitted : permits past (readCall operator address))
    (found : ∀ record policy, Policy.ofRecord record = .ok policy →
      ends (past ++ [⟨readCall operator address, .ok record⟩])
        (.ok (.found policy)))
    (malformed : ∀ record fault, Policy.ofRecord record = .error fault →
      ends (past ++ [⟨readCall operator address, .ok record⟩]) (.error fault))
    (missing : ∀ fault, TellsMissing fault →
      ends (past ++ [⟨readCall operator address, .error fault⟩]) (.ok .missing))
    (refused : ∀ fault, ¬ TellsMissing fault →
      (Backoff.isRetryable fault = true → next = none) →
      ends (past ++ [⟨readCall operator address, .error fault⟩]) (.error fault))
    (again : ∀ fault, ¬ TellsMissing fault → Backoff.isRetryable fault = true →
      next.isSome = true →
      ends (past ++ [⟨readCall operator address, .error fault⟩]) (.ok .again)) :
    (attempt operator address next).Meets permits ends past := by
  apply timed_meets
  apply Meets.followedBy
  apply Meets.followedBy
  apply Limiter.limited_meets
  · intro fault halted
    refine (Quietly.fail fault).meets ?_
    obtain rfl := Limiter.turn_error halted
    exact (Quietly.fail _).meets (stalled _ halted)
  · exact permitted
  intro answer
  cases answer with
  | ok record =>
      refine (Quietly.count _).meets_bind ?_
      apply Meets.followedBy
      apply (Quietly.ofExcept _).meets
      cases read : Policy.ofRecord record with
      | ok policy =>
          exact (Quietly.finish _).meets
            ((Quietly.finish _).meets (found record policy read))
      | error fault =>
          refine (Quietly.fail fault).meets ?_
          have reached := malformed record fault read
          cases Policy.ofRecord_failsUnfit record fault read <;>
            exact (Quietly.fail _).meets reached
  | error fault =>
      refine (Quietly.fail fault).meets ?_
      exact afterReadFault_meets (missing fault) (refused fault) (again fault)

/--
Reading a record with pauses between attempts meets what all its readings agree
with.
-/
theorem getWith_meets
    {operator : Operator Time}
    {address : Address}
    {pauses : List (Pause Time)}
    {ends : History → Except Fault (Option Policy) → Prop}
    (permitted :
      ∀ calls, (∀ exchange ∈ calls, exchange.call = readCall operator address) →
      permits (past ++ calls) (readCall operator address))
    (ended : ∀ calls result, Reading operator address pauses.length calls result →
      ends (past ++ calls) result) :
    (getWith operator address pauses).Meets permits ends past := by
  induction pauses generalizing past with
  | nil =>
      apply Meets.followedBy
      apply attempt_meets
      · exact fun fault halted => (Quietly.fail fault).meets
          (by simpa using ended [] _ (.stalled 0 halted))
      · simpa using permitted [] (by simp)
      · exact fun record policy fit =>
          (Quietly.finish _).meets (ended _ _ (.found 0 fit))
      · exact fun record fault unfit =>
          (Quietly.fail _).meets (ended _ _ (.malformed 0 unfit))
      · exact fun fault gone =>
          (Quietly.finish _).meets (ended _ _ (.missing 0 gone))
      · exact fun fault kept _ => (Quietly.fail _).meets
          (ended _ _ (.refused 0 kept fun _ => rfl))
      · exact fun fault _ _ impossible => by cases impossible
  | cons pause rest inductionHypothesis =>
      apply Meets.followedBy
      apply attempt_meets
      · exact fun fault halted => (Quietly.fail fault).meets
          (by simpa using ended [] _ (.stalled _ halted))
      · simpa using permitted [] (by simp)
      · exact fun record policy fit =>
          (Quietly.finish _).meets (ended _ _ (.found _ fit))
      · exact fun record fault unfit =>
          (Quietly.fail _).meets (ended _ _ (.malformed _ unfit))
      · exact fun fault gone =>
          (Quietly.finish _).meets (ended _ _ (.missing _ gone))
      · exact fun fault kept idle => (Quietly.fail _).meets
          (ended _ _ (.refused _ kept fun busy => by cases idle busy))
      · intro fault kept busy _
        apply inductionHypothesis
        · intro calls reads
          rw [List.append_assoc]
          exact permitted _ (List.forall_mem_cons.mpr ⟨rfl, reads⟩)
        · intro calls result reading
          rw [List.append_assoc]
          exact ended _ _ (.again kept busy reading)

/-- Reading the policy at an address meets what all its readings agree with. -/
theorem get_meets
    {operator : Operator Time}
    {address : Address}
    {ends : History → Except Fault (Option Policy) → Prop}
    (permitted :
      ∀ calls, (∀ exchange ∈ calls, exchange.call = readCall operator address) →
      permits (past ++ calls) (readCall operator address))
    (ended : ∀ calls result, Reading operator address readRetries calls result →
      ends (past ++ calls) result) :
    (get operator address).Meets permits ends past := by
  apply getWith_meets permitted
  intro calls result reading
  apply ended
  simpa [readPauses, readRetries] using reading

/-! ## Writing back -/

/-- The call that replaces a record by a policy. -/
def writeCall (operator : Operator Time) (policy : Policy) : Call :=
  .replaceRecord ⟨policy.recordNamespace, policy.name⟩ policy.toRecord
    operator.requestTimeout

/--
How the answer to writing a policy back is taken: a conflict names the version.
-/
def writeVerdict (policy : Policy) : Except Fault Json → Except Fault Unit
  | .ok _ => .ok ()
  | .error (.api response) =>
      if response.status.isNumber 409 then
        .error (.conflict policy.recordNamespace policy.name policy.version
          (some response))
      else
        .error (.api response)
  | .error fault => .error fault

/-- A failed replacement leaves a fault. -/
theorem writeVerdict_error (policy : Policy) (fault : Fault) :
    ∃ left, writeVerdict policy (.error fault) = .error left := by
  cases fault with
  | api response =>
      unfold writeVerdict
      dsimp only
      split <;> exact ⟨_, rfl⟩
  | _ =>
      exact ⟨_, rfl⟩

/-- What writing a policy back exchanges, and how it ends. -/
inductive WriteBack (operator : Operator Time) (policy : Policy) :
    History → Except Fault Unit → Prop where
  | stalled {fault : Fault}
      (halted : Limiter.turn operator.rates.kubernetes = .error fault) :
      WriteBack operator policy [] (.error fault)
  | answered (answer : Except Fault Json) :
      WriteBack operator policy [⟨writeCall operator policy, answer⟩]
        (writeVerdict policy answer)

/-- Writing a policy back meets what all its exchanges agree with. -/
theorem update_meets
    {operator : Operator Time}
    {policy : Policy}
    {ends : History → Except Fault Json → Prop}
    (permitted : permits past (writeCall operator policy))
    (stored : ∀ answer, ends
      (past ++ [⟨writeCall operator policy, .ok answer⟩]) (.ok answer))
    (failed : ∀ calls fault, WriteBack operator policy calls (.error fault) →
      ends (past ++ calls) (.error fault)) :
    (update operator policy).Meets permits ends past := by
  apply timed_meets
  apply Meets.followedBy
  apply Meets.followedBy
  apply Limiter.limited_meets
  · intro fault halted
    refine (Quietly.fail fault).meets ?_
    obtain rfl := Limiter.turn_error halted
    exact (Quietly.fail _).meets (by simpa using failed [] _ (.stalled halted))
  · exact permitted
  intro answer
  cases answer with
  | ok record =>
      exact (Quietly.count _).meets_bind
        ((Quietly.finish _).meets ((Quietly.finish _).meets (stored record)))
  | error fault =>
      refine (Quietly.fail fault).meets ?_
      have reached :
          WriteBack operator policy [⟨writeCall operator policy, .error fault⟩]
            (writeVerdict policy (.error fault)) :=
        .answered (.error fault)
      cases fault with
      | api response =>
          simp only [afterWriteFault]
          dsimp only [writeVerdict] at reached
          split at reached
          · rename_i conflict
            rw [if_pos conflict]
            exact (Quietly.count _).meets_bind
              ((Quietly.fail _).meets (failed _ _ reached))
          · rename_i other
            rw [if_neg other]
            exact (Quietly.count _).meets_bind
              ((Quietly.fail _).meets (failed _ _ reached))
      | _ =>
          exact (Quietly.fail _).meets (failed _ _ reached)

end PolicyStore

end PolicyReconciler

import PolicyReconciler.Proofs.Composition.Calls
import PolicyReconciler.Proofs.Limiter.Turn

namespace PolicyReconciler

/-!
# Calls after turns

Orderly programs make no call without a turn at the limiter of its service, directly
before.  All of the operator's work is orderly: every page, every repeated read,
every write and every change.  `Ready` says how such a program may stand between two
steps.
-/

open Program

/--
Programs that make each call directly after a turn at the limiter of its service.
-/
inductive Orderly
    (rates : Rates Rat)
    {Result : Type} :
    Program Rat Result → Prop where
  | done (outcome : Except Fault Result) :
      Orderly rates (Program.done outcome)
  | perform {effect : Effect Rat} {resume : effect.Reply → Program Rat Result}
      (free : effect.Free)
      (rest : ∀ reply, Orderly rates (resume reply)) :
      Orderly rates (Program.perform effect resume)
  | limited {request : Call} {api : Api}
        {next : Except Fault Json → Program Rat Result}
      (served : request.api? = some api)
      (rest : ∀ answer, Orderly rates (next answer)) :
      Orderly rates
        ((Limiter.limited (rates.of api) api (Program.call request)).followedBy
          next)

namespace Orderly

variable {rates : Rates Rat}
variable {Result Other : Type}

/-- An orderly program that goes on in order is orderly. -/
theorem followedBy
    {program : Program Rat Result}
    {next : Except Fault Result → Program Rat Other}
    (first : Orderly rates program)
    (rest : ∀ outcome, Orderly rates (next outcome)) :
    Orderly rates (program.followedBy next) := by
  induction first with
  | done outcome =>
      exact rest outcome
  | perform free _ inductionHypothesis =>
      exact .perform free inductionHypothesis
  | limited served _ inductionHypothesis =>
      rw [followedBy_followedBy]
      exact .limited served inductionHypothesis

/-- One limited call is orderly. -/
theorem single
    {request : Call}
    (api : Api)
    (served : request.api? = some api) :
    Orderly rates (Limiter.limited (rates.of api) api (call request)) := by
  rw [← followedBy_done (Limiter.limited _ _ _)]
  exact .limited served .done

end Orderly

/-- Whatever is made of calls in turn and of accounts of them is orderly. -/
theorem Composed.orderly
    {operator : Operator Rat}
    {Result : Type}
    {program : Program Rat Result}
    (composed :
      program.MadeOf operator (LimitedCall operator.rates) Effect.Accounts) :
    Orderly operator.rates program := by
  refine composed.holds_first
    (fun _ program => Orderly operator.rates program) .done
    (fun {_ effect _} allowed => .perform ?_) (fun part => ?_) .followedBy
  · cases effect <;> first | trivial | exact allowed.elim False.elim False.elim
  · cases part with
    | limited served =>
        exact .single _ served

/-! ## Steps of an orderly worker -/

namespace Program

variable {Result : Type}

/-- What is left of a program after some effects, all of them at one time. -/
def leftAfter (time : Rat) : Nat → Program Rat Result → Program Rat Result
  | 0, program => program
  | _, .done outcome => .done outcome
  | effects + 1, .perform effect resume =>
      (resume (effect.reply time ⟨.null, none⟩
        (.error .missingCredentials))).leftAfter time effects

end Program

namespace Limiter

variable {Result : Type}
variable {rate : Rat}
variable {api : Api}
variable {next : Except Fault Unit → Program Rat Result}

/-- A turn reads the clock and asks for the last call. -/
theorem awaitTurn_followedBy
    (positive : 0 < rate)
    (api : Api)
    (next : Except Fault Unit → Program Rat Result) :
    ∃ resume : Rat → Rat → Program Rat Result,
      (awaitTurn rate api).followedBy next =
      perform .readClock fun now => perform (.lastCall api) (resume now) := by
  have paced : TimeScale.isZero rate = false := by
    simp [TimeScale.isZero, positive.ne']
  simp only [awaitTurn, Bind.bind, andThen, readClock, followedBy, finish, paced,
    Bool.false_eq_true, if_false]
  exact ⟨_, rfl⟩

/-- At a clock that stands still, a turn is over after five effects. -/
theorem leftAfter_awaitTurn
    (positive : 0 < rate)
    (api : Api)
    (next : Except Fault Unit → Program Rat Result) :
    ((awaitTurn rate api).followedBy next).leftAfter 0 5 = next (.ok ()) := by
  have paced : TimeScale.isZero rate = false := by
    simp [TimeScale.isZero, positive.ne']
  have asked : waitFor? (TimeScale.interval rate) 0 0 = some (1 / rate) := by
    have early : (0 : Rat) < 1 / rate := one_div_pos.mpr positive
    simp [waitFor?, TimeScale.less, TimeScale.since, TimeScale.interval, positive]
  simp only [awaitTurn, Bind.bind, andThen, readClock, followedBy, finish, paced,
    Bool.false_eq_true, if_false, leftAfter, Effect.reply, asked, pause]

/-- A limited call is a turn, after which the call is made. -/
theorem limited_followedBy
    (rate : Rat)
    (api : Api)
    (request : Call)
    (next : Except Fault Json → Program Rat Result) :
    (limited rate api (call request)).followedBy next =
      (awaitTurn rate api).followedBy fun
        | .ok _ => perform (.call request) next
        | .error fault => next (.error fault) := by
  unfold limited
  simp only [Bind.bind, andThen, followedBy_followedBy]
  congr 1
  funext outcome
  cases outcome <;> rfl

/-- A limited call begins like the turn it waits for. -/
theorem limited_begins
    (positive : 0 < rate)
    (api : Api)
    (request : Call)
    (next : Except Fault Json → Program Rat Result) :
    ∃ resume : Rat → Rat → Program Rat Result,
      (limited rate api (call request)).followedBy next =
        perform .readClock fun now => perform (.lastCall api) (resume now) := by
  rw [limited_followedBy]
  exact awaitTurn_followedBy positive api _

end Limiter

variable {rates : Rates Rat}

/-- An orderly program never looks at the last call between turns. -/
theorem Orderly.not_perform_lastCall
    {api : Api}
    {resume : Rat → Program Rat Unit}
    (positive : ∀ api, 0 < rates.of api) :
    ¬ Orderly rates (Program.perform (.lastCall api) resume) := by
  intro orderly
  generalize isNext : Program.perform (.lastCall api) resume = program at orderly
  cases orderly with
  | done outcome =>
      cases isNext
  | perform free rest =>
      cases isNext
      exact free
  | @limited request other next served rest =>
      obtain ⟨continued, shape⟩ :=
        Limiter.limited_begins (positive other) other request next
      rw [shape] at isNext
      cases isNext

/-- How a worker that is orderly may stand between two steps. -/
inductive Ready
    (rates : Rates Rat)
    (admission : Option (Api × Rat)) :
    Program Rat Unit → Prop where
  | orderly {program : Program Rat Unit}
      (orderly : Orderly rates program) :
      Ready rates admission program
  | admitted {request : Call}
        {resume : Except Fault Json → Program Rat Unit} {api : Api}
      {start : Rat}
      (through : admission = some (api, start))
      (served : request.api? = some api)
      (rest : ∀ answer, Orderly rates (resume answer)) :
      Ready rates admission (perform (.call request) resume)
  /-- A clock that was read for a turn outside of it is of no use. -/
  | halted {api : Api} {resume : Rat → Program Rat Unit} :
      Ready rates admission (perform (.lastCall api) resume)

namespace Ready

variable {admission : Option (Api × Rat)}

/-- A ready program stays ready over an effect that is free. -/
theorem performed
    {effect : Effect Rat}
    {resume : effect.Reply → Program Rat Unit}
    (positive : ∀ api, 0 < rates.of api)
    (ready : Ready rates admission (perform effect resume))
    (free : effect.Free)
    (reply : effect.Reply) :
    Ready rates none (resume reply) := by
  generalize isNext : perform effect resume = program at ready
  cases ready with
  | orderly orderly =>
      cases orderly with
      | done outcome =>
          cases isNext
      | perform free' rest =>
          cases isNext
          exact .orderly (rest reply)
      | @limited request api next served rest =>
          obtain ⟨continued, shape⟩ :=
            Limiter.limited_begins (positive api) api request next
          rw [shape] at isNext
          cases isNext
          exact .halted
  | admitted =>
      cases isNext
      exact free.elim
  | halted =>
      cases isNext
      exact free.elim

/-- A ready program calls only the interface it was admitted to. -/
theorem called
    {request : Call}
    {resume : Except Fault Json → Program Rat Unit}
    (positive : ∀ api, 0 < rates.of api)
    (ready : Ready rates admission (perform (.call request) resume))
    (answer : Except Fault Json) :
    Ready rates none (resume answer) ∧
      ∃ api start, request.api? = some api ∧ admission = some (api, start) := by
  generalize isNext : perform (.call request) resume = program at ready
  cases ready with
  | orderly orderly =>
      cases orderly with
      | done outcome =>
          cases isNext
      | perform free rest =>
          cases isNext
          exact free.elim
      | @limited request' api next served rest =>
          obtain ⟨continued, shape⟩ :=
            Limiter.limited_begins (positive api) api request' next
          rw [shape] at isNext
          cases isNext
  | admitted through served rest =>
      cases isNext
      exact ⟨.orderly (rest answer), _, _, served, through⟩
  | halted =>
      cases isNext

/-- A ready program that took its turn is admitted. -/
theorem turned
    {api : Api}
    {next : Except Fault Unit → Program Rat Unit}
    (positive : ∀ api, 0 < rates.of api)
    (ready : Ready rates admission
      ((Limiter.awaitTurn (rates.of api) api).followedBy next))
    (start : Rat) :
    Ready rates (some (api, start)) (next (.ok ())) := by
  obtain ⟨continued, shape⟩ := Limiter.awaitTurn_followedBy (positive api) api next
  have ended := Limiter.leftAfter_awaitTurn (positive api) api next
  rw [shape] at ready ended
  generalize isNext :
      perform .readClock (fun now => perform (.lastCall api) (continued now)) =
    program at ready ended
  cases ready with
  | orderly orderly =>
      cases orderly with
      | done outcome =>
          cases isNext
      | perform free rest =>
          cases isNext
          exact absurd (rest 0) (Orderly.not_perform_lastCall positive)
      | @limited request other next' served rest =>
          rw [Limiter.limited_followedBy] at isNext ended
          obtain ⟨continued', shape'⟩ :=
            Limiter.awaitTurn_followedBy (positive other) other _
          have isRest : next (.ok ()) = perform (.call request) next' :=
            ended.symm.trans (Limiter.leftAfter_awaitTurn (positive other) other _)
          rw [shape'] at isNext
          injection isNext with _ resumed
          injection congrFun resumed 0 with asked
          cases asked
          rw [isRest]
          exact .admitted rfl served rest
  | admitted =>
      cases isNext
  | halted =>
      cases isNext

end Ready

end PolicyReconciler

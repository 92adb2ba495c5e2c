import Mathlib.Algebra.Order.Field.Rat
import Mathlib.Logic.Function.Basic
import Mathlib.Tactic.Linarith
import Mathlib.Tactic.Ring
import PolicyReconciler.Limiter
import PolicyReconciler.Proofs.Program.History

namespace PolicyReconciler

/-!
# Turns at the limiters

A limiter that runs has the clock to itself: nothing moves it but its own pauses.
What it does then is known in advance.  The call starts one interval after the last
one, or at once if that time has passed, and the limiter remembers the start.
-/

open Program

/-- Whether an effect has nothing to do with calls and their limiters. -/
def Effect.Free : Effect Rat → Prop
  | .call _ | .lastCall _ | .noteCall .. => False
  | _ => True

/-- The length of a pause in seconds. -/
def Pause.length : Pause Rat → Rat
  | .seconds count => count
  | .span length => length

/-- The clock, and the times at which calls to the services last started. -/
structure Limiters where
  clock : Rat
  last : Api → Rat

namespace Limiters

/--
How a limiter that runs alone is answered; the pauses that it asks for are kept.
-/
def handle (effect : Effect Rat) (state : Limiters × List Rat) :
    effect.Reply × (Limiters × List Rat) :=
  let (limiters, pauses) := state
  match effect with
  | .lastCall api => (limiters.last api, state)
  | .noteCall api time =>
      ((), { limiters with last := Function.update limiters.last api time }, pauses)
  | .pause length =>
      ((), { limiters with clock := limiters.clock + length.length },
        pauses ++ [length.length])
  | other =>
      (other.reply limiters.clock ⟨.null, none⟩ (.error .missingCredentials), state)

/-- When a call that asks for a turn now will start. -/
def start (limiters : Limiters) (interval : Rat) (api : Api) : Rat :=
  max limiters.clock (limiters.last api + interval)

/-- The pause before that start, if one is needed. -/
def pauses (limiters : Limiters) (interval : Rat) (api : Api) : List Rat :=
  if limiters.clock < limiters.last api + interval then
    [limiters.last api + interval - limiters.clock]
  else
    []

/-- The limiters after a turn. -/
def turn (limiters : Limiters) (interval : Rat) (api : Api) : Limiters where
  clock := limiters.start interval api
  last := Function.update limiters.last api (limiters.start interval api)

variable {limiters : Limiters}
variable {interval : Rat}
variable {api : Api}

/-- A limiter lets a call through after at most one pause, and notes its start. -/
theorem run_awaitTurn
    {rate : Rat}
    (positive : 0 < rate)
    (limiters : Limiters)
    (api : Api) :
    (Limiter.awaitTurn rate api).run handle (limiters, []) =
      (.ok (), limiters.turn (1 / rate) api, limiters.pauses (1 / rate) api) := by
  have paced : TimeScale.isZero rate = false := by
    simp [TimeScale.isZero, positive.ne']
  have isInterval : TimeScale.interval rate = 1 / rate := rfl
  generalize 1 / rate = interval at isInterval ⊢
  by_cases early : limiters.clock < limiters.last api + interval
  · have asked : Limiter.waitFor? interval (limiters.last api) limiters.clock =
        some (limiters.last api + interval - limiters.clock) := by
      have soon : limiters.clock - limiters.last api < interval := by linarith
      simp only [Limiter.waitFor?, TimeScale.less, TimeScale.since,
        decide_eq_true soon, if_true]
      congr 1
      ring
    have started : limiters.start interval api =
        limiters.clock + (limiters.last api + interval - limiters.clock) := by
      rw [start, max_eq_right early.le]
      ring
    rw [turn, pauses, if_pos early, started]
    simp only [Limiter.awaitTurn, Bind.bind, andThen, followedBy, run, handle,
      finish, readClock, pause, paced, isInterval, asked, Effect.reply,
      Pause.length, Bool.false_eq_true, if_false, List.nil_append]
  · have asked :
        Limiter.waitFor? interval (limiters.last api) limiters.clock = none := by
      have late : ¬ limiters.clock - limiters.last api < interval := by
        intro soon
        exact early (by linarith)
      simp only [Limiter.waitFor?, TimeScale.less, TimeScale.since,
        decide_eq_false late]
      rfl
    have started : limiters.start interval api = limiters.clock :=
      max_eq_left (not_lt.mp early)
    rw [turn, pauses, if_neg early, started]
    simp only [Limiter.awaitTurn, Bind.bind, andThen, followedBy, run, handle,
      finish, readClock, paced, isInterval, asked, Effect.reply,
      Bool.false_eq_true, if_false]

/-- A limiter asks for no pause that is not positive. -/
theorem pauses_positive
    {pause : Rat}
    (asked : pause ∈ limiters.pauses interval api) :
    0 < pause := by
  unfold pauses at asked
  split at asked
  · rename_i early
    obtain rfl := List.mem_singleton.mp asked
    linarith
  · cases asked

/--
After a call that did not start in the future, no pause is longer than the interval.
-/
theorem pauses_bounded
    {pause : Rat}
    (past : limiters.last api ≤ limiters.clock)
    (asked : pause ∈ limiters.pauses interval api) :
    pause ≤ interval := by
  unfold pauses at asked
  split at asked
  · obtain rfl := List.mem_singleton.mp asked
    linarith
  · cases asked

/-- A call starts an interval after the last one or later. -/
theorem le_start : limiters.last api + interval ≤ limiters.start interval api :=
  le_max_right _ _

theorem clock_le_start : limiters.clock ≤ limiters.start interval api :=
  le_max_left _ _

end Limiters

end PolicyReconciler

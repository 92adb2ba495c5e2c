import Mathlib.Data.Stream.Init
import PolicyReconciler.Proofs.Program.Replay

namespace PolicyReconciler

/-!
# Runs on a supply of answers

The services can be seen as an endless supply of answers, of which each call takes
the next.  Clocks, limiters and watchers reply as the surroundings of the run have
it, which may be in any way.  What holds in all surroundings is up to the program
and the supply.
-/

/-- The answers to the calls to come, the next one first. -/
abbrev Supply := Stream' (Except Fault Json)

/-- How effects are answered, from any state that the surroundings keep. -/
abbrev Surroundings (Time State : Type) :=
  (effect : Effect Time) → State → effect.Reply × State

/-- Surroundings in which time stands still. -/
def Surroundings.still {Time : Type} (time : Time) : Surroundings Time Unit :=
  fun effect _ => (effect.reply time ⟨.null, none⟩ (.error .missingCredentials), ())

/--
The state of a run on a supply, which remembers the effects that were performed.
-/
structure Supplied (Time State : Type) where
  state : State
  supply : Supply
  effects : List (Effect Time)

namespace Supplied

variable {Time State Result : Type}

/-- Answer a call from the supply, and any other effect as the surroundings do. -/
def handle (surroundings : Surroundings Time State) (effect : Effect Time)
    (supplied : Supplied Time State) : effect.Reply × Supplied Time State :=
  let left : Supply :=
    match effect with
    | .call _ => supplied.supply.tail
    | _ => supplied.supply
  let next : Supplied Time State :=
    ⟨(surroundings effect supplied.state).2, left, supplied.effects ++ [effect]⟩
  match effect with
  | .call _ => (supplied.supply.head, next)
  | other => ((surroundings other supplied.state).1, next)

/-- A silent effect is noted and leaves the supply. -/
theorem handle_of_silent
    {effect : Effect Time}
    (silent : effect.Silent)
    (surroundings : Surroundings Time State)
    (supplied : Supplied Time State) :
    handle surroundings effect supplied =
      ((surroundings effect supplied.state).1,
        ⟨(surroundings effect supplied.state).2, supplied.supply,
          supplied.effects ++ [effect]⟩) := by
  cases effect with
  | call request =>
      exact silent.elim
  | _ =>
      rfl

/-! ## Runs and their histories -/

/-- The calls made so far, and the answers that are left. -/
def view (supplied : Supplied Time State) : List Call × Supply :=
  (supplied.effects.filterMap Effect.request?, supplied.supply)

/-- A call takes the next answer. -/
def takesNext : Program.Answering (List Call × Supply) :=
  fun before call answer after =>
    answer = before.2.head ∧ after = (before.1 ++ [call], before.2.tail)

/-- The supply shows what the calls are answered. -/
theorem shows_handle (surroundings : Surroundings Time State) :
    Program.Shows takesNext view (handle surroundings) where
  calls := by
    intro request supplied
    refine ⟨rfl, ?_⟩
    simp only [view, handle, List.filterMap_append]
    rfl
  others := by
    intro effect supplied silent
    rw [handle_of_silent silent]
    cases effect with
    | call request =>
        exact silent.elim
    | _ =>
        simp only [view, List.filterMap_append]
        exact Prod.ext (List.append_nil _) rfl

/-- A replay takes its answers off the supply. -/
theorem supply_eq_of_replays
    {before after : List Call × Supply}
    {history : History}
    (replays : Program.Replays takesNext before history after) :
    after.1 = before.1 ++ history.map Exchange.call ∧
      before.2 = history.map Exchange.answer ++ₛ after.2 := by
  induction replays with
  | nil world =>
      exact ⟨(List.append_nil _).symm, rfl⟩
  | cons answered rest inductionHypothesis =>
      obtain ⟨rfl, rfl⟩ := answered
      obtain ⟨calls, answers⟩ := inductionHypothesis
      refine ⟨by rw [calls, List.append_assoc]; rfl, ?_⟩
      rw [List.map_cons, Stream'.cons_append_stream, ← answers]
      exact (Stream'.eta _).symm

/--
A run on a supply is one of the runs of the program, answered from the supply.
-/
theorem exists_runs
    (surroundings : Surroundings Time State)
    (program : Program Time Result)
    (start : Supplied Time State) :
    ∃ history,
      program.Runs history (program.run (handle surroundings) start).1 ∧
      (program.run (handle surroundings) start).2.effects.filterMap
        Effect.request? =
        start.effects.filterMap Effect.request? ++ history.map Exchange.call ∧
      start.supply =
        history.map Exchange.answer ++ₛ
          (program.run (handle surroundings) start).2.supply := by
  obtain ⟨history, runs, replays⟩ :=
    (shows_handle surroundings).exists_runs program start
  exact ⟨history, runs, supply_eq_of_replays replays⟩

end Supplied

end PolicyReconciler

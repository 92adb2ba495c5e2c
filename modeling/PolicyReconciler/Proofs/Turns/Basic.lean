import Mathlib.Data.List.Induction
import PolicyReconciler.Proofs.World.Basic

namespace PolicyReconciler

/-!
# Reconciles that take turns

Reconciles of several records share one world.  A schedule fixes the order of their
calls, each of which is answered from the world that the calls before it have left.
Which calls meet a mishap, and which one, is fixed for each reconcile beforehand.
-/

open Program Reconcile

/--
What may befall a call: it fails before it takes effect, or its answer is lost.
-/
inductive Mishap where
  | unmade (fault : Fault)
  | unanswered (fault : Fault)

/-- A reconcile of a record, with the mishaps of its calls by their number. -/
structure Job where
  address : Address
  mishaps : Nat → Option Mishap

/--
A service that answers each call in one way, and changes the world in one way.
-/
abbrev Serve := World → Call → Except Fault Json × World

/-- How a service answers a call that may meet a mishap. -/
def Serve.struck
    (serve : Serve)
    (mishap : Option Mishap)
    (world : World)
    (call : Call) : Except Fault Json × World :=
  match mishap with
  | none => serve world call
  | some (.unmade fault) => (.error fault, world)
  | some (.unanswered fault) => (.error fault, (serve world call).2)

/--
How the calls of a job are answered, from the world and the number of calls before.
-/
def Job.answering (job : Job) (serve : Serve) : Answering (World × Nat) :=
  fun before call answer after =>
    serve.struck (job.mishaps before.2) before.1 call = (answer, after.1) ∧
      after.2 = before.2 + 1

/--
Calls with their answers, each with the job that makes it, in the order of the
calls.
-/
abbrev Schedule (Index : Type) := List (Index × Exchange)

namespace Turns

variable {Time Index : Type} [TimeScale Time] [DecidableEq Index]

/-- The exchanges of one of the jobs in a schedule. -/
def historyOf (schedule : Schedule Index) (index : Index) : History :=
  schedule.filterMap fun turn => if turn.1 = index then some turn.2 else none

/-- A reconcile that has the world to itself. -/
def Alone
    (operator : Operator Time)
    (serve : Serve)
    (job : Job)
    (world : World)
    (history : History)
    (outcome : Except Fault (ReconcileResult Nat))
    (last : World) : Prop :=
  (reconcile operator job.address).Runs history outcome ∧
    ∃ count, Replays (job.answering serve) (world, 0) history (last, count)

/-- The calls of jobs that share a world, in any order. -/
inductive Interleaves (serve : Serve) (jobs : Index → Job) (world : World) :
    Schedule Index → World → Prop where
  | start :
      Interleaves serve jobs world [] world
  | turn {schedule : Schedule Index} {middle last : World}
        {index : Index} {call : Call}
      {answer : Except Fault Json}
      (before : Interleaves serve jobs world schedule middle)
      (answered :
        serve.struck ((jobs index).mishaps (historyOf schedule index).length)
        middle call = (answer, last)) :
      Interleaves serve jobs world (schedule ++ [(index, ⟨call, answer⟩)]) last

/-- Jobs that are done one after the other. -/
inductive InTurn (operator : Operator Time) (serve : Serve) (jobs : Index → Job)
    (world : World) : List Index → World → Prop where
  | start :
      InTurn operator serve jobs world [] world
  | turn {order : List Index} {middle last : World} {index : Index}
        {history : History}
      {outcome : Except Fault (ReconcileResult Nat)}
      (before : InTurn operator serve jobs world order middle)
      (alone : Alone operator serve (jobs index) middle history outcome last) :
      InTurn operator serve jobs world (order ++ [index]) last

/-! ## Schedules -/

/-- The history of a joined schedule is the joined history. -/
theorem historyOf_append
    (first second : Schedule Index)
    (index : Index) :
    historyOf (first ++ second) index =
      historyOf first index ++ historyOf second index :=
  List.filterMap_append

/-- A turn belongs to its own run. -/
theorem historyOf_turn
    (index other : Index)
    (exchange : Exchange) :
    historyOf [(index, exchange)] other = if index =
      other then [exchange] else [] := by
  by_cases same : index = other <;> simp [historyOf, same]

theorem historyOf_tagged
    (history : History)
    (index other : Index) :
    historyOf (history.map (Prod.mk index)) other = if index =
      other then history else [] := by
  induction history with
  | nil =>
      simp [historyOf]
  | cons exchange rest inductionHypothesis =>
      rw [List.map_cons, ← List.singleton_append, historyOf_append, historyOf_turn,
        inductionHypothesis]
      by_cases same : index = other <;> simp [same]

/-! ## Reconciles alone -/

/-- A handler for a reconcile that has the world to itself. -/
def handle
    (serve : Serve)
    (job : Job)
    (time : Time)
    (effect : Effect Time)
    (state : World × Nat) :
    effect.Reply × (World × Nat) :=
  match effect with
  | .call request =>
      let answered := serve.struck (job.mishaps state.2) state.1 request
      (answered.1, answered.2, state.2 + 1)
  | silent => (silent.reply time ⟨.null, none⟩ (.error .missingCredentials), state)

omit [TimeScale Time] in
/-- A job's handler shows what its calls are answered. -/
theorem shows_handle
    (serve : Serve)
    (job : Job)
    (time : Time) :
    Program.Shows (job.answering serve) id (handle serve job time) where
  calls := fun request state => ⟨rfl, rfl⟩
  others := by
    intro effect state silent
    cases effect with
    | call request =>
        exact silent.elim
    | _ =>
        rfl

/-- A reconcile that has the world to itself comes to an end. -/
theorem exists_alone
    (operator : Operator Time)
    (serve : Serve)
    (job : Job)
    (world : World) :
    ∃ history outcome last, Alone operator serve job world history
      outcome last := by
  have time : Time := TimeScale.powerOfTwo 0
  obtain ⟨history, runs, replays⟩ :=
    (shows_handle serve job time).exists_runs
      (reconcile operator job.address) (world, 0)
  exact ⟨history, _, _, runs, _, replays⟩

omit [DecidableEq Index] in
/-- Jobs can be run one after the other in every order. -/
theorem exists_inTurn
    (operator : Operator Time)
    (serve : Serve)
    (jobs : Index → Job)
    (world : World)
    (order : List Index) :
    ∃ last, InTurn operator serve jobs world order last := by
  induction order using List.reverseRecOn with
  | nil =>
      exact ⟨world, .start⟩
  | append_singleton order index inductionHypothesis =>
      obtain ⟨middle, before⟩ := inductionHypothesis
      obtain ⟨history, outcome, last, alone⟩ :=
        exists_alone operator serve (jobs index) middle
      exact ⟨last, .turn before alone⟩

/-! ## One after the other -/

/-- A job may take turn after turn. -/
theorem Interleaves.append
    {serve : Serve}
    {jobs : Index → Job}
    {world : World}
    {schedule : Schedule Index}
    {index : Index}
    {history : History}
    {before after : World × Nat}
    (replays : Replays ((jobs index).answering serve) before history after)
    (interleaves : Interleaves serve jobs world schedule before.1)
    (counted : before.2 = (historyOf schedule index).length) :
    Interleaves serve jobs world
      (schedule ++ history.map (Prod.mk index)) after.1 := by
  induction replays generalizing schedule with
  | nil =>
      simpa using interleaves
  | @cons before middle last call answer later answered rest inductionHypothesis =>
      obtain ⟨struck, next⟩ := answered
      rw [counted] at struck
      have taken := interleaves.turn struck
      have countedNext : middle.2 =
          (historyOf (schedule ++ [(index, ⟨call, answer⟩)]) index).length := by
        rw [next, counted, historyOf_append, historyOf_turn, if_pos rfl]
        simp
      simpa using inductionHypothesis taken countedNext

/--
Jobs that are done one after the other take their turns in an order of their own.
-/
theorem InTurn.exists_interleaves
    {operator : Operator Time}
    {serve : Serve}
    {jobs : Index → Job}
    {world last : World}
    {order : List Index}
    (inTurn : InTurn operator serve jobs world order last)
    (once : order.Nodup) :
    ∃ schedule, Interleaves serve jobs world schedule last ∧
      (∀ index ∈ order, ∃ outcome,
        (reconcile operator (jobs index).address).Runs
          (historyOf schedule index) outcome) ∧
      ∀ index, index ∉ order → historyOf schedule index = [] := by
  induction inTurn with
  | start =>
      exact ⟨[], .start, by simp, fun _ _ => rfl⟩
  | @turn order middle last index history outcome before alone
        inductionHypothesis =>
      obtain ⟨earlier, lastOnce, apart⟩ := List.nodup_append.mp once
      have new : index ∉ order :=
        fun inside => apart index inside index List.mem_cons_self rfl
      obtain ⟨schedule, interleaves, ended, idle⟩ := inductionHypothesis earlier
      obtain ⟨runs, count, replays⟩ := alone
      refine ⟨schedule ++ history.map (Prod.mk index), ?_, ?_, ?_⟩
      · exact .append replays interleaves (by rw [idle index new]; rfl)
      · intro other inside
        rw [historyOf_append, historyOf_tagged]
        rcases List.mem_append.mp inside with before | isLast
        · have different : index ≠ other := by
            rintro rfl
            exact new before
          rw [if_neg different, List.append_nil]
          exact ended other before
        · obtain rfl := List.mem_singleton.mp isLast
          rw [idle _ new, if_pos rfl]
          exact ⟨outcome, runs⟩
      · intro other outside
        have notBefore : other ∉ order :=
          fun inside => outside (List.mem_append_left _ inside)
        have different : index ≠ other := by
          rintro rfl
          exact outside (List.mem_append_right _ List.mem_cons_self)
        rw [historyOf_append, historyOf_tagged, idle other notBefore,
          if_neg different]
        rfl

end Turns

end PolicyReconciler

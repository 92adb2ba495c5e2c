import PolicyReconciler.Proofs.Program.History

namespace PolicyReconciler.Program

/-!
# Replaying histories

Where the calls of a program are answered from a world, its history can be replayed
there: each call has an answer and changes the world, and nothing else does.
-/

variable {Time Result State World : Type}

/-- How a world may answer a call, and what becomes of it then. -/
abbrev Answering (World : Type) := World → Call → Except Fault Json → World → Prop

/-- A history that a world answers, and the world that it leads to. -/
inductive Replays (answers : Answering World) : World → History → World → Prop where
  | nil (world : World) :
      Replays answers world [] world
  | cons {world middle last : World} {call : Call} {answer : Except Fault Json}
      {later : History}
      (answered : answers world call answer middle)
      (rest : Replays answers middle later last) :
      Replays answers world (⟨call, answer⟩ :: later) last

variable {answers : Answering World}

/-- A replay of two histories passes through a world between them. -/
theorem Replays.append_inv
    {world last : World}
    {first second : History}
    (replays : Replays answers world (first ++ second) last) :
    ∃ middle, Replays answers world first middle ∧
      Replays answers middle second last := by
  induction first generalizing world with
  | nil =>
      exact ⟨world, .nil world, replays⟩
  | cons exchange rest inductionHypothesis =>
      cases replays with
      | cons answered later =>
          obtain ⟨middle, before, after⟩ := inductionHypothesis later
          exact ⟨middle, .cons answered before, after⟩

/-- A replay of one exchange is one answer. -/
theorem Replays.single_inv
    {world last : World}
    {call : Call}
    {answer : Except Fault Json}
    (replays : Replays answers world [⟨call, answer⟩] last) :
    answers world call answer last := by
  cases replays with
  | cons answered rest =>
      cases rest
      exact answered

/-- A replay of nothing changes nothing. -/
theorem Replays.nil_inv
    {world last : World}
    (replays : Replays answers world [] last) :
    last = world := by
  cases replays
  rfl

/--
Each exchange of a history was answered by the world that the ones before it led to.
-/
theorem Replays.exists_answered
    {world last : World}
    {history : History}
    {exchange : Exchange}
    (replays : Replays answers world history last)
    (inside : exchange ∈ history) :
    ∃ first second before after, history = first ++ exchange :: second ∧
      Replays answers world first before ∧
        answers before exchange.call exchange.answer after ∧
      Replays answers after second last := by
  obtain ⟨first, second, rfl⟩ := List.append_of_mem inside
  obtain ⟨before, earlier, later⟩ := replays.append_inv
  cases later with
  | cons answered rest =>
      exact ⟨first, second, before, _, rfl, earlier, answered, rest⟩

/-- A history is replayed where each of its exchanges leaves the world as it is. -/
theorem Replays.of_forall
    {world : World}
    {history : History}
    (answered :
      ∀ exchange ∈ history, answers world exchange.call exchange.answer world) :
    Replays answers world history world := by
  induction history with
  | nil =>
      exact .nil world
  | cons exchange rest inductionHypothesis =>
      obtain ⟨first, others⟩ := List.forall_mem_cons.mp answered
      exact .cons first (inductionHypothesis others)

/-- Whether a handler answers calls from the world that its state shows. -/
structure Shows
    (answers : Answering World)
    (view : State → World)
    (handle : (effect : Effect Time) → State → effect.Reply × State) : Prop where
  calls : ∀ request state,
    answers (view state) request (handle (.call request) state).1
      (view (handle (.call request) state).2)
  others : ∀ effect state, effect.Silent → view (handle effect state).2 = view state

/--
Running a program is one of its runs, and its history is replayed in the world.
-/
theorem Shows.exists_runs
    {view : State → World}
    {handle : (effect : Effect Time) → State → effect.Reply × State}
    (shows : Shows answers view handle)
    (program : Program Time Result)
    (state : State) :
    ∃ history, program.Runs history (program.run handle state).1 ∧
      Replays answers (view state) history (view (program.run handle state).2) := by
  induction program generalizing state with
  | done outcome =>
      exact ⟨[], .refl _, .nil _⟩
  | perform effect resume inductionHypothesis =>
      obtain ⟨history, runs, replays⟩ :=
        inductionHypothesis (handle effect state).1 (handle effect state).2
      refine ⟨_, .perform (handle effect state).1 runs, ?_⟩
      by_cases silent : effect.Silent
      · rw [Effect.exchanges_of_silent silent, ← shows.others effect state silent]
        exact replays
      · obtain ⟨request, rfl⟩ := Effect.eq_call_of_not_silent silent
        exact .cons (shows.calls request state) replays

end PolicyReconciler.Program

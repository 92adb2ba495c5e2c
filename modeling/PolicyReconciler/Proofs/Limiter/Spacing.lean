import PolicyReconciler.Proofs.Limiter.Orderly
import PolicyReconciler.Proofs.Limiter.Workers
import PolicyReconciler.Proofs.Reconcile.Stages

namespace PolicyReconciler

/-!
# Spacing of calls

The limiters space all calls of workers that share them, whatever the workers do.
Reconciles and runs make their calls only after turns, so over any number of them
each call starts at least one interval after the one before.
-/

open Program

section

variable {Index : Type} [DecidableEq Index]
variable {rates : Rates Rat}
variable {clock : Rat}
variable {tasks : Index → Program Rat Unit}
variable {record : List (Occurrence Index)}
variable {workers : Workers Index}

/-- A worker may always wait for its turn and then make its call. -/
theorem Reaches.limited
    {index : Index}
    {api : Api}
    {request : Call}
    {rest : Except Fault Json → Program Rat Unit}
    (positive : ∀ api, 0 < rates.of api)
    (before : Reaches rates clock tasks record workers)
    (next : workers.remaining index =
      (Limiter.limited (rates.of api) api (call request)).followedBy rest)
    (answer : Except Fault Json) :
    Reaches rates clock tasks
      (record ++ [.admitted index api
        (workers.limiters.start (1 / rates.of api) api)
          (workers.limiters.pauses (1 / rates.of api) api),
        .called index request
          (some (api, workers.limiters.start (1 / rates.of api) api))])
      ((workers.step index (rest answer) none).withLimiters
        (workers.limiters.turn (1 / rates.of api) api)) := by
  rw [Limiter.limited_followedBy] at next
  have through := before.admitted next (Limiters.run_awaitTurn (positive api) _ api)
  have waits :
      Function.update workers.remaining index (perform (.call request) rest) index =
      perform (.call request) rest := Function.update_self index _ _
  have made := through.called waits answer
  simpa [Workers.step, Workers.withLimiters, Limiters.turn] using made

/-- A worker that has come through a limiter was given one of its starts. -/
theorem Reaches.mem_starts
    (reaches : Reaches rates clock tasks record workers) :
    (∀ index api start, workers.admission index = some (api, start) →
        start ∈ starts api record) ∧
      ∀ index request api start,
        .called index request (some (api, start)) ∈ record →
        start ∈ starts api record := by
  -- the two parts go together: a call is made under the admission that was open
  induction reaches with
  | opening =>
      exact ⟨by simp [Workers.opening], by simp⟩
  | moved before later inductionHypothesis =>
      simpa [starts_append, Workers.moved, Workers.withLimiters, starts]
        using inductionHypothesis
  | @performed record workers index effect resume before next free reply
        inductionHypothesis =>
      obtain ⟨admitted, called⟩ := inductionHypothesis
      refine ⟨?_, called⟩
      intro other api start through
      rcases Workers.admission_update through with ⟨_, ⟨⟩⟩ | ⟨_, before⟩
      exact admitted other api start before
  | @called record workers index request resume before next answer
        inductionHypothesis =>
      obtain ⟨admitted, called⟩ := inductionHypothesis
      have same : ∀ api, starts api
          (record ++ [.called index request (workers.admission index)]) =
          starts api record := by
        intro api
        rw [starts_append]
        exact List.append_nil _
      constructor
      · intro other api start through
        rw [same]
        rcases Workers.admission_update through with ⟨_, ⟨⟩⟩ | ⟨_, before⟩
        exact admitted other api start before
      · intro other request' api start inside
        rw [same]
        rcases List.mem_append.mp inside with earlier | now
        · exact called other request' api start earlier
        · obtain ⟨rfl, rfl, through⟩ : other = index ∧ request' = request ∧
              some (api, start) = workers.admission index := by simpa using now
          exact admitted other api start through.symm
  | @admitted record workers index api rest outcome limiters pauses before next turn
      inductionHypothesis =>
      obtain ⟨admitted, called⟩ := inductionHypothesis
      constructor
      · intro other service start through
        rw [starts_append, starts_admitted]
        rcases Workers.admission_update through with ⟨_, ⟨⟩⟩ | ⟨_, before⟩
        · simp
        · exact List.mem_append_left _ (admitted other service start before)
      · intro other request service start inside
        rw [starts_append]
        exact List.mem_append_left _
          (called other request service start (by simpa using inside))

/-- Each call of an orderly worker comes directly after its turn at the limiter. -/
theorem Reaches.ready
    {index : Index}
    (positive : ∀ api, 0 < rates.of api)
    (reaches : Reaches rates clock tasks record workers)
    (orderly : Orderly rates (tasks index)) :
    Ready rates (workers.admission index) (workers.remaining index) ∧
      ∀ request admission, .called index request admission ∈ record →
        ∃ api start, request.api? = some api ∧ admission = some (api, start) := by
  induction reaches with
  | opening =>
      exact ⟨.orderly orderly, by simp⟩
  | moved before later inductionHypothesis =>
      obtain ⟨ready, called⟩ := inductionHypothesis
      exact ⟨ready, by simpa using called⟩
  | @performed record workers other effect resume before next free reply
      inductionHypothesis =>
      obtain ⟨ready, called⟩ := inductionHypothesis
      refine ⟨?_, called⟩
      -- a move of another worker leaves this one's program where it was
      by_cases same : index = other
      · subst same
        rw [next] at ready
        simpa [Workers.step, Workers.withLimiters]
          using ready.performed positive free reply
      · simpa [Workers.step, Workers.withLimiters, same] using ready
  | @called record workers other request resume before next answer
        inductionHypothesis =>
      obtain ⟨ready, called⟩ := inductionHypothesis
      by_cases same : index = other
      · subst same
        rw [next] at ready
        obtain ⟨rested, through⟩ := ready.called positive answer
        refine ⟨by simpa [Workers.step, Workers.withLimiters] using rested, ?_⟩
        intro request' admission inside
        rcases List.mem_append.mp inside with earlier | now
        · exact called request' admission earlier
        · cases List.mem_singleton.mp now
          exact through
      · refine ⟨by simpa [Workers.step, Workers.withLimiters, same] using ready, ?_⟩
        simpa [same] using called
  | @admitted record workers other api rest outcome limiters pauses before next turn
      inductionHypothesis =>
      obtain ⟨ready, called⟩ := inductionHypothesis
      obtain ⟨rfl, rfl, rfl⟩ := eq_of_turn positive turn
      refine ⟨?_, by simpa using called⟩
      by_cases same : index = other
      · subst same
        rw [next] at ready
        simpa [Workers.step, Workers.withLimiters] using ready.turned positive _
      · simpa [Workers.step, Workers.withLimiters, same] using ready

end

/--
What a worker may be given to do: a program that is wrapped by limiters in any way,
or the operator's own work.
-/
inductive Assignment where
  | wrapped (program : Program Rat Unit)
  | reconcile (address : Address)
  | run (correlation record : Json) (address : Address)

namespace Assignment

/-- What a worker runs for an assignment. -/
def program (operator : Operator Rat) : Assignment → Program Rat Unit
  | wrapped program => program
  | reconcile address =>
      (Reconcile.reconcile operator address).followedBy fun _ => finish ()
  | run correlation record address =>
      Reconcile.runReconcile operator correlation record address

/-- Whether an assignment is the operator's own work. -/
def IsOwn : Assignment → Prop
  | wrapped _ => False
  | _ => True

/-- What an operator's own assignments run is orderly. -/
theorem orderly
    {operator : Operator Rat}
    {assignment : Assignment}
    (own : assignment.IsOwn) :
    Orderly operator.rates (assignment.program operator) := by
  cases assignment with
  | wrapped program =>
      exact own.elim
  | reconcile address =>
      exact (Composed.reconcile_ofTurns operator address).orderly.followedBy
        fun _ => .done _
  | run correlation record address =>
      exact (Composed.runReconcile_ofTurns operator correlation record
        address).orderly

end Assignment

/--
Whether the calls of workers are spaced as the rates ask, with no longer pauses than
needed.
-/
structure Spaced {Index : Type} (operator : Operator Rat) (clock : Rat)
    (assignments : Index → Assignment) (record : List (Occurrence Index))
    (workers : Workers Index) : Prop where
  /-- A limiter lets each call start at least one interval after the call before. -/
  starts : ∀ api, (starts api record).IsChain fun earlier later =>
    earlier + 1 / operator.rates.of api ≤ later
  /--
  The operator makes no call that the limiter of its service has not let through.
  -/
  admitted : ∀ index request admission, (assignments index).IsOwn →
    .called index request admission ∈ record →
    ∃ api start, request.api? = some api ∧ admission = some (api, start) ∧
      start ∈ PolicyReconciler.starts api record
  /--
  Any two calls of a service that were let through start at least one interval
  apart.
  -/
  calls : ∀ api, (callStarts api record).Pairwise (Apart (operator.rates.of api))
  positive : ∀ api, ∀ pause ∈ pausesOf api record, 0 < pause
  /--
  While the clock does not go backwards, from zero on, no pause exceeds one
  interval.
  -/
  bounded : Forward record → 0 ≤ clock →
    ∀ api, ∀ pause ∈ pausesOf api record, pause ≤ 1 / operator.rates.of api
  /--
  What is remembered of a service is the start of its own last call, and zero
  before.
  -/
  recorded : ∀ api, workers.limiters.last api =
    (PolicyReconciler.starts api record).getLast?.getD 0

/--
However workers take turns, whatever their programs do and however long it takes,
all of their calls are spaced by the limiters, as long as the rates are positive.
-/
theorem Reaches.calls_spaced
    {Index : Type} [DecidableEq Index]
    {operator : Operator Rat}
    {clock : Rat}
    {assignments : Index → Assignment}
    {record : List (Occurrence Index)}
    {workers : Workers Index}
    (positive : ∀ api, 0 < operator.rates.of api)
    (reaches : Reaches operator.rates clock
      (fun index => (assignments index).program operator)
      record workers) :
    Spaced operator clock assignments record workers := by
  have sound := reaches.sound positive
  have separate := reaches.separate positive
  exact {
    starts := sound.spaced
    admitted := by
      intro index request admission own inside
      obtain ⟨api, start, served, rfl⟩ :=
        (reaches.ready positive (Assignment.orderly own)).2 request admission inside
      exact ⟨api, start, served, rfl,
        reaches.mem_starts.2 index request api start inside⟩
    calls := separate.called_apart
    positive := sound.positive
    bounded := fun forward late => (reaches.last_le_clock positive forward late).2
    recorded := sound.recorded
  }

/-! ## Reads of a gateway's record -/

/-- The call that reads the gateway's record. -/
def gatewayRead : Call :=
  PolicyStore.readCall Reconcile.gatewayOperator Reconcile.gatewayAddress

/-- A read of a record that is not part of a reconcile. -/
def gatewayReading : Program Rat Unit :=
  (Limiter.limited (Reconcile.gatewayOperator.rates.of .kubernetes) .kubernetes
    (call gatewayRead)).followedBy fun _ => finish ()

/-- A worker that reads a record, and one that reconciles it. -/
def gatewayAssignments : Bool → Assignment
  | true => .wrapped gatewayReading
  | false => .reconcile Reconcile.gatewayAddress

/--
The second read waits for the rest of the interval, part of which has gone by.
-/
def gatewayTurns : List (Occurrence Bool) :=
  [.admitted false .kubernetes 1000 [],
    .called false gatewayRead (some (.kubernetes, 1000)),
    .moved 1000 (1000 + 1 / 16),
    .admitted true .kubernetes (1000 + 1 / 8) [1 / 16],
    .called true gatewayRead (some (.kubernetes, 1000 + 1 / 8))]

/-- The gateway's operator has positive rates. -/
theorem gatewayRates_positive
    (api : Api) :
    0 < Reconcile.gatewayOperator.rates.of api := by
  cases api <;> norm_num [Reconcile.gatewayOperator, Rates.of]

/-- The reconcile of the gateway's policy begins with a read, which is timed. -/
theorem gatewayReconcile_begins :
    ∃ rest : Rat → Except Fault Json → Program Rat Unit,
      (gatewayAssignments false).program Reconcile.gatewayOperator =
        perform .readClock fun now =>
          (Limiter.limited (Reconcile.gatewayOperator.rates.of .kubernetes)
            .kubernetes
            (call gatewayRead)).followedBy (rest now) := by
  have pauses : (PolicyStore.readPauses : List (Pause Rat)) = _ :: _ := rfl
  simp only [gatewayAssignments, Assignment.program, Reconcile.reconcile,
    PolicyStore.get, pauses, PolicyStore.getWith, PolicyStore.attempt,
    PolicyStore.timed, readClock, Bind.bind, andThen, followedBy, finish, recover,
    ensuring, followedBy_followedBy]
  exact ⟨_, rfl⟩

/-- Two workers get to the end of their first calls. -/
theorem gatewayTurns_reached :
    ∃ workers, Reaches Reconcile.gatewayOperator.rates 1000
      (fun index => (gatewayAssignments index).program Reconcile.gatewayOperator)
      gatewayTurns workers := by
  let tasks (index : Bool) :=
    (gatewayAssignments index).program Reconcile.gatewayOperator
  obtain ⟨rest, begins⟩ := gatewayReconcile_begins
  have begun :
      Reaches Reconcile.gatewayOperator.rates 1000 tasks [] (.opening 1000 tasks) :=
    .opening
  have timed :=
    begun.performed
      (show (Workers.opening 1000 tasks).remaining false = _ from begins)
    trivial 1000
  have first := timed.limited gatewayRates_positive
    (show Workers.remaining _ false =
      (Limiter.limited (Reconcile.gatewayOperator.rates.of .kubernetes) .kubernetes
        (call gatewayRead)).followedBy (rest 1000) from rfl) (.ok .null)
  have second := (first.moved (1000 + 1 / 16)).limited gatewayRates_positive
    (show Workers.remaining _ true = gatewayReading from rfl) (.ok .null)
  apply Exists.intro
  convert second using 1
  norm_num [gatewayTurns, Workers.opening, Workers.moved, Workers.step,
    Workers.withLimiters, Limiters.start, Limiters.pauses, Limiters.turn,
    Reconcile.gatewayOperator, Rates.of]

theorem gatewayTurns_spaced :
    (∀ api, 0 < Reconcile.gatewayOperator.rates.of api) ∧
      ∃ workers,
        Reaches Reconcile.gatewayOperator.rates 1000
          (fun index =>
            (gatewayAssignments index).program Reconcile.gatewayOperator)
          gatewayTurns workers ∧
        Spaced Reconcile.gatewayOperator 1000 gatewayAssignments
          gatewayTurns workers := by
  obtain ⟨workers, reaches⟩ := gatewayTurns_reached
  exact ⟨gatewayRates_positive, workers, reaches,
    reaches.calls_spaced gatewayRates_positive⟩

/--
A clock that starts before zero makes the first call wait for more than an interval,
although it never goes backwards: before any call, one at zero is remembered.
-/
theorem pause_not_always_bounded :
    ¬ ∀ clock record workers,
      Reaches Reconcile.gatewayOperator.rates clock
        (fun index => (gatewayAssignments index).program Reconcile.gatewayOperator)
        record workers →
      Forward record →
      ∀ api, ∀ pause ∈ pausesOf api record,
        pause ≤ 1 / Reconcile.gatewayOperator.rates.of api := by
  intro bounded
  let tasks (index : Bool) :=
    (gatewayAssignments index).program Reconcile.gatewayOperator
  have begun :
      Reaches Reconcile.gatewayOperator.rates (-1) tasks [] (.opening (-1) tasks) :=
    .opening
  have first := begun.limited gatewayRates_positive
    (show (Workers.opening (-1) tasks).remaining true = gatewayReading from rfl)
      (.ok .null)
  have asked := bounded (-1) _ _ first (by simp [Forward]) .kubernetes (9 / 8) (by
    norm_num [pausesOf, Workers.opening, Limiters.pauses,
      Reconcile.gatewayOperator, Rates.of])
  norm_num [Reconcile.gatewayOperator, Rates.of] at asked

end PolicyReconciler

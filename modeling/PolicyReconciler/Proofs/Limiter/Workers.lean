import Mathlib.Data.List.Chain
import PolicyReconciler.Proofs.Limiter.Turn

namespace PolicyReconciler

/-!
# Workers that share the limiters

Workers take steps in any order, and whatever they do may take any time: between two
steps the clock moves as it likes, forwards or backwards.  Only a worker at a
limiter is not disturbed.  It waits for its turn while the others stand still, and
the call that it was let through for starts at once.

The record of such a run keeps the moves of the clock, the turns at the limiters and
the calls.  `Reaches` lists the records, and `Spaced` says what holds of them all.
-/

open Program

/-- Workers that share a clock, each with what it has still to do. -/
structure Workers (Index : Type) where
  limiters : Limiters
  remaining : Index → Program Rat Unit
  /--
  The limiter that a worker has come through with its last step, and the start it
  was given.
  -/
  admission : Index → Option (Api × Rat)

/-- What is recorded of a run of workers. -/
inductive Occurrence (Index : Type) where
  | moved (earlier later : Rat)
  | admitted (index : Index) (api : Api) (start : Rat) (pauses : List Rat)
  | called (index : Index) (request : Call) (admission : Option (Api × Rat))

namespace Workers

variable {Index : Type}

/-- Workers at a clock of their own, before any call. -/
def opening (clock : Rat) (tasks : Index → Program Rat Unit) : Workers Index where
  limiters := ⟨clock, fun _ => 0⟩
  remaining := tasks
  admission := fun _ => none

/-- The same workers with other limiters. -/
def withLimiters (workers : Workers Index) (limiters : Limiters) : Workers Index :=
  { workers with limiters }

/-- The workers when the clock has moved. -/
def moved (workers : Workers Index) (clock : Rat) : Workers Index :=
  workers.withLimiters { workers.limiters with clock }

variable [DecidableEq Index]

/-- The workers after a step of one of them. -/
def step (workers : Workers Index) (index : Index) (rest : Program Rat Unit)
    (admission : Option (Api × Rat)) : Workers Index :=
  { workers with
    remaining := Function.update workers.remaining index rest
    admission := Function.update workers.admission index admission }

/--
Who has come through a limiter after a step: the worker that made it, or another
before.
-/
theorem admission_update
    {workers : Workers Index}
    {index other : Index}
    {admission : Option (Api × Rat)}
    {given : Api × Rat}
    (through :
      Function.update workers.admission index admission other = some given) :
    (other = index ∧ admission = some given) ∨
      (other ≠ index ∧ workers.admission other = some given) := by
  by_cases same : other = index
  · subst same
    rw [Function.update_self] at through
    exact .inl ⟨rfl, through⟩
  · rw [Function.update_of_ne same] at through
    exact .inr ⟨same, through⟩

end Workers

section

variable {Index : Type} [DecidableEq Index]

/-- The workers that tasks can lead to, with the record of how they got there. -/
inductive Reaches
    (rates : Rates Rat)
    (clock : Rat)
    (tasks : Index → Program Rat Unit) :
    List (Occurrence Index) → Workers Index → Prop where
  | opening :
      Reaches rates clock tasks [] (.opening clock tasks)
  | moved {record : List (Occurrence Index)} {workers : Workers Index}
      (before : Reaches rates clock tasks record workers)
      (later : Rat) :
      Reaches rates clock tasks (record ++ [.moved workers.limiters.clock later])
        (workers.moved later)
  | performed {record : List (Occurrence Index)}
        {workers : Workers Index} {index : Index}
      {effect : Effect Rat} {resume : effect.Reply → Program Rat Unit}
      (before : Reaches rates clock tasks record workers)
      (next : workers.remaining index = perform effect resume)
      (free : effect.Free)
      (reply : effect.Reply) :
      Reaches rates clock tasks record (workers.step index (resume reply) none)
  | called {record : List (Occurrence Index)}
        {workers : Workers Index} {index : Index}
      {request : Call} {resume : Except Fault Json → Program Rat Unit}
      (before : Reaches rates clock tasks record workers)
      (next : workers.remaining index = perform (.call request) resume)
      (answer : Except Fault Json) :
      Reaches rates clock tasks
        (record ++ [.called index request (workers.admission index)])
        (workers.step index (resume answer) none)
  | admitted {record : List (Occurrence Index)}
        {workers : Workers Index} {index : Index}
      {api : Api} {rest : Except Fault Unit → Program Rat Unit}
      {outcome : Except Fault Unit} {limiters : Limiters} {pauses : List Rat}
      (before : Reaches rates clock tasks record workers)
      (next : workers.remaining index =
        (Limiter.awaitTurn (rates.of api) api).followedBy rest)
      (turn : (Limiter.awaitTurn (rates.of api) api).run Limiters.handle
        (workers.limiters, []) = (outcome, limiters, pauses)) :
      Reaches rates clock tasks
        (record ++ [.admitted index api limiters.clock pauses])
        ((workers.step index (rest outcome)
          (some (api, limiters.clock))).withLimiters limiters)

/-! ## What is read off a record -/

/--
The starts of the calls that the limiter of a service has let through, in their
order.
-/
def starts (api : Api) (record : List (Occurrence Index)) : List Rat :=
  record.filterMap fun
    | .admitted _ other start _ => if other = api then some start else none
    | _ => none

/-- The pauses that the limiter of a service has asked for. -/
def pausesOf (api : Api) (record : List (Occurrence Index)) : List Rat :=
  record.flatMap fun
    | .admitted _ other _ pauses => if other = api then pauses else []
    | _ => []

/--
The starts of the calls that were made after a turn at the limiter of a service.
-/
def callStarts (api : Api) (record : List (Occurrence Index)) : List Rat :=
  record.filterMap fun
    | .called _ _ (some (other, start)) => if other = api then some start else none
    | _ => none

/-- Whether the clock never went backwards. -/
def Forward (record : List (Occurrence Index)) : Prop :=
  ∀ earlier later, .moved earlier later ∈ record → earlier ≤ later

omit [DecidableEq Index] in
theorem Forward.left
    {first second : List (Occurrence Index)}
    (forward : Forward (first ++ second)) :
    Forward first :=
  fun earlier later inside => forward earlier later (List.mem_append_left _ inside)

/-- Whether two calls at a rate start at least one interval apart. -/
def Apart (rate first second : Rat) : Prop :=
  first + 1 / rate ≤ second ∨ second + 1 / rate ≤ first

variable {rates : Rates Rat}
variable {clock : Rat}
variable {tasks : Index → Program Rat Unit}
variable {record : List (Occurrence Index)}
variable {workers : Workers Index}

/-- What a step of a worker at a limiter leaves, if all rates are positive. -/
theorem eq_of_turn
    {api : Api}
    {outcome : Except Fault Unit}
    {limiters after : Limiters}
    {pauses : List Rat}
    (positive : ∀ api, 0 < rates.of api)
    (turn :
      (Limiter.awaitTurn (rates.of api) api).run Limiters.handle (limiters, []) =
      (outcome, after, pauses)) :
    outcome = .ok () ∧ after = limiters.turn (1 / rates.of api) api ∧
      pauses = limiters.pauses (1 / rates.of api) api := by
  rw [Limiters.run_awaitTurn (positive api)] at turn
  cases turn
  exact ⟨rfl, rfl, rfl⟩

omit [DecidableEq Index] in
/-- The starts in a joined record are the joined starts. -/
theorem starts_append (api : Api) (first second : List (Occurrence Index)) :
    starts api (first ++ second) = starts api first ++ starts api second :=
  List.filterMap_append

omit [DecidableEq Index] in
/-- The pauses in a joined record are the joined pauses. -/
theorem pausesOf_append (api : Api) (first second : List (Occurrence Index)) :
    pausesOf api (first ++ second) = pausesOf api first ++ pausesOf api second :=
  List.flatMap_append

omit [DecidableEq Index] in
/-- The starts of calls in a joined record are the joined starts. -/
theorem callStarts_append (api : Api) (first second : List (Occurrence Index)) :
    callStarts api (first ++ second) =
      callStarts api first ++ callStarts api second :=
  List.filterMap_append

omit [DecidableEq Index] in
/-- An admission starts on its own interface only. -/
theorem starts_admitted
    (index : Index)
    (api other : Api)
    (start : Rat)
    (pauses : List Rat) :
    starts api [.admitted index other start pauses] = if other =
      api then [start] else [] := by
  by_cases same : other = api <;> simp [starts, same]

omit [DecidableEq Index] in
/-- An admission pauses on its own interface only. -/
theorem pausesOf_admitted
    (index : Index)
    (api other : Api)
    (start : Rat)
    (pauses : List Rat) :
    pausesOf api [.admitted index other start pauses] = if other =
      api then pauses else [] := by
  simp [pausesOf]

/-! ## Turns -/

/-- What holds of the turns at the limiters after any run. -/
structure Sound (rates : Rates Rat) (record : List (Occurrence Index))
    (workers : Workers Index) : Prop where
  /-- Each call of a service starts at least one interval after the one before. -/
  spaced : ∀ api, (starts api record).IsChain fun earlier later =>
    earlier + 1 / rates.of api ≤ later
  /-- What is remembered of a service is the start of its own last call. -/
  recorded : ∀ api, workers.limiters.last api = (starts api record).getLast?.getD 0
  positive : ∀ api, ∀ pause ∈ pausesOf api record, 0 < pause

namespace Sound

omit [DecidableEq Index] in
/-- A record that shows the same starts and pauses is as sound. -/
theorem of_same
    {record' : List (Occurrence Index)}
    {workers' : Workers Index}
    (sound : Sound rates record workers)
    (starts_eq : ∀ api, starts api record' = starts api record)
    (pauses_eq : ∀ api, pausesOf api record' = pausesOf api record)
    (last_eq : workers'.limiters.last = workers.limiters.last) :
    Sound rates record' workers' where
  spaced := by
    intro api
    rw [starts_eq]
    exact sound.spaced api
  recorded := by
    intro api
    rw [starts_eq, last_eq]
    exact sound.recorded api
  positive := by
    intro api
    rw [pauses_eq]
    exact sound.positive api

/-- A sound record stays sound over an admission. -/
theorem admitted
    {index : Index}
    {rest : Program Rat Unit}
    (sound : Sound rates record workers)
    (api : Api) :
    Sound rates
      (record ++ [.admitted index api
        (workers.limiters.start (1 / rates.of api) api)
        (workers.limiters.pauses (1 / rates.of api) api)])
      ((workers.step index rest
        (some (api, workers.limiters.start (1 / rates.of api) api))).withLimiters
          (workers.limiters.turn (1 / rates.of api) api)) where
  spaced := by
    intro other
    rw [starts_append, starts_admitted]
    by_cases same : api = other
    · subst same
      rw [if_pos rfl, List.isChain_append]
      refine ⟨sound.spaced api, List.isChain_singleton _, ?_⟩
      intro earlier isLast later isStart
      obtain rfl : workers.limiters.start (1 / rates.of api) api = later := by
        simpa using isStart
      -- what the limiter remembers is the last start, so the turn waits for it
      have remembered : workers.limiters.last api = earlier := by
        rw [sound.recorded api, Option.mem_def.mp isLast]
        rfl
      rw [← remembered]
      exact Limiters.le_start
    · rw [if_neg same, List.append_nil]
      exact sound.spaced other
  recorded := by
    intro other
    rw [starts_append, starts_admitted]
    by_cases same : api = other
    · subst same
      rw [if_pos rfl, List.getLast?_concat]
      exact Function.update_self api _ _
    · rw [if_neg same, List.append_nil, ← sound.recorded other]
      exact Function.update_of_ne (Ne.symm same) _ _
  positive := by
    intro other pause inside
    rw [pausesOf_append, pausesOf_admitted] at inside
    rcases List.mem_append.mp inside with before | asked
    · exact sound.positive other pause before
    · split at asked
      · exact Limiters.pauses_positive asked
      · cases asked

end Sound

/--
Calls through one limiter never touch what is remembered for the other service.
-/
theorem Limiters.turn_last_of_ne
    {limiters : Limiters}
    {interval : Rat}
    {api other : Api}
    (different : other ≠ api) :
    (limiters.turn interval api).last other = limiters.last other :=
  Function.update_of_ne different _ _

/-- Every record that workers reach is sound. -/
theorem Reaches.sound
    (positive : ∀ api, 0 < rates.of api)
    (reaches : Reaches rates clock tasks record workers) :
    Sound rates record workers := by
  induction reaches with
  | opening =>
      exact ⟨fun _ => .nil, fun _ => rfl, by simp [pausesOf]⟩
  | moved before later inductionHypothesis =>
      exact inductionHypothesis.of_same (by simp [starts]) (by simp [pausesOf]) rfl
  | performed before next free reply inductionHypothesis =>
      exact inductionHypothesis.of_same (fun _ => rfl) (fun _ => rfl) rfl
  | called before next answer inductionHypothesis =>
      exact inductionHypothesis.of_same (by simp [starts]) (by simp [pausesOf]) rfl
  | admitted before next turn inductionHypothesis =>
      obtain ⟨rfl, rfl, rfl⟩ := eq_of_turn positive turn
      exact inductionHypothesis.admitted _

/-- As long as the clock does not go backwards, it is not before the last calls. -/
theorem Reaches.last_le_clock
    (positive : ∀ api, 0 < rates.of api)
    (reaches : Reaches rates clock tasks record workers)
    (forward : Forward record)
    (late : 0 ≤ clock) :
    (∀ api, workers.limiters.last api ≤ workers.limiters.clock) ∧
      ∀ api, ∀ pause ∈ pausesOf api record, pause ≤ 1 / rates.of api := by
  induction reaches with
  | opening =>
      exact ⟨fun _ => late, by simp [pausesOf]⟩
  | @moved record workers before later inductionHypothesis =>
      obtain ⟨past, bounded⟩ := inductionHypothesis forward.left
      have onward : workers.limiters.clock ≤ later := forward _ _ (by simp)
      refine ⟨fun api => (past api).trans onward, ?_⟩
      simpa [pausesOf] using bounded
  | performed before next free reply inductionHypothesis =>
      exact inductionHypothesis forward
  | called before next answer inductionHypothesis =>
      obtain ⟨past, bounded⟩ := inductionHypothesis forward.left
      exact ⟨past, by simpa [pausesOf] using bounded⟩
  | @admitted record workers index api rest outcome limiters pauses before next turn
      inductionHypothesis =>
      obtain ⟨past, bounded⟩ := inductionHypothesis forward.left
      obtain ⟨rfl, rfl, rfl⟩ := eq_of_turn positive turn
      constructor
      · intro other
        by_cases same : other = api
        · subst same
          exact (Function.update_self other _ _).le
        · exact (Limiters.turn_last_of_ne same).trans_le
            ((past other).trans Limiters.clock_le_start)
      · intro other pause inside
        rw [pausesOf_append, pausesOf_admitted] at inside
        rcases List.mem_append.mp inside with old | asked
        · exact bounded other pause old
        · split at asked
          · rename_i same
            subst same
            exact Limiters.pauses_bounded (past api) asked
          · cases asked

/-! ## Calls -/

/-- What holds of the calls that were let through, and of those about to be made. -/
structure Separate (rates : Rates Rat) (record : List (Occurrence Index))
    (workers : Workers Index) : Prop where
  admitted_le : ∀ index api start, workers.admission index = some (api, start) →
    start ≤ workers.limiters.last api
  called_le :
    ∀ api, ∀ start ∈ callStarts api record, start ≤ workers.limiters.last api
  admitted_apart : ∀ index other api start start', index ≠ other →
    workers.admission index = some (api, start) →
    workers.admission other = some (api, start') → Apart (rates.of api) start start'
  called_admitted : ∀ index api start, workers.admission index = some (api, start) →
    ∀ made ∈ callStarts api record, Apart (rates.of api) made start
  called_apart : ∀ api, (callStarts api record).Pairwise (Apart (rates.of api))

namespace Separate

/-- Separate workers stay separate over an effect without admission. -/
theorem performed
    {index : Index}
    {rest : Program Rat Unit}
    (separate : Separate rates record workers) :
    Separate rates record (workers.step index rest none) := by
  have kept : ∀ other api start,
      (workers.step index rest none).admission other = some (api, start) →
        workers.admission other = some (api, start) := by
    intro other api start admitted
    rcases Workers.admission_update admitted with ⟨_, ⟨⟩⟩ | ⟨_, before⟩
    exact before
  exact {
    admitted_le := fun other api start admitted =>
      separate.admitted_le other api start (kept _ _ _ admitted)
    called_le := separate.called_le
    admitted_apart :=
      fun first second api start start' different admitted admitted' =>
      separate.admitted_apart first second api start start' different
        (kept _ _ _ admitted)
        (kept _ _ _ admitted')
    called_admitted := fun other api start admitted =>
      separate.called_admitted other api start (kept _ _ _ admitted)
    called_apart := separate.called_apart
  }

/-- A call that is made joins those that were made before. -/
theorem called
    {index : Index}
    {request : Call}
    {rest : Program Rat Unit}
    (separate : Separate rates record workers) :
    Separate rates (record ++ [.called index request (workers.admission index)])
      (workers.step index rest none) := by
  -- the new call starts when it was let through, as all the others did
  have made : ∀ api,
      ∀ start ∈ callStarts api [.called index request (workers.admission index)],
      workers.admission index = some (api, start) := by
    intro api start inside
    cases admitted : workers.admission index with
    | none =>
        simp [callStarts, admitted] at inside
    | some admission =>
        obtain ⟨other, given⟩ := admission
        by_cases same : other = api <;> simp_all [callStarts]
  have single : ∀ api, (callStarts api
      [.called index request (workers.admission index)]).Pairwise
        (Apart (rates.of api)) := by
    intro api
    have short :
        (callStarts api [.called index request (workers.admission index)]).length ≤
        1 :=
      List.length_filterMap_le _ _
    match callStarts api [.called index request (workers.admission index)], short
      with
    | [], _ => exact .nil
    | [start], _ => exact List.pairwise_singleton _ _
  have cleared : Separate rates record (workers.step index rest none) :=
    separate.performed
  exact {
    admitted_le := cleared.admitted_le
    called_le := by
      intro api start inside
      rw [callStarts_append] at inside
      rcases List.mem_append.mp inside with before | now
      · exact separate.called_le api start before
      · exact separate.admitted_le index api start (made api start now)
    admitted_apart := cleared.admitted_apart
    called_admitted := by
      intro waiting api start admitted started inside
      rw [callStarts_append] at inside
      rcases Workers.admission_update admitted with ⟨_, ⟨⟩⟩ | ⟨different, admitted'⟩
      rcases List.mem_append.mp inside with before | now
      · exact separate.called_admitted waiting api start admitted' started before
      · exact separate.admitted_apart index waiting api started start different.symm
          (made api started now) admitted'
    called_apart := by
      intro api
      rw [callStarts_append, List.pairwise_append]
      exact ⟨separate.called_apart api, single api, fun started before start now =>
        separate.called_admitted index api start
          (made api start now) started before⟩
  }

omit [DecidableEq Index] in
/-- Separate workers stay separate while the clock moves. -/
theorem moved
    (separate : Separate rates record workers)
    (later : Rat) :
    Separate rates (record ++ [.moved workers.limiters.clock later])
      (workers.moved later) := by
  have same :
      ∀ api, callStarts api (record ++ [.moved workers.limiters.clock later]) =
      callStarts api record := by
    intro api
    rw [callStarts_append]
    exact List.append_nil _
  exact {
    admitted_le := separate.admitted_le
    called_le :=
      fun api start inside => separate.called_le api start (by rwa [same] at inside)
    admitted_apart := separate.admitted_apart
    called_admitted := fun index api start admitted made inside =>
      separate.called_admitted index api start admitted made
        (by rwa [same] at inside)
    called_apart := by
      intro api
      rw [same]
      exact separate.called_apart api
  }

/--
A call that is let through starts late enough after all that were let through
before.
-/
theorem admitted
    {index : Index}
    {api : Api}
    {rest : Program Rat Unit}
    {pauses : List Rat}
    (separate : Separate rates record workers)
    (positive : 0 < rates.of api) :
    Separate rates
      (record ++ [.admitted index api
        (workers.limiters.start (1 / rates.of api) api) pauses])
      ((workers.step index rest
        (some (api, workers.limiters.start (1 / rates.of api) api))).withLimiters
          (workers.limiters.turn (1 / rates.of api) api)) := by
  set interval := 1 / rates.of api with isInterval
  have spread : 0 < interval := one_div_pos.mpr positive
  -- whatever the limiter let through before is an interval away from this start
  have onward : ∀ time, time ≤ workers.limiters.last api →
      time + interval ≤ workers.limiters.start interval api :=
    fun time past => (add_le_add_left past interval).trans Limiters.le_start
  have same : ∀ other, callStarts other
      (record ++ [.admitted index api
        (workers.limiters.start interval api) pauses]) =
        callStarts other record := by
    intro other
    rw [callStarts_append]
    exact List.append_nil _
  have later : ∀ other time, time ≤ workers.limiters.last other →
      time ≤ (workers.limiters.turn interval api).last other := by
    intro other time past
    by_cases isApi : other = api
    · subst isApi
      have started := onward time past
      have remembered : (workers.limiters.turn interval other).last other =
          workers.limiters.start interval other := Function.update_self other _ _
      linarith
    · rwa [Limiters.turn_last_of_ne isApi]
  exact {
    admitted_le := by
      intro other service start admitted
      rcases Workers.admission_update admitted with ⟨rfl, ⟨⟩⟩ | ⟨_, before⟩
      · have remembered : (workers.limiters.turn interval api).last api =
            workers.limiters.start interval api := Function.update_self api _ _
        exact remembered.ge
      · exact later service start (separate.admitted_le other service start before)
    called_le := by
      intro service start inside
      rw [same] at inside
      exact later service start (separate.called_le service start inside)
    admitted_apart := by
      intro first second service start start' different admitted admitted'
      rcases Workers.admission_update admitted with ⟨rfl, ⟨⟩⟩ | ⟨_, before⟩ <;>
        rcases Workers.admission_update admitted' with ⟨rfl, isGiven⟩ | ⟨_, before'⟩
      · exact absurd rfl different
      · exact .inr (onward start' (separate.admitted_le _ _ _ before'))
      · cases isGiven
        exact .inl (onward start (separate.admitted_le _ _ _ before))
      · exact separate.admitted_apart _ _ _ _ _ different before before'
    called_admitted := by
      intro other service start admitted made inside
      rw [same] at inside
      rcases Workers.admission_update admitted with ⟨rfl, ⟨⟩⟩ | ⟨_, before⟩
      · exact .inl (onward made (separate.called_le _ made inside))
      · exact separate.called_admitted other service start before made inside
    called_apart := by
      intro service
      rw [same]
      exact separate.called_apart service
  }

end Separate

/-- All workers that are reached are separate. -/
theorem Reaches.separate
    (positive : ∀ api, 0 < rates.of api)
    (reaches : Reaches rates clock tasks record workers) :
    Separate rates record workers := by
  induction reaches with
  | opening =>
      exact ⟨by simp [Workers.opening], by simp [callStarts], by
        simp [Workers.opening], by simp [Workers.opening], fun _ => .nil⟩
  | moved before later inductionHypothesis =>
      exact inductionHypothesis.moved later
  | performed before next free reply inductionHypothesis =>
      exact inductionHypothesis.performed
  | called before next answer inductionHypothesis =>
      exact inductionHypothesis.called
  | admitted before next turn inductionHypothesis =>
      obtain ⟨rfl, rfl, rfl⟩ := eq_of_turn positive turn
      exact inductionHypothesis.admitted (positive _)

end

end PolicyReconciler

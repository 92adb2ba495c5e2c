import PolicyReconciler.Proofs.Program.Supply

namespace PolicyReconciler

/-!
# What programs take of a supply

`Program.Spends` says what a program takes of a supply of answers and what it does
for it, whatever surrounds it.  Of its effects only those are listed that tell of
attempts: calls, refusals, and pauses between attempts.  Waits for the turn of a
call are up to the clock, so they are only bounded.
-/

/-! ## Effects that tell of attempts -/

namespace Effect

variable {Time : Type}

/-- Whether an effect notes that the Kubernetes API has asked for fewer calls. -/
def isRefusal : Effect Time → Bool
  | .count (.rateLimitHits .kubernetes) => true
  | _ => false

/-- The length of a pause before another attempt, in seconds. -/
def backOff? : Effect Time → Option Nat
  | .pause (.seconds length) => some length
  | _ => none

/--
Whether an effect is a wait for the turn of a call; all other pauses are of whole
seconds.
-/
def isWait : Effect Time → Bool
  | .pause (.span _) => true
  | _ => false

/--
Whether an effect tells of attempts: a call, a refusal, or a pause before another
attempt.
-/
def tells (effect : Effect Time) : Bool :=
  effect.request?.isSome || effect.isRefusal || effect.backOff?.isSome

section Tells

variable {effect : Effect Time}

/-- Calls tell. -/
theorem tells_of_request (asks : effect.request?.isSome) : effect.tells = true := by
  simp [tells, asks]

/-- Counted refusals tell. -/
theorem tells_of_isRefusal
    (refused : effect.isRefusal = true) :
    effect.tells = true := by
  simp [tells, refused]

/-- Pauses before a further attempt tell. -/
theorem tells_of_backOff
    (pauses : effect.backOff?.isSome) :
    effect.tells = true := by
  simp [tells, pauses]

end Tells

@[simp] theorem request?_call (request : Call) :
    (call request : Effect Time).request? = some request :=
  rfl

end Effect

/--
The effects of a part of a run that tell of attempts, and a bound for its waits.
-/
structure Telling
    {Time : Type}
    (effects told : List (Effect Time))
    (waits : Nat) :
    Prop where
  told : effects.filter Effect.tells = told
  waits : effects.countP Effect.isWait ≤ waits

namespace Telling

variable {Time : Type}
variable {effects others told toldLater : List (Effect Time)}
variable {waits waitsLater : Nat}

theorem nil : Telling ([] : List (Effect Time)) [] 0 :=
  ⟨rfl, Nat.le_refl 0⟩

/-- Effects that are joined tell both of what they tell. -/
theorem append
    (first : Telling effects told waits)
    (second : Telling others toldLater waitsLater) :
    Telling (effects ++ others) (told ++ toldLater) (waits + waitsLater) where
  told := by rw [List.filter_append, first.told, second.told]
  waits := by
    rw [List.countP_append]
    exact Nat.add_le_add first.waits second.waits

/-- A single effect tells of itself at most. -/
theorem single (effect : Effect Time) :
    Telling [effect] ([effect].filter Effect.tells)
      ([effect].countP Effect.isWait) :=
  ⟨rfl, Nat.le_refl _⟩

/-- What only effects that tell show is shown by the told effects alone. -/
theorem filterMap_eq
    {Shown : Type}
    {shown : Effect Time → Option Shown}
    (telling : Telling effects told waits)
    (tells : ∀ effect, (shown effect).isSome → effect.tells = true) :
    effects.filterMap shown = told.filterMap shown := by
  rw [← telling.told, List.filterMap_filter]
  congr 1
  funext effect
  cases seen : shown effect with
  | none =>
      simp
  | some value =>
      rw [if_pos (tells effect (by rw [seen]; rfl))]

/-- What tells can be counted among the effects that are told. -/
theorem countP_eq
    {counted : Effect Time → Bool}
    (telling : Telling effects told waits)
    (tells : ∀ effect, counted effect = true → effect.tells = true) :
    effects.countP counted = told.countP counted := by
  rw [← telling.told, List.countP_filter]
  apply List.countP_congr
  intro effect _
  simpa using tells effect

end Telling

/-! ## Spending -/

namespace Program

variable {Time Result Other : Type}

/--
Whether a program that starts on a supply leaves the given rest of it and ends with
the given outcome, and on the way performs the given effects of those that tell of
attempts.
-/
def Spends
    (program : Program Time Result)
    (supply : Supply)
    (told : List (Effect Time))
    (waits : Nat) (left : Supply) (outcome : Except Fault Result) : Prop :=
  ∀ (State : Type) (surroundings : Surroundings Time State) (state : State)
    (earlier : List (Effect Time)),
    ∃ effects last,
      program.run (Supplied.handle surroundings) ⟨state, supply, earlier⟩ =
        (outcome, ⟨last, left, earlier ++ effects⟩) ∧
      Telling effects told waits

namespace Spends

variable {supply middle left : Supply}
variable {told toldLater : List (Effect Time)}
variable {waits waitsLater : Nat}
variable {outcome : Except Fault Result}

theorem done (supply : Supply) (outcome : Except Fault Result) :
    (Program.done outcome : Program Time Result).Spends supply [] 0
      supply outcome :=
  fun _ _ state _ => ⟨[], state, by rw [List.append_nil]; rfl, Telling.nil⟩

/-- Two programs spend what both spend. -/
theorem followedBy
    {program : Program Time Other}
    {reached : Except Fault Other}
    {next : Except Fault Other → Program Time Result}
    (first : program.Spends supply told waits middle reached)
    (second : (next reached).Spends middle toldLater waitsLater left outcome) :
    (program.followedBy next).Spends supply (told ++ toldLater)
      (waits + waitsLater) left
      outcome := by
  intro State surroundings state earlier
  obtain ⟨effects, between, ran, telling⟩ := first State surroundings state earlier
  obtain ⟨others, last, ranOn, tellingLater⟩ :=
    second State surroundings between (earlier ++ effects)
  refine ⟨effects ++ others, last, ?_, telling.append tellingLater⟩
  rw [run_followedBy, ran, ← List.append_assoc]
  exact ranOn

/-- A program spends no more if what follows it spends nothing. -/
theorem followedBy_quiet
    {program : Program Time Other}
    {reached : Except Fault Other}
    {next : Except Fault Other → Program Time Result}
    (first : program.Spends supply told waits middle reached)
    (second : (next reached).Spends middle [] 0 left outcome) :
    (program.followedBy next).Spends supply told waits left outcome := by
  have whole := first.followedBy second
  rwa [List.append_nil] at whole

section Bind

variable {program : Program Time Other}
variable {next : Other → Program Time Result}
variable {reached : Other}
variable {fault : Fault}

/-- A program that goes on spends what both parts spend. -/
theorem bind
    (first : program.Spends supply told waits middle (.ok reached))
    (second : (next reached).Spends middle toldLater waitsLater left outcome) :
    (program >>= next).Spends supply (told ++ toldLater)
      (waits + waitsLater) left outcome :=
  followedBy first second

theorem bind_quiet
    (first : program.Spends supply told waits middle (.ok reached))
    (second : (next reached).Spends middle [] 0 left outcome) :
    (program >>= next).Spends supply told waits left outcome :=
  followedBy_quiet first second

/-- A program that failed does not go on. -/
theorem bind_error
    (first : program.Spends supply told waits left (.error fault)) :
    (program >>= next).Spends supply told waits left (.error fault) :=
  followedBy_quiet first (done left (.error fault))

end Bind

section Recover

variable {program : Program Time Result}
variable {handler : Fault → Program Time Result}
variable {result : Result}
variable {fault : Fault}

/-- A program that did not fail needs no handler. -/
theorem recover_ok
    (first : program.Spends supply told waits left (.ok result)) :
    (program.recover handler).Spends supply told waits left (.ok result) :=
  followedBy_quiet first (done left (.ok result))

/-- A program that failed spends what its handler spends, too. -/
theorem recover_error
    (first : program.Spends supply told waits middle (.error fault))
    (second : (handler fault).Spends middle toldLater waitsLater left outcome) :
    (program.recover handler).Spends supply (told ++ toldLater)
      (waits + waitsLater) left
      outcome :=
  followedBy first second

theorem recover_error_quiet
    (first : program.Spends supply told waits middle (.error fault))
    (second : (handler fault).Spends middle [] 0 left outcome) :
    (program.recover handler).Spends supply told waits left outcome :=
  followedBy_quiet first second

end Recover

/-- An effect that is no call takes nothing of the supply. -/
theorem perform
    {effect : Effect Time}
    {resume : effect.Reply → Program Time Result}
    (silent : effect.Silent)
    (rest : ∀ reply, (resume reply).Spends supply told waits left outcome) :
    (Program.perform effect resume).Spends supply
      ([effect].filter Effect.tells ++ told)
      ([effect].countP Effect.isWait + waits) left outcome := by
  intro State surroundings state earlier
  obtain ⟨effects, last, ran, telling⟩ :=
    rest (surroundings effect state).1 State surroundings
    (surroundings effect state).2 (earlier ++ [effect])
  refine ⟨[effect] ++ effects, last, ?_, (Telling.single effect).append telling⟩
  rw [run, Supplied.handle_of_silent silent, ← List.append_assoc]
  exact ran

/-- An effect that neither tells of attempts nor waits goes unnoticed. -/
theorem unnoticed
    {effect : Effect Time}
    {resume : effect.Reply → Program Time Result}
    (silent : effect.Silent)
    (untold : effect.tells = false)
    (prompt : effect.isWait = false)
    (rest : ∀ reply, (resume reply).Spends supply told waits left outcome) :
    (Program.perform effect resume).Spends supply told waits left outcome := by
  simpa [untold, prompt] using perform silent rest

/-- An effect that tells is told first. -/
theorem telling
    {effect : Effect Time}
    {resume : effect.Reply → Program Time Result}
    (silent : effect.Silent)
    (tells : effect.tells = true)
    (prompt : effect.isWait = false)
    (rest : ∀ reply, (resume reply).Spends supply told waits left outcome) :
    (Program.perform effect resume).Spends supply (effect :: told) waits
      left outcome := by
  simpa [tells, prompt] using perform silent rest

/-- A pause for the limiter is one wait. -/
theorem waiting
    {length : Time}
    {resume : Unit → Program Time Result}
    (rest : (resume ()).Spends supply told waits left outcome) :
    (Program.perform (.pause (.span length)) resume).Spends supply told
      (waits + 1) left
      outcome := by
  rw [Nat.add_comm]
  exact perform trivial fun _ => rest

/-- A call takes the next answer. -/
theorem call (request : Call) (supply : Supply) :
    (Program.call request : Program Time Json).Spends supply
      [.call request] 0 supply.tail
      supply.head :=
  fun _ surroundings state _ =>
    ⟨[.call request], (surroundings (.call request) state).2, rfl, Telling.single _⟩

/-- A last program that only ends well keeps the outcome of the first. -/
theorem ensuring
    {program : Program Time Result}
    {last : Program Time Unit}
    (first : program.Spends supply told waits left outcome)
    (closes : last.Spends left [] 0 left (.ok ())) :
    (program.ensuring last).Spends supply told waits left outcome :=
  first.followedBy_quiet (followedBy_quiet closes (done left outcome))

/-- A bound on the waits may be raised. -/
theorem mono
    {program : Program Time Result}
    (first : program.Spends supply told waits left outcome)
    (fewer : waits ≤ waitsLater) :
    program.Spends supply told waitsLater left outcome := by
  intro State surroundings state earlier
  obtain ⟨effects, last, ran, telling⟩ := first State surroundings state earlier
  exact ⟨effects, last, ran, telling.told, Nat.le_trans telling.waits fewer⟩

end Spends

end Program

end PolicyReconciler

import Mathlib.Data.ENat.Lattice
import PolicyReconciler.Proofs.PolicyStore.Attempts
import PolicyReconciler.Proofs.Reconcile.Stages

namespace PolicyReconciler.PolicyStore

/-!
# Reads are bounded

However many answers in a row ask for fewer calls, a read follows at most three of
them by another attempt, after pauses of one, two and four seconds.  How it ends is
up to the last answer that it takes alone, and the next read starts anew.
-/

open Program

/-! ## Leading deferrals -/

section Deferrals

/--
How many answers ask for another attempt before the first that does not, if one does
not.
-/
noncomputable def deferrals (supply : Supply) : ℕ∞ :=
  ⨅ index ∈ {index : ℕ | deferred (supply.get index) = false}, (index : ℕ∞)

variable {supply : Supply}

/-- A bounded count stays within its bound. -/
theorem leading_le
    (bound : Nat)
    (supply : Supply) :
    leading bound supply ≤ bound := by
  induction bound generalizing supply with
  | zero =>
      exact Nat.le_refl 0
  | succ bound inductionHypothesis =>
      rw [leading]
      split
      · exact Nat.succ_le_succ (inductionHypothesis supply.tail)
      · exact Nat.zero_le _

/-- The answers that are counted all ask for another attempt. -/
theorem deferred_of_lt_leading
    {bound index : Nat}
    (counted : index < leading bound supply) :
    deferred (supply.get index) = true := by
  induction bound generalizing supply index with
  | zero =>
      cases counted
  | succ bound inductionHypothesis =>
      rw [leading] at counted
      split at counted
      · rename_i asks
        cases index with
        | zero =>
            exact asks
        | succ index =>
            have later : index < leading bound supply.tail :=
              Nat.lt_of_succ_lt_succ counted
            have asked : deferred (supply.tail.get index) = true :=
              inductionHypothesis later
            exact asked
      · cases counted

/-- The answer at which the count ends early does not ask for another attempt. -/
theorem final_of_leading_lt
    {bound : Nat}
    (early : leading bound supply < bound) :
    deferred (supply.get (leading bound supply)) = false := by
  induction bound generalizing supply with
  | zero =>
      cases early
  | succ bound inductionHypothesis =>
      rw [leading] at early ⊢
      split at early
      · rename_i asks
        rw [if_pos asks]
        have later : leading bound supply.tail < bound :=
          Nat.lt_of_succ_lt_succ early
        have ended := inductionHypothesis later
        exact ended
      · rename_i final
        rw [if_neg final]
        exact eq_false_of_ne_true final

/-- Counting up to a bound gives the number of leading deferrals, or the bound. -/
theorem cast_leading (bound : Nat) (supply : Supply) :
    (leading bound supply : ℕ∞) = min (deferrals supply) bound := by
  have counted : (leading bound supply : ℕ∞) ≤ deferrals supply := by
    refine le_iInf₂ fun index final => ?_
    by_contra before
    have asks := deferred_of_lt_leading (Nat.cast_lt.mp (not_le.mp before))
    exact Bool.false_ne_true (final.symm.trans asks)
  have bounded : (leading bound supply : ℕ∞) ≤ bound :=
    Nat.cast_le.mpr (leading_le bound supply)
  refine le_antisymm (le_min counted bounded) ?_
  rcases Nat.lt_or_ge (leading bound supply) bound with early | full
  · exact (min_le_left _ _).trans
      (iInf₂_le (leading bound supply) (final_of_leading_lt early))
  · exact (min_le_right _ _).trans (Nat.cast_le.mpr full)

/-- The bounded count of deferrals is their number, cut off at the bound. -/
theorem toNat_min_deferrals (bound : Nat) (supply : Supply) :
    (min (deferrals supply) bound).toNat = leading bound supply := by
  rw [← cast_leading, ENat.toNat_natCast]

end Deferrals

/-! ## What a read does -/

section Effects

variable {Time : Type}
variable {request : Call}

/-- A pause calls nothing. -/
theorem request_delay (next : Option Nat) (answer : Except Fault Json) :
    (delay next answer : List (Effect Time)).filterMap Effect.request? = [] := by
  unfold delay
  split
  · cases next <;> rfl
  · rfl

/-- A deferred answer asks for the next pause, if there is one. -/
theorem backOff_delay (next : Option Nat) (answer : Except Fault Json) :
    (delay next answer : List (Effect Time)).filterMap Effect.backOff? =
      if deferred answer then next.toList else [] := by
  unfold delay
  split
  · cases next <;> rfl
  · rfl

/-- A deferred answer is counted as one refusal. -/
theorem refusals_delay (next : Option Nat) (answer : Except Fault Json) :
    (delay next answer : List (Effect Time)).countP Effect.isRefusal =
      if deferred answer then 1 else 0 := by
  unfold delay
  split
  · cases next <;> rfl
  · rfl

/-- Every attempt makes the same call. -/
theorem request_readEffects (pauses : List Nat) (supply : Supply) :
    (readEffects request pauses supply : List (Effect Time)).filterMap
      Effect.request? =
      List.replicate (leading pauses.length supply + 1) request := by
  induction pauses generalizing supply with
  | nil =>
      rw [readEffects, List.filterMap_cons_some (Effect.request?_call request),
        request_delay]
      rfl
  | cons seconds rest inductionHypothesis =>
      rw [readEffects, List.cons_append,
        List.filterMap_cons_some (Effect.request?_call request),
          List.filterMap_append,
        request_delay, List.length_cons, leading]
      by_cases asks : deferred supply.head = true
      · simp only [if_pos asks]
        rw [inductionHypothesis]
        rfl
      · simp only [if_neg asks]
        rfl

/--
The pauses are taken in their order, one after each answer that asks for another
attempt.
-/
theorem backOff_readEffects (pauses : List Nat) (supply : Supply) :
    (readEffects request pauses supply : List (Effect Time)).filterMap
      Effect.backOff? =
      pauses.take (leading pauses.length supply) := by
  induction pauses generalizing supply with
  | nil =>
      rw [readEffects, List.filterMap_cons_none rfl, backOff_delay]
      exact ite_self []
  | cons seconds rest inductionHypothesis =>
      rw [readEffects, List.cons_append, List.filterMap_cons_none rfl,
        List.filterMap_append, backOff_delay, List.length_cons, leading]
      by_cases asks : deferred supply.head = true
      · simp only [if_pos asks]
        rw [inductionHypothesis]
        rfl
      · simp only [if_neg asks]
        rfl

/-- A refusal is noted even when there is no pause left to take. -/
theorem refusals_readEffects (pauses : List Nat) (supply : Supply) :
    (readEffects request pauses supply : List (Effect Time)).countP
      Effect.isRefusal =
      leading (pauses.length + 1) supply := by
  induction pauses generalizing supply with
  | nil =>
      rw [readEffects, List.countP_cons_of_neg Bool.false_ne_true, refusals_delay]
      rfl
  | cons seconds rest inductionHypothesis =>
      rw [readEffects, List.cons_append, List.countP_cons_of_neg Bool.false_ne_true,
        List.countP_append, refusals_delay, leading]
      by_cases asks : deferred supply.head = true
      · simp only [if_pos asks]
        rw [inductionHypothesis, List.length_cons, Nat.add_comm]
      · simp only [if_neg asks]
        rfl

end Effects

/-! ## Reads -/

variable {Time : Type} [TimeScale Time]
variable {operator : Operator Time}

/-- How often a read is repeated on a supply. -/
noncomputable def retries (supply : Supply) : Nat :=
  (min (deferrals supply) 3).toNat

/-- What a read does on a supply, what it leaves of it, and how it ends. -/
structure BoundedRead
    (operator : Operator Time)
    (address : Address)
    (supply : Supply)
    (effects : List (Effect Time))
    (left : Supply)
    (outcome : Except Fault (Option Policy)) :
    Prop where
  calls : effects.filterMap Effect.request? =
    List.replicate (retries supply + 1) (readCall operator address)
  pauses : effects.filterMap Effect.backOff? = [1, 2, 4].take (retries supply)
  /-- All other pauses are waits for the turn of a call. -/
  waits : effects.countP Effect.isWait ≤ retries supply + 1
  refusals : effects.countP Effect.isRefusal = (min (deferrals supply) 4).toNat
  left_eq : left = supply.drop (retries supply + 1)
  outcome_eq : outcome = readVerdict (supply.get (retries supply))

/-- A read pauses for one, two and four seconds. -/
theorem readPauses_eq : (readPauses : List (Pause Time)) = [1, 2, 4].map .seconds :=
  rfl

/-- A read ends, and is bounded, on every supply and in all surroundings. -/
theorem get_bounded
    (paced : TimeScale.isZero operator.rates.kubernetes = false)
    (address : Address)
    {State : Type}
    (surroundings : Surroundings Time State)
    (start : Supplied Time State) :
    ∃ effects last outcome,
      (get operator address).run (Supplied.handle surroundings) start =
        (outcome, last) ∧
      last.effects = start.effects ++ effects ∧
      BoundedRead operator address start.supply effects last.supply outcome := by
  obtain ⟨state, supply, earlier⟩ := start
  have spends := getWith_spends paced address [1, 2, 4] supply
  rw [← readPauses_eq] at spends
  obtain ⟨effects, last, ran, telling⟩ := spends State surroundings state earlier
  have repeated : leading [1, 2, 4].length supply = retries supply :=
    (toNat_min_deferrals 3 supply).symm
  refine ⟨effects, _, _, ran, rfl, ?_⟩
  exact
    { calls := by
        rw [telling.filterMap_eq fun _ =>
          Effect.tells_of_request, request_readEffects, repeated]
      pauses := by
        rw [telling.filterMap_eq fun _ =>
          Effect.tells_of_backOff, backOff_readEffects, repeated]
      waits := repeated ▸ telling.waits
      refusals := by
        rw [telling.countP_eq fun _ =>
          Effect.tells_of_isRefusal, refusals_readEffects]
        exact (toNat_min_deferrals 4 supply).symm
      left_eq := by rw [← repeated]
      outcome_eq := by rw [← repeated] }

/-! ## Reads in a row -/

/-- Read some records one after the other, and keep how each of the reads ended. -/
def getAll (operator : Operator Time) :
    List Address → Program Time (List (Except Fault (Option Policy)))
  | [] => finish []
  | address :: rest =>
      (get operator address).followedBy fun outcome => do
        let others ← getAll operator rest
        finish (outcome :: others)

/--
Reads that are bounded each by itself, on what the ones before have left of a
supply.
-/
inductive Successive (operator : Operator Time) :
    List Address → Supply → List (Effect Time) → Supply →
      List (Except Fault (Option Policy)) → Prop where
  | nil (supply : Supply) :
      Successive operator [] supply [] supply []
  | cons {address : Address} {rest : List Address} {supply middle left : Supply}
      {effects others : List (Effect Time)} {outcome : Except Fault (Option Policy)}
      {outcomes : List (Except Fault (Option Policy))}
      (first : BoundedRead operator address supply effects middle outcome)
      (later : Successive operator rest middle others left outcomes) :
      Successive operator (address :: rest) supply (effects ++ others) left
        (outcome :: outcomes)

/-- Every read in a row is bounded, whatever became of the reads before it. -/
theorem reads_bounded
    (operator : Operator Time)
    (paced : TimeScale.isZero operator.rates.kubernetes = false)
    (addresses : List Address)
    {State : Type}
    (surroundings : Surroundings Time State)
    (start : Supplied Time State) :
    ∃ effects last outcomes,
      (getAll operator addresses).run (Supplied.handle surroundings) start =
        (.ok outcomes, last) ∧
      last.effects = start.effects ++ effects ∧
      Successive operator addresses start.supply effects last.supply outcomes := by
  induction addresses generalizing start with
  | nil =>
      exact ⟨[], start, [], rfl, (List.append_nil _).symm, .nil start.supply⟩
  | cons address rest inductionHypothesis =>
      obtain ⟨effects, middle, outcome, ran, recorded, bounded⟩ :=
        get_bounded paced address surroundings start
      obtain ⟨others, last, outcomes, ranOn, recordedLater, successive⟩ :=
        inductionHypothesis middle
      refine ⟨effects ++ others, last, outcome :: outcomes, ?_, ?_,
        .cons bounded successive⟩
      · rw [getAll, run_followedBy, ran]
        change (Program.followedBy (getAll operator rest) _).run _ middle = _
        rw [run_followedBy, ranOn]
        rfl
      · rw [recordedLater, recorded, List.append_assoc]

/-- An answer with a status and nothing else. -/
def unsuccessful (status : Int) : Except Fault Json :=
  .error (.api ⟨.int status, .null, .null, .null⟩)

/-- The record of a gateway after two refusals, and no record ever after. -/
def gatewaySupply : Supply :=
  [unsuccessful 429, unsuccessful 429,
    .ok (.obj (Reconcile.gatewayRecord "1" []))] ++ₛ
    Stream'.const (unsuccessful 404)

/-- The first read of a gateway is repeated twice, the second one not at all. -/
theorem gatewayReads_bounded :
    TimeScale.isZero Reconcile.gatewayOperator.rates.kubernetes = false ∧
      retries gatewaySupply = 2 ∧ retries (gatewaySupply.drop 3) = 0 ∧
      ∃ effects last outcomes,
        (getAll Reconcile.gatewayOperator
          [Reconcile.gatewayAddress, Reconcile.gatewayAddress]).run
            (Supplied.handle (.still 0))
            ⟨(), gatewaySupply, []⟩ = (.ok outcomes, last) ∧
        last.effects = [] ++ effects ∧
        Successive Reconcile.gatewayOperator
          [Reconcile.gatewayAddress, Reconcile.gatewayAddress] gatewaySupply
            effects last.supply
          outcomes :=
  ⟨by decide, (toNat_min_deferrals 3 _).trans (by decide),
    (toNat_min_deferrals 3 _).trans (by decide),
    reads_bounded Reconcile.gatewayOperator (by decide)
      [Reconcile.gatewayAddress, Reconcile.gatewayAddress] (.still 0)
        ⟨(), gatewaySupply, []⟩⟩

end PolicyReconciler.PolicyStore

import PolicyReconciler.Proofs.Cluster.Invariant

namespace PolicyReconciler.Cluster

/-!
# Moves and histories

The history of an ongoing reconcile is what its moves exchanged, in order.  Every
move was made in a cluster that the moves before it had led to.
-/

open Program Policy Reconcile

variable {Time Cloud : Type} [TimeScale Time]
variable {operator : Operator Time}
variable {serves : Service Cloud}
variable {allows : Cluster Time Cloud → Move → Prop}
variable {moves : List Move}
variable {cluster next : Cluster Time Cloud}
variable {index : Nat}

/-- What a move exchanges for the reconcile at an index. -/
def Move.exchangeOf (index : Nat) : Move → Option Exchange
  | .exchanged other exchange => if other = index then some exchange else none
  | .replaced other replacement =>
      if other = index then some replacement.exchange else none
  | _ => none

/--
A move that exchanges anything but the replacement of a record has no other effect.
-/
theorem Move.eq_exchanged
    {move : Move}
    {exchange : Exchange}
    (made : move.exchangeOf index = some exchange)
    (spared : ¬ Writes exchange.call) :
    move = .exchanged index exchange := by
  unfold exchangeOf at made
  split at made
  · split at made
    · rename_i same
      cases made
      rw [same]
    · cases made
  · split at made
    · cases made
      exact absurd ⟨_, _, _, rfl⟩ spared
    · cases made
  · cases made

/-- A replacement that is answered with success is a move that takes effect. -/
theorem Step.exists_replaced_of_write
    {move : Move}
    {target : Address}
    {body timeout answer : Json}
    (step : Step operator serves cluster move next)
    (made : move.exchangeOf index =
      some ⟨.replaceRecord target body timeout, .ok answer⟩) :
    ∃ replacement, move = .replaced index replacement ∧
      replacement.exchange = ⟨.replaceRecord target body timeout, .ok answer⟩ := by
  cases step with
  | exchanged ongoing performs answered =>
      simp only [Move.exchangeOf] at made
      split at made
      · cases made
        obtain ⟨_, _, impossible⟩ := answered
        cases impossible
      · cases made
  | @replaced _ _ replacement _ ongoing performs stored current fresh =>
      simp only [Move.exchangeOf] at made
      split at made
      · rename_i same
        exact ⟨replacement, by rw [same], Option.some.inj made⟩
      · cases made
  | began | passed | stored | removed =>
      cases made

/-- The history of the reconcile at an index, empty if there is none. -/
def historyOf (cluster : Cluster Time Cloud) (index : Nat) : History :=
  match cluster.runs[index]? with
  | some run => run.history
  | none => []

omit [TimeScale Time] in
/-- The history of a run is the one it keeps. -/
theorem historyOf_of_ongoing
    {run : Ongoing Time}
    (ongoing : cluster.runs[index]? = some run) :
    cluster.historyOf index = run.history := by
  unfold historyOf
  rw [ongoing]

omit [TimeScale Time] in
/-- A resumed run has gone through its exchanges, the others through nothing. -/
theorem historyOf_resume
    {run : Ongoing Time}
    {exchanges : History}
    {rest : Program Time (ReconcileResult Nat)}
    (ongoing : cluster.runs[index]? = some run)
    (other : Nat) :
    (cluster.resume index (run.advance exchanges rest)).historyOf other =
      cluster.historyOf other ++ if index = other then exchanges else [] := by
  by_cases same : index = other
  · subst same
    have bound := (List.getElem?_eq_some_iff.mp ongoing).1
    rw [historyOf_of_ongoing (resume_runs bound),
      historyOf_of_ongoing ongoing, if_pos rfl]
    rfl
  · rw [if_neg same, List.append_nil]
    unfold historyOf resume
    rw [List.getElem?_set_ne same]

/-- A step adds at most its own exchange to the history of a run. -/
theorem historyOf_step
    {move : Move}
    (step : Step operator serves cluster move next)
    (index : Nat) :
    next.historyOf index = cluster.historyOf index ++
      (move.exchangeOf index).toList := by
  cases step with
  | began address =>
      simp only [Move.exchangeOf, Option.toList_none, List.append_nil]
      unfold historyOf
      by_cases inside : index < cluster.runs.length
      · rw [List.getElem?_append_left inside]
      · rw [List.getElem?_append_right (Nat.le_of_not_lt inside),
          List.getElem?_eq_none (Nat.le_of_not_lt inside)]
        rcases Nat.eq_zero_or_pos (index - cluster.runs.length) with first | later
        · rw [first]
          rfl
        · rw [List.getElem?_eq_none later]
  | passed ongoing performs silent reply =>
      rw [historyOf_resume ongoing]
      simp [Move.exchangeOf]
  | @exchanged other run request answer cloud rest ongoing performs answered =>
      have unchanged :
          ({ cluster with cloud := cloud } : Cluster Time Cloud).runs[other]? =
          some run := ongoing
      rw [historyOf_resume unchanged]
      by_cases same : other = index
      · simp [Move.exchangeOf, same, historyOf]
      · simp [Move.exchangeOf, same, historyOf]
  | @replaced other run replacement rest ongoing performs stored current fresh =>
      have unchanged :
          (cluster.store replacement.address replacement.new).runs[other]? =
          some run := ongoing
      rw [historyOf_resume unchanged]
      by_cases same : other = index
      · simp [Move.exchangeOf, same, historyOf, Cluster.store]
      · simp [Move.exchangeOf, same, historyOf, Cluster.store]
  | stored own fresh =>
      simp [Move.exchangeOf, historyOf, Cluster.store]
  | removed address =>
      simp [Move.exchangeOf, historyOf, Cluster.remove]

/-- The history of a reconcile is what its moves exchanged. -/
theorem Reached.historyOf_eq
    (reached : Reached operator serves allows moves cluster)
    (index : Nat) :
    cluster.historyOf index = moves.filterMap (Move.exchangeOf index) := by
  induction reached with
  | initial fresh =>
      unfold historyOf
      rw [fresh.idle]
      rfl
  | step before allowed step inductionHypothesis =>
      rw [historyOf_step step, inductionHypothesis, List.filterMap_append]
      rfl

/-- What a reconcile has exchanged was exchanged by one of the moves. -/
theorem Reached.exists_move
    {run : Ongoing Time}
    {exchange : Exchange}
    (reached : Reached operator serves allows moves cluster)
    (ongoing : cluster.runs[index]? = some run)
    (inside : exchange ∈ run.history) :
    ∃ before move after, moves = before ++ move :: after ∧
      move.exchangeOf index = some exchange := by
  rw [← historyOf_of_ongoing ongoing, reached.historyOf_eq] at inside
  obtain ⟨move, member, exchanges⟩ := List.mem_filterMap.mp inside
  obtain ⟨before, after, split⟩ := List.append_of_mem member
  exact ⟨before, move, after, split, exchanges⟩

/-- A list splits where an entry of its filtered form stands. -/
theorem exists_split_of_filterMap
    {Entry Kept : Type}
    {entries : List Entry}
    {keep : Entry → Option Kept}
    {earlier later : List Kept}
    {kept : Kept}
    (filtered : entries.filterMap keep = earlier ++ kept :: later) :
    ∃ before entry after, entries = before ++ entry :: after ∧
      keep entry = some kept ∧
      after.filterMap keep = later := by
  obtain ⟨first, second, rfl, _, filtered⟩ :=
    List.filterMap_eq_append_iff.mp filtered
  obtain ⟨skipped, entry, after, rfl, _, isKept, rest⟩ :=
    List.filterMap_eq_cons_iff.mp filtered
  exact ⟨first ++ skipped, entry, after, by simp, isKept, rest⟩

/-- Every move was made where the moves before it had led to. -/
theorem Reached.exists_step
    {before after : List Move}
    {move : Move}
    (reached : Reached operator serves allows moves cluster)
    (split : moves = before ++ move :: after) :
    ∃ middle next, Reached operator serves allows before middle ∧
      allows middle move ∧ Step operator serves middle move next := by
  induction reached generalizing after with
  | initial fresh =>
      simp at split
  | @step earlier current following last reached' allowed step
        inductionHypothesis =>
      rcases List.eq_nil_or_concat after with rfl | ⟨shorter, final, rfl⟩
      · obtain ⟨rfl, same⟩ := List.append_inj' split rfl
        cases same
        exact ⟨current, following, reached', allowed, step⟩
      · rw [List.concat_eq_append, ← List.cons_append, ← List.append_assoc] at split
        obtain ⟨rfl, _⟩ := List.append_inj' split rfl
        exact inductionHypothesis rfl

/-- What changed no record was answered by a cluster on the way. -/
theorem Reached.exists_answered
    {run : Ongoing Time}
    {exchange : Exchange}
    (reached : Reached operator serves allows moves cluster)
    (inside : run ∈ cluster.runs)
    (made : exchange ∈ run.history)
    (spared : ¬ Writes exchange.call) :
    ∃ (current : Cluster Time Cloud) (cloud : Cloud),
      current.Answers serves exchange.call exchange.answer cloud := by
  obtain ⟨index, bound, rfl⟩ := List.getElem_of_mem inside
  obtain ⟨before, move, after, split, exchanges⟩ :=
    reached.exists_move (List.getElem?_eq_getElem bound) made
  obtain rfl := Move.eq_exchanged exchanges spared
  obtain ⟨middle, next, _, _, step⟩ := reached.exists_step split
  cases step with
  | exchanged ongoing performs answered =>
      exact ⟨middle, _, answered⟩

/-- What is reached with less is reached with more. -/
theorem Reached.mono
    {serves' : Service Cloud}
    {allows' : Cluster Time Cloud → Move → Prop}
    (reached : Reached operator serves allows moves cluster)
    (serving : ∀ before call answer after, serves before call answer after →
      serves' before call answer after)
    (allowing : ∀ current move, allows current move → allows' current move) :
    Reached operator serves' allows' moves cluster := by
  induction reached with
  | initial fresh =>
      exact .initial fresh
  | step before allowed step inductionHypothesis =>
      apply inductionHypothesis.step (allowing _ _ allowed)
      cases step with
      | began address =>
          exact .began address
      | passed ongoing performs silent reply =>
          exact .passed ongoing performs silent reply
      | @exchanged _ _ request _ _ _ ongoing performs answered =>
          refine .exchanged ongoing performs ?_
          cases request with
          | readRecord | replaceRecord =>
              exact answered
          | _ =>
              exact serving _ _ _ _ answered
      | replaced ongoing performs stored current fresh =>
          exact .replaced ongoing performs stored current fresh
      | stored own fresh =>
          exact .stored own fresh
      | removed address =>
          exact .removed address

/-- Where only reconciles of one record begin, all are of that record. -/
theorem Reached.runs_at
    {address : Address}
    {run : Ongoing Time}
    (reached : Reached operator serves allows moves cluster)
    (only : ∀ current other, allows current (.began other) → other = address)
    (inside : run ∈ cluster.runs) :
    run.address = address := by
  induction reached generalizing run with
  | initial fresh =>
      rw [fresh.idle] at inside
      cases inside
  | step before allowed step inductionHypothesis =>
      cases step with
      | began other =>
          rcases List.mem_append.mp inside with earlier | new
          · exact inductionHypothesis earlier
          · rw [List.mem_singleton.mp new]
            exact only _ other allowed
      | passed ongoing | exchanged ongoing | replaced ongoing =>
          rcases List.mem_or_eq_of_mem_set inside with earlier | rfl
          · exact inductionHypothesis earlier
          · have same := inductionHypothesis (List.mem_of_getElem? ongoing)
            exact same
      | stored | removed =>
          exact inductionHypothesis inside

/-- What holds after a move holds from then on, unless a later move breaks it. -/
theorem Reached.since
    {holds : Cluster Time Cloud → Prop}
    {breaks : Move → Prop}
    {before after : List Move}
    {move : Move}
    (reached : Reached operator serves allows moves cluster)
    (split : moves = before ++ move :: after)
    (starts : ∀ current next, Reached operator serves allows before current →
      Step operator serves current move next → holds next)
    (keeps :
      ∀ earlier current later next, Reached operator serves allows earlier current →
      allows current later → Step operator serves current later next →
        holds current →
      holds next ∨ breaks later) :
    holds cluster ∨ ∃ later ∈ after, breaks later := by
  induction reached generalizing after with
  | initial fresh =>
      simp at split
  | @step earlier current following last reached' allowed step
        inductionHypothesis =>
      rcases List.eq_nil_or_concat after with rfl | ⟨shorter, final, rfl⟩
      · obtain ⟨rfl, same⟩ := List.append_inj' split rfl
        cases same
        exact .inl (starts current following reached' step)
      · rw [List.concat_eq_append, ← List.cons_append, ← List.append_assoc] at split
        obtain ⟨rfl, same⟩ := List.append_inj' split rfl
        cases same
        rw [List.concat_eq_append]
        rcases inductionHypothesis rfl with held | ⟨later, inside, broken⟩
        · rcases keeps _ current _ following reached' allowed step held
            with held | broken
          · exact .inl held
          · exact .inr ⟨_, List.mem_append_right _ List.mem_cons_self, broken⟩
        · exact .inr ⟨later, List.mem_append_left _ inside, broken⟩

end PolicyReconciler.Cluster

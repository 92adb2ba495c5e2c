import PolicyReconciler.Proofs.VpcLattice.Lookup

namespace PolicyReconciler.VpcLattice

/-!
# Lookups in fixed listings

Where the pages of a listing are fixed, reading it gives what the pages hold,
however many others read it at the same time.  A lookup in it finds the same
resource each time, unless it fails.
-/

open Program

variable {Time : Type} [TimeScale Time]
variable {operator : Operator Time}

/-- The pages of the listings, by their tokens. -/
abbrev Pages := ResourceKind → Option Json → Json

/-- What the pages of a listing hold, from the one with a token on. -/
def listed
    (pages : Option Json → Json) :
    Nat → Option Json → Except Fault (List Json)
  | 0, _ => .error (.runtime "listing has too many pages")
  | limit + 1, token =>
      (pageItems (pages token)).bind fun items =>
        match nextToken? (pages token) with
        | none => .ok items
        | some next => (listed pages limit (some next)).map (items ++ ·)

/-- What a lookup in the listings finds for a target. -/
def found
    (operator : Operator Time)
    (pages : Pages)
    (kind : ResourceKind)
    (target : TargetRef)
    (recordNamespace : Json) : Except Fault (Option Json) :=
  (soughtName kind target recordNamespace).bind fun name =>
    (listed (pages kind) operator.pageLimit none).bind (firstNamed? name)

/-- Whether an exchange shows a page of the listings, if it shows one at all. -/
def ShowsPage (pages : Pages) (exchange : Exchange) : Prop :=
  ∀ kind token page, exchange.call = .listPage kind token →
    exchange.answer = .ok page →
    page = pages kind token

/--
Whether a fault keeps calls to the service from being made, or answers one of some
calls.
-/
def Fails (operator : Operator Time) (calls : History) (fault : Fault) : Prop :=
  Limiter.turn operator.rates.lattice = .error fault ∨
    ∃ exchange ∈ calls, exchange.answer = .error fault

theorem Fails.cons
    {exchange : Exchange}
    {calls : History}
    {fault : Fault}
    (fails : Fails operator calls fault) :
    Fails operator (exchange :: calls) fault := by
  rcases fails with halted | ⟨failed, inside, same⟩
  · exact .inl halted
  · exact .inr ⟨failed, List.mem_cons_of_mem _ inside, same⟩

/-- A listing gives what its pages hold, unless it fails. -/
theorem Listing.eq_listed_or_fails
    {pages : Pages}
    {kind : ResourceKind}
    {limit : Nat}
    {token : Option Json}
    {calls : History}
    {result : Except Fault (List Json)}
    (listing : Listing operator kind limit token calls result)
    (shown : ∀ exchange ∈ calls, ShowsPage pages exchange) :
    result = listed (pages kind) limit token ∨
      ∃ fault, result = .error fault ∧ Fails operator calls fault := by
  induction listing with
  | tooLong token =>
      exact .inl rfl
  | stalled token halted =>
      exact .inr ⟨_, rfl, .inl halted⟩
  | refused token fault =>
      exact .inr ⟨fault, rfl, .inr ⟨_, List.mem_singleton_self _, rfl⟩⟩
  | malformed token unread =>
      obtain rfl := shown _ (List.mem_singleton_self _) kind token _ rfl rfl
      left
      rw [listed, unread]
      rfl
  | last token read ended =>
      obtain rfl := shown _ (List.mem_singleton_self _) kind token _ rfl rfl
      left
      rw [listed, read, ended]
      rfl
  | @onward limit token page next items calls others read more later
        inductionHypothesis =>
      obtain rfl := shown _ List.mem_cons_self kind token _ rfl rfl
      have rest := inductionHypothesis fun exchange inside =>
        shown exchange (List.mem_cons_of_mem _ inside)
      rcases rest with rfl | ⟨fault, rfl, fails⟩
      · left
        rw [listed, read, more]
        rfl
      · exact .inr ⟨fault, rfl, fails.cons⟩

/-- A lookup finds what the listings hold for the target, unless it fails. -/
theorem Resolution.eq_found_or_fails
    {pages : Pages}
    {kind : ResourceKind}
    {target : TargetRef}
    {recordNamespace : Json}
    {calls : History}
    {result : Except Fault (Option Json)}
    (resolution : Resolution operator kind target recordNamespace calls result)
    (shown : ∀ exchange ∈ calls, ShowsPage pages exchange) :
    result = found operator pages kind target recordNamespace ∨
      ∃ fault, result = .error fault ∧ Fails operator calls fault := by
  cases resolution with
  | unnamed nameless =>
      left
      rw [found, nameless]
      rfl
  | listed named listing =>
      rcases listing.eq_listed_or_fails shown with rfl | ⟨fault, rfl, fails⟩
      · left
        rw [found, named]
        rfl
      · exact .inr ⟨fault, rfl, fails⟩

/-- A lookup that has found a resource or nothing has not failed. -/
theorem Resolution.eq_found_of_ok
    {pages : Pages}
    {kind : ResourceKind}
    {target : TargetRef}
    {recordNamespace : Json}
    {calls : History}
    {picked : Option Json}
    (resolution :
      Resolution operator kind target recordNamespace calls (.ok picked))
    (shown : ∀ exchange ∈ calls, ShowsPage pages exchange) :
    found operator pages kind target recordNamespace = .ok picked := by
  rcases resolution.eq_found_or_fails shown with same | ⟨_, impossible, _⟩
  · exact same.symm
  · cases impossible

end PolicyReconciler.VpcLattice

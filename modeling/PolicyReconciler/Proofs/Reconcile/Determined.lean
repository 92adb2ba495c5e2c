import PolicyReconciler.Proofs.Reconcile.Calls

namespace PolicyReconciler

/-!
# What the exchanges of a reconcile determine

The answers decide what a reconcile reads and finds: two readings with the same
exchanges have the same result, and so have two lookups.  As reads, list calls and
later calls differ, the exchanges of a whole reconcile tell where each stage ends.
-/

open Program VpcLattice PolicyStore

variable {Time : Type} [TimeScale Time]
variable {operator : Operator Time}

/--
Two ways to split a list agree where the first parts have what the second parts
lack.
-/
theorem append_inj_of_forall
    {Item : Type}
    {first second first' second' : List Item}
    (has : Item → Prop)
    (same : first ++ second = first' ++ second')
    (inFirst : ∀ item ∈ first, has item)
    (inFirst' : ∀ item ∈ first', has item)
    (notInSecond : ∀ item ∈ second, ¬ has item)
    (notInSecond' : ∀ item ∈ second', ¬ has item) :
    first = first' ∧ second = second' := by
  induction first generalizing first' with
  | nil =>
      cases first' with
      | nil =>
          exact ⟨rfl, same⟩
      | cons item rest =>
          rw [List.nil_append] at same
          have member : item ∈ second := by
            rw [same]
            exact List.mem_cons_self
          exact absurd (inFirst' item List.mem_cons_self) (notInSecond item member)
  | cons item rest inductionHypothesis =>
      cases first' with
      | nil =>
          rw [List.nil_append] at same
          have member : item ∈ second' := by
            rw [← same]
            exact List.mem_cons_self
          exact absurd (inFirst item List.mem_cons_self) (notInSecond' item member)
      | cons item' rest' =>
          injection same with isHead sameRest
          obtain ⟨rfl, rfl⟩ := inductionHypothesis sameRest
            (fun other inside => inFirst other (List.mem_cons_of_mem _ inside))
            (fun other inside => inFirst' other (List.mem_cons_of_mem _ inside))
          exact ⟨by rw [isHead], rfl⟩

/-! ## Readings and lookups -/

/-- The answers to a read decide what it comes to. -/
theorem PolicyStore.Reading.unique
    {address : Address}
    {retries : Nat}
    {calls : History}
    {first second : Except Fault (Option Policy)}
    (reading : Reading operator address retries calls first)
    (again : Reading operator address retries calls second) :
    first = second := by
  induction reading with
  | stalled retries halted =>
      cases again with
      | stalled _ halted' =>
          rw [halted] at halted'
          cases halted'
          rfl
  | found retries fit =>
      cases again with
      | found _ fit' =>
          rw [fit] at fit'
          cases fit'
          rfl
      | malformed _ unfit =>
          rw [fit] at unfit
          cases unfit
  | malformed retries unfit =>
      cases again with
      | found _ fit =>
          rw [unfit] at fit
          cases fit
      | malformed _ unfit' =>
          rw [unfit] at unfit'
          cases unfit'
          rfl
  | missing retries gone =>
      cases again with
      | missing _ _ =>
          rfl
      | refused _ kept _ =>
          exact absurd gone kept
      | again kept _ _ =>
          exact absurd gone kept
  | refused retries kept final =>
      cases again with
      | missing _ gone =>
          exact absurd gone kept
      | refused _ _ _ =>
          rfl
      | again _ busy _ =>
          cases final busy
  | again kept busy later inductionHypothesis =>
      cases again with
      | missing _ gone =>
          exact absurd gone kept
      | refused _ _ final =>
          cases final busy
      | again _ _ later' =>
          exact inductionHypothesis later'

namespace VpcLattice

/-- The answers to a listing decide what it comes to. -/
theorem Listing.unique
    {kind : ResourceKind}
    {pages : Nat}
    {token : Option Json}
    {calls : History}
    {first second : Except Fault (List Json)}
    (listing : Listing operator kind pages token calls first)
    (again : Listing operator kind pages token calls second) :
    first = second := by
  induction listing generalizing second with
  | tooLong token =>
      cases again
      rfl
  | stalled token halted =>
      cases again with
      | stalled _ halted' =>
          rw [halted] at halted'
          cases halted'
          rfl
  | refused token fault =>
      cases again
      rfl
  | malformed token unread =>
      cases again with
      | malformed _ unread' =>
          rw [unread] at unread'
          cases unread'
          rfl
      | last _ read _ | onward _ read _ _ =>
          rw [unread] at read
          cases read
  | last token read ended =>
      cases again with
      | malformed _ unread =>
          rw [read] at unread
          cases unread
      | last _ read' _ =>
          rw [read] at read'
          cases read'
          rfl
      | onward _ _ more _ =>
          rw [ended] at more
          cases more
  | onward token read more rest inductionHypothesis =>
      cases again with
      | malformed _ unread =>
          rw [read] at unread
          cases unread
      | last _ _ ended =>
          rw [more] at ended
          cases ended
      | onward _ read' more' rest' =>
          rw [read] at read'
          rw [more] at more'
          cases read'
          cases more'
          rw [inductionHypothesis rest']

/-- The answers to a lookup decide what it comes to. -/
theorem Resolution.unique
    {kind : ResourceKind}
    {target : TargetRef}
    {recordNamespace : Json}
    {calls : History}
    {first second : Except Fault (Option Json)}
    (resolution : Resolution operator kind target recordNamespace calls first)
    (again : Resolution operator kind target recordNamespace calls second) :
    first = second := by
  cases resolution with
  | unnamed nameless =>
      cases again with
      | unnamed nameless' =>
          rw [nameless] at nameless'
          cases nameless'
          rfl
      | listed named _ =>
          rw [nameless] at named
          cases named
  | listed named listing =>
      cases again with
      | unnamed nameless =>
          rw [named] at nameless
          cases nameless
      | listed named' listing' =>
          rw [named] at named'
          cases named'
          rw [listing.unique listing']

end VpcLattice

/-! ## Faults that ask for another attempt -/

/-- Whether a fault asks for another attempt, by itself or for want of a target. -/
def Fault.AsksAgain : Fault → Prop
  | temporary .. => True
  | dependencyNotFound .. => True
  | _ => False

/-- Whether no answer is a fault that asks for another attempt. -/
def Unasking (history : History) : Prop :=
  ∀ exchange ∈ history, ∀ fault, exchange.answer = .error fault → ¬ fault.AsksAgain

/-- Whether an outcome does not fail with a fault that asks for another attempt. -/
def FailsUnasking {Result : Type} (outcome : Except Fault Result) : Prop :=
  ∀ fault, outcome = .error fault → ¬ fault.AsksAgain

/-- An unfit fault asks for no second try. -/
theorem Fault.Unfit.not_asksAgain
    {fault : Fault}
    (unfit : fault.Unfit) :
    ¬ fault.AsksAgain := by
  cases unfit <;> exact id

/-- A turn that fails asks for no second try. -/
theorem Limiter.not_asksAgain_of_turn
    {rate : Time}
    {fault : Fault}
    (halted : turn rate = .error fault) :
    ¬ fault.AsksAgain := by
  obtain rfl := turn_error halted
  exact id

namespace FailsUnasking

variable {Result Other : Type}

theorem ok (result : Result) : FailsUnasking (.ok result) := by
  rintro fault ⟨⟩

theorem error
    {fault : Fault}
    (plain : ¬ fault.AsksAgain) :
    FailsUnasking (.error fault : Except Fault Result) := by
  rintro _ ⟨⟩
  exact plain

theorem bind
    {outcome : Except Fault Result}
    {next : Result → Except Fault Other}
    (first : FailsUnasking outcome)
    (rest : ∀ result, FailsUnasking (next result)) :
    FailsUnasking (outcome.bind next) := by
  cases outcome with
  | error fault =>
      exact error (first fault rfl)
  | ok result =>
      exact rest result

theorem map
    {outcome : Except Fault Result}
    (convert : Result → Other)
    (first : FailsUnasking outcome) :
    FailsUnasking (outcome.map convert) := by
  cases outcome with
  | error fault =>
      exact error (first fault rfl)
  | ok result =>
      exact ok (convert result)

end FailsUnasking

/-- The later part of an unasking history is unasking. -/
theorem Unasking.right
    {first second : History}
    (plain : Unasking (first ++ second)) :
    Unasking second :=
  fun exchange inside => plain exchange (List.mem_append_right _ inside)

/-- A read fails without asking again unless an answer did. -/
theorem PolicyStore.Reading.failsUnasking
    {address : Address}
    {retries : Nat}
    {calls : History}
    {result : Except Fault (Option Policy)}
    (reading : Reading operator address retries calls result)
    (plain : Unasking calls) :
    FailsUnasking result := by
  induction reading with
  | stalled retries halted =>
      exact .error (Limiter.not_asksAgain_of_turn halted)
  | found retries fit =>
      exact .ok _
  | malformed retries unfit =>
      exact .error (Policy.ofRecord_failsUnfit _ _ unfit).not_asksAgain
  | missing retries gone =>
      exact .ok _
  | refused retries kept final =>
      exact .error (plain _ List.mem_cons_self _ rfl)
  | again kept busy later inductionHypothesis =>
      exact inductionHypothesis fun exchange inside =>
        plain exchange (List.mem_cons_of_mem _ inside)

/-- A write-back fails without asking again unless an answer did. -/
theorem PolicyStore.WriteBack.failsUnasking
    {policy : Policy}
    {calls : History}
    {result : Except Fault Unit}
    (write : WriteBack operator policy calls result)
    (plain : Unasking calls) :
    FailsUnasking result := by
  cases write with
  | stalled halted =>
      exact .error (Limiter.not_asksAgain_of_turn halted)
  | answered answer =>
      cases answer with
      | ok body =>
          exact .ok ()
      | error fault =>
          have asked := plain _ (List.mem_singleton_self _) fault rfl
          cases fault with
          | api response =>
              unfold writeVerdict
              dsimp only
              split <;> exact .error id
          | _ =>
              exact .error asked

namespace VpcLattice

/-- Reading the items of a page fails only as unfit. -/
theorem pageItems_failsUnfit (page : Json) : FailsUnfit (pageItems page) := by
  cases page with
  | obj members =>
      exact Json.entries_failsUnfit _
  | null | bool | int | float | str | arr =>
      exact .error (.wrongShape _)

/-- A listing fails without asking again unless an answer did. -/
theorem Listing.failsUnasking
    {kind : ResourceKind}
    {pages : Nat}
    {token : Option Json}
    {calls : History}
    {result : Except Fault (List Json)}
    (listing : Listing operator kind pages token calls result)
    (plain : Unasking calls) :
    FailsUnasking result := by
  induction listing with
  | tooLong token =>
      exact .error id
  | stalled token halted =>
      exact .error (Limiter.not_asksAgain_of_turn halted)
  | refused token fault =>
      exact .error (plain _ (List.mem_singleton_self _) fault rfl)
  | malformed token unread =>
      exact .error (pageItems_failsUnfit _ _ unread).not_asksAgain
  | last token read ended =>
      exact .ok _
  | onward token read more rest inductionHypothesis =>
      exact (inductionHypothesis fun exchange inside =>
        plain exchange (List.mem_cons_of_mem _ inside)).map _

theorem firstNamed?_failsUnasking (name : Json) (items : List Json) :
    FailsUnasking (firstNamed? name items) := by
  induction items with
  | nil =>
      exact .ok _
  | cons item rest inductionHypothesis =>
      cases item with
      | obj members =>
          unfold firstNamed?
          split
          · split
            · exact .ok _
            · exact .error id
          · exact inductionHypothesis
      | null | bool | int | float | str | arr =>
          exact .error id

/-- A name that cannot be made up is unfit. -/
theorem soughtName_failsUnfit
    (kind : ResourceKind)
    (target : TargetRef)
    (recordNamespace : Json) :
    FailsUnfit (soughtName kind target recordNamespace) := by
  have beginnings : ∀ length value, FailsUnfit (beginning length value) := by
    intro length value
    cases value <;> first | exact .ok _ | exact .error (.wrongUse _)
  cases kind with
  | serviceNetwork =>
      exact .ok _
  | service =>
      exact ((beginnings _ _).bind fun front => (beginnings _ _).bind fun back =>
        .ok _).map _

/-- A lookup fails without asking again unless an answer did. -/
theorem Resolution.failsUnasking
    {kind : ResourceKind}
    {target : TargetRef}
    {recordNamespace : Json}
    {calls : History}
    {result : Except Fault (Option Json)}
    (resolution : Resolution operator kind target recordNamespace calls result)
    (plain : Unasking calls) :
    FailsUnasking result := by
  cases resolution with
  | unnamed nameless =>
      exact .error (soughtName_failsUnfit _ _ _ _ nameless).not_asksAgain
  | listed named listing =>
      exact (listing.failsUnasking plain).bind fun items =>
        firstNamed?_failsUnasking _ items

theorem resourceKindOf_failsUnfit
    (identifier : Json) :
    FailsUnfit (resourceKindOf identifier) := by
  cases identifier with
  | str text =>
      unfold resourceKindOf
      dsimp only
      split_ifs <;> first | exact .ok _ | exact .error (.badValue _)
  | null | bool | int | float | arr | obj =>
      exact .error (.wrongShape _)

/-- The verdict on a change asks again only if its answer did. -/
theorem verdict_failsUnasking
    {call : Call}
    {answer : Except Fault Json}
    (plain : FailsUnasking answer) :
    FailsUnasking (verdict call answer) := by
  cases answer with
  | ok body =>
      cases call with
      | putAuthPolicy =>
          cases body <;> first | exact .ok _ | exact .error id
      | _ =>
          exact .ok ()
  | error fault =>
      cases call with
      | deleteAuthPolicy =>
          unfold verdict
          dsimp only
          split
          · exact .ok ()
          · exact .error (plain fault rfl)
      | _ =>
          exact .error (plain fault rfl)

/-- A plan fails without asking again unless an answer did. -/
theorem Carried.failsUnasking
    {plan : Plan}
    {calls : History}
    {result : Except Fault Unit}
    (carried : Carried operator plan calls result)
    (steps : ∀ step ∈ plan, FailsUnfit step)
    (plain : Unasking calls) :
    FailsUnasking result := by
  induction carried with
  | complete =>
      exact .ok ()
  | impossible =>
      exact .error (steps _ List.mem_cons_self _ rfl).not_asksAgain
  | stalled halted =>
      exact .error (Limiter.not_asksAgain_of_turn halted)
  | failed refused =>
      rw [← refused]
      exact verdict_failsUnasking (plain _ (List.mem_singleton_self _))
  | onward taken later inductionHypothesis =>
      exact inductionHypothesis
        (fun step inside => steps step (List.mem_cons_of_mem _ inside))
        fun exchange inside => plain exchange (List.mem_cons_of_mem _ inside)

end VpcLattice

/-- The steps of a plan fail only as unfit. -/
theorem Reconcile.plan_failsUnfit (policy : Policy) (identifier : Json) :
    ∀ step ∈ Reconcile.plan policy identifier, FailsUnfit step := by
  have changes : ∀ authType, FailsUnfit (typeChange identifier authType) :=
    fun authType => (resourceKindOf_failsUnfit identifier).map _
  intro step planned
  unfold Reconcile.plan at planned
  split at planned
  · rcases List.mem_cons.mp planned with rfl | later
    · exact .ok _
    · obtain rfl := List.mem_singleton.mp later
      exact changes _
  · rcases List.mem_cons.mp planned with rfl | later
    · exact changes _
    · obtain rfl := List.mem_singleton.mp later
      exact .ok _

end PolicyReconciler

import Mathlib.Data.List.Forall2
import PolicyReconciler.VpcLattice.AuthState
import PolicyReconciler.Proofs.VpcLattice.Lookup

namespace PolicyReconciler.VpcLattice

/-!
# Changes of the auth state

A pipeline changes a resource by a few calls in a fixed order, and the first one
that fails ends it.  A plan lists the calls, or the fault that keeps one from
being made.  `Carried` says what carrying out a plan exchanges: some of its
calls from the beginning on, of which all but the last were taken.
-/

open Program

/--
How the answer to a change is taken; a policy that is already gone counts as
removed.
-/
def verdict : Call → Except Fault Json → Except Fault Unit
  | .putAuthPolicy .., .ok answer => (reportedState answer).map fun _ => ()
  | .deleteAuthPolicy _, .error fault =>
      if fault.hasServiceCode "ResourceNotFoundException" then
        .ok ()
      else
        .error fault
  | _, .ok _ => .ok ()
  | _, .error fault => .error fault

/--
The calls of a pipeline, each with the fault that keeps it from being made, if there
is one.
-/
abbrev Plan := List (Except Fault Call)

/-- The call that sets the auth type of the resource that an identifier names. -/
def typeChange (identifier authType : Json) : Except Fault Call :=
  (resourceKindOf identifier).map fun kind => .setAuthType kind identifier authType

/-- The calls that guard a resource: it is closed, then the policy is put. -/
def attachment (identifier document : Json) : Plan :=
  [typeChange identifier signedRequests, .ok (.putAuthPolicy identifier document)]

/-- The calls that open a resource: the policy is taken off, then it is opened. -/
def detachment (identifier : Json) : Plan :=
  [.ok (.deleteAuthPolicy identifier), typeChange identifier noAuth]

variable {Time Result : Type} [TimeScale Time]

/-- What carrying out a plan exchanges, and how it ends. -/
inductive Carried
    (operator : Operator Time) :
    Plan → History → Except Fault Unit → Prop where
  | complete :
      Carried operator [] [] (.ok ())
  | impossible {fault : Fault} {rest : Plan} :
      Carried operator (.error fault :: rest) [] (.error fault)
  | stalled {call : Call} {rest : Plan} {fault : Fault}
      (halted : Limiter.turn operator.rates.lattice = .error fault) :
      Carried operator (.ok call :: rest) [] (.error fault)
  | failed {call : Call} {rest : Plan} {answer : Except Fault Json} {fault : Fault}
      (refused : verdict call answer = .error fault) :
      Carried operator (.ok call :: rest) [⟨call, answer⟩] (.error fault)
  | onward {call : Call} {rest : Plan} {answer : Except Fault Json}
        {calls : History}
      {result : Except Fault Unit}
      (taken : verdict call answer = .ok ())
      (later : Carried operator rest calls result) :
      Carried operator (.ok call :: rest) (⟨call, answer⟩ :: calls) result

variable {operator : Operator Time}

namespace Carried

/-- The calls that were made stand at the beginning of the plan. -/
theorem calls_prefix
    {plan : Plan}
    {calls : History}
    {result : Except Fault Unit}
    (carried : Carried operator plan calls result) :
    calls.map (Except.ok ∘ Exchange.call) <+: plan := by
  induction carried with
  | complete =>
      exact List.nil_prefix
  | impossible =>
      exact List.nil_prefix
  | stalled halted =>
      exact List.nil_prefix
  | failed refused =>
      exact (List.prefix_append_right_inj [_]).mpr List.nil_prefix
  | onward taken later inductionHypothesis =>
      exact (List.prefix_append_right_inj [_]).mpr inductionHypothesis

/-- Every carried exchange is a step of the plan. -/
theorem mem_plan
    {plan : Plan}
    {calls : History}
    {result : Except Fault Unit}
    {exchange : Exchange}
    (carried : Carried operator plan calls result)
    (inside : exchange ∈ calls) :
    .ok exchange.call ∈ plan := by
  apply carried.calls_prefix.subset
  exact List.mem_map.mpr ⟨exchange, inside, rfl⟩

/--
A plan that was carried out to its end made all its calls, and each was taken.
-/
theorem complete_iff
    {plan : Plan}
    {calls : History} :
    Carried operator plan calls (.ok ()) ↔
      plan = calls.map (Except.ok ∘ Exchange.call) ∧
        ∀ exchange ∈ calls, verdict exchange.call exchange.answer = .ok () := by
  constructor
  · intro carried
    generalize ended : (.ok () : Except Fault Unit) = result at carried
    induction carried with
    | complete =>
        simp
    | impossible =>
        cases ended
    | stalled halted =>
        cases ended
    | failed refused =>
        cases ended
    | onward taken later inductionHypothesis =>
        obtain ⟨planned, all⟩ := inductionHypothesis ended
        exact ⟨by rw [planned]; rfl,
          List.forall_mem_cons.mpr ⟨taken.trans ended, all⟩⟩
  · rintro ⟨rfl, all⟩
    induction calls with
    | nil =>
        exact .complete
    | cons exchange rest inductionHypothesis =>
        obtain ⟨taken, others⟩ := List.forall_mem_cons.mp all
        exact .onward taken (inductionHypothesis others)

/-- A carried plan carries its first step, then the rest. -/
theorem cons_inv
    {step : Except Fault Call}
    {rest : Plan}
    {calls : History}
    (carried : Carried operator (step :: rest) calls (.ok ())) :
    ∃ call answer later, step = .ok call ∧ calls = ⟨call, answer⟩ :: later ∧
      verdict call answer = .ok () ∧ Carried operator rest later (.ok ()) := by
  cases carried with
  | onward taken later =>
      exact ⟨_, _, _, rfl, rfl, taken, later⟩

/-- An empty plan carries nothing. -/
theorem nil_inv
    {calls : History}
    {result : Except Fault Unit}
    (carried : Carried operator [] calls result) :
    calls = [] := by
  cases carried
  rfl

end Carried

/-- The answers that let the removal of a policy count as done. -/
def Removed (answer : Except Fault Json) : Prop :=
  (∃ body, answer = .ok body) ∨
    ∃ fault, answer = .error fault ∧
      fault.hasServiceCode "ResourceNotFoundException" = true

/-- A deletion that counts as done removed the policy or found none. -/
theorem removed_of_verdict
    {identifier : Json}
    {answer : Except Fault Json}
    (taken : verdict (.deleteAuthPolicy identifier) answer = .ok ()) :
    Removed answer := by
  cases answer with
  | ok body =>
      exact .inl ⟨body, rfl⟩
  | error fault =>
      unfold verdict at taken
      dsimp only at taken
      split at taken
      · rename_i gone
        exact .inr ⟨fault, rfl, gone⟩
      · cases taken

/-- A change of type that counts as done was accepted. -/
theorem exists_of_verdict_typeChange
    {kind : ResourceKind}
    {identifier authType : Json}
    {answer : Except Fault Json}
    (taken : verdict (.setAuthType kind identifier authType) answer = .ok ()) :
    ∃ body, answer = .ok body := by
  cases answer with
  | ok body =>
      exact ⟨body, rfl⟩
  | error fault =>
      cases taken

/-- A change of type is made by the identifier's kind. -/
theorem eq_of_typeChange_ok
    {identifier authType : Json}
    {call : Call}
    (named : typeChange identifier authType = .ok call) :
    ∃ kind, resourceKindOf identifier = .ok kind ∧
      call = .setAuthType kind identifier authType := by
  unfold typeChange at named
  cases found : resourceKindOf identifier with
  | error fault =>
      rw [found] at named
      cases named
  | ok kind =>
      rw [found] at named
      cases named
      exact ⟨kind, rfl, rfl⟩

/--
A detachment that was carried out removed the policy and then changed the auth type.
-/
theorem Carried.detachment_inv
    {identifier : Json}
    {calls : History}
    (carried : Carried operator (detachment identifier) calls (.ok ())) :
    ∃ kind removed answer, resourceKindOf identifier = .ok kind ∧
      calls = [⟨.deleteAuthPolicy identifier, removed⟩,
        ⟨.setAuthType kind identifier noAuth, .ok answer⟩] ∧
      Removed removed := by
  obtain ⟨removal, removed, later, isRemoval, rfl, taken, rest⟩ := carried.cons_inv
  obtain ⟨change, answer, last, isChange, rfl, changed, ended⟩ := rest.cons_inv
  cases isRemoval
  obtain ⟨kind, named, rfl⟩ := eq_of_typeChange_ok isChange
  obtain ⟨body, rfl⟩ := exists_of_verdict_typeChange changed
  rw [ended.nil_inv]
  exact ⟨kind, removed, body, named, rfl, removed_of_verdict taken⟩

/-! ## Operations as steps of a plan -/

/-- Whether an operation makes one planned call, and ends as the answer is taken. -/
def CarriesOut (operator : Operator Time) (step : Except Fault Call)
    (program : Program Time Unit) : Prop :=
  ∀ (permits : History → Call → Prop) (ends : History → Except Fault Unit → Prop)
    (past : History),
    (∀ fault, step = .error fault → ends past (.error fault)) →
    (∀ call fault, step = .ok call →
      Limiter.turn operator.rates.lattice = .error fault →
      ends past (.error fault)) →
    (∀ call, step = .ok call → permits past call) →
    (∀ call answer, step = .ok call →
      ends (past ++ [⟨call, answer⟩]) (verdict call answer)) →
    program.Meets permits ends past

variable {permits : History → Call → Prop}
variable {past : History}

omit [TimeScale Time] in
/-- Counting the outcome of a program changes nothing in what it meets. -/
theorem counted_meets
    {ends : History → Except Fault Result → Prop}
    {program : Program Time Result}
    (operation : AuthOperation)
    (inner : program.Meets permits ends past) :
    (counted operation program).Meets permits ends past := by
  apply Meets.followedBy
  apply inner.mono
  intro after outcome reached
  cases outcome with
  | ok result =>
      exact (Quietly.count _).meets_bind reached
  | error fault =>
      exact (Quietly.count _).meets_bind reached

/-- Changing the type carries out that step. -/
theorem changeAuthType_carriesOut (identifier authType : Json) :
    CarriesOut operator (typeChange identifier authType)
      (changeAuthType operator identifier authType) := by
  intro permits ends past impossible stalled permitted answered
  apply Meets.followedBy
  apply (Quietly.ofExcept _).meets
  cases named : resourceKindOf identifier with
  | error fault =>
      exact (Quietly.fail fault).meets
        (impossible fault (by rw [typeChange, named]; rfl))
  | ok kind =>
      have step : typeChange identifier authType =
          .ok (.setAuthType kind identifier authType) := by
        rw [typeChange, named]
        rfl
      apply reporting_meets
      apply Meets.followedBy
      apply invoke_meets
      · intro fault halted
        exact (Quietly.fail fault).meets (stalled _ fault step halted)
      · exact permitted _ step
      intro answer
      cases answer with
      | ok result =>
          exact (Quietly.finish ()).meets (answered _ (.ok result) step)
      | error fault =>
          exact (Quietly.fail fault).meets (answered _ (.error fault) step)

/-- A step that is counted, and followed by a line in the log, is the same step. -/
theorem CarriesOut.counted_logged
    {step : Except Fault Call}
    {program : Program Time Unit}
    (operation : AuthOperation)
    (source : LogSource)
    (line : String)
    (carries : CarriesOut operator step program) :
    CarriesOut operator step (do
      counted operation program
      log .info source line) := by
  intro permits ends past impossible stalled permitted answered
  apply Meets.followedBy
  apply counted_meets
  apply (carries permits ends past impossible stalled permitted answered).mono
  intro after outcome reached
  cases outcome with
  | ok _ =>
      exact (Quietly.log .info source line).meets reached
  | error fault =>
      exact (Quietly.fail fault).meets reached

theorem enableAuth_carriesOut (identifier : Json) :
    CarriesOut operator (typeChange identifier signedRequests)
      (enableAuth operator identifier) :=
  (changeAuthType_carriesOut identifier signedRequests).counted_logged _ _ _

theorem disableAuth_carriesOut (identifier : Json) :
    CarriesOut operator (typeChange identifier noAuth)
      (disableAuth operator identifier) :=
  (changeAuthType_carriesOut identifier noAuth).counted_logged _ _ _

/-- Attaching a policy is one step, which an answer that is no object fails. -/
theorem putPolicy_carriesOut (identifier document : Json) :
    CarriesOut operator (.ok (.putAuthPolicy identifier document))
      (putPolicy operator identifier document) := by
  intro permits ends past _ stalled permitted answered
  apply Meets.followedBy
  apply counted_meets
  apply reporting_meets
  apply invoke_meets
  · intro fault halted
    exact (Quietly.fail fault).meets (stalled _ fault rfl halted)
  · exact permitted _ rfl
  intro answer
  have taken := answered _ answer rfl
  cases answer with
  | error fault =>
      exact (Quietly.fail fault).meets taken
  | ok answer =>
      apply Meets.followedBy
      apply (Quietly.ofExcept _).meets
      dsimp only [verdict] at taken
      cases state : reportedState answer with
      | error fault =>
          rw [state] at taken
          exact (Quietly.fail fault).meets taken
      | ok state' =>
          rw [state] at taken
          exact (Quietly.log _ _ _).meets taken

/--
Removing a policy is one step, which a policy that is already gone does not fail.
-/
theorem deletePolicy_carriesOut (identifier : Json) :
    CarriesOut operator (.ok (.deleteAuthPolicy identifier))
      (deletePolicy operator identifier) := by
  intro permits ends past _ stalled permitted answered
  apply counted_meets
  apply Meets.followedBy
  apply reporting_meets
  apply Meets.followedBy
  apply invoke_meets
  · intro fault halted
    -- a stalled call is no answer of the service, so it does not count as removed
    obtain rfl := Limiter.turn_error halted
    exact (Quietly.fail _).meets ((Quietly.fail _).meets (stalled _ _ rfl halted))
  · exact permitted _ rfl
  intro answer
  have taken := answered _ answer rfl
  cases answer with
  | ok answer =>
      exact (Quietly.finish ()).meets ((Quietly.finish ()).meets taken)
  | error fault =>
      refine (Quietly.fail fault).meets ?_
      dsimp only [verdict] at taken ⊢
      split
      · rename_i gone
        rw [if_pos gone] at taken
        exact (Quietly.log _ _ _).meets taken
      · rename_i kept
        rw [if_neg kept] at taken
        exact (Quietly.fail fault).meets taken

/-! ## Operations in sequence -/

/-- Operations one after the other, and a last program. -/
def inSequence (programs : List (Program Time Unit)) (last : Program Time Result) :
    Program Time Result :=
  programs.foldr (fun program rest => program >>= fun _ => rest) last

/-- Operations that each make a step carry out the plan of their steps. -/
theorem inSequence_meets
    {plan : Plan}
    {programs : List (Program Time Unit)}
    {last : Program Time Result}
    {result : Result}
    {ends : History → Except Fault Result → Prop}
    (steps : List.Forall₂ (CarriesOut operator) plan programs)
    (closing : last.Quietly (.ok result))
    (permitted : ∀ made call rest calls, plan = made ++ .ok call :: rest →
      Carried operator made calls (.ok ()) → permits (past ++ calls) call)
    (ended : ∀ calls outcome, Carried operator plan calls outcome →
      ends (past ++ calls) (outcome.map fun _ => result)) :
    (inSequence programs last).Meets permits ends past := by
  induction steps generalizing past with
  | nil =>
      exact closing.meets (by simpa [Except.map] using ended [] _ .complete)
  | @cons step program rest programs carries _ inductionHypothesis =>
      apply Meets.followedBy
      apply carries
      · rintro fault rfl
        exact (Quietly.fail fault).meets
          (by simpa [Except.map] using ended [] _ .impossible)
      · rintro call fault rfl halted
        exact (Quietly.fail fault).meets
          (by simpa [Except.map] using ended [] _ (.stalled halted))
      · rintro call rfl
        simpa using permitted [] call rest [] rfl .complete
      · rintro call answer rfl
        cases taken : verdict call answer with
        | error fault =>
            exact (Quietly.fail fault).meets (ended _ _ (.failed taken))
        | ok _ =>
            apply inductionHypothesis
            · intro made next others calls planned carried
              rw [List.append_assoc]
              exact permitted (.ok call :: made) next others _
                (by rw [planned]; rfl)
                (.onward taken carried)
            · intro calls outcome carried
              rw [List.append_assoc]
              exact ended _ _ (.onward taken carried)

end PolicyReconciler.VpcLattice

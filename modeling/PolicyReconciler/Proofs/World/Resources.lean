import PolicyReconciler.Proofs.World.Stages

namespace PolicyReconciler.World

/-!
# Calls and resources

A call changes at most one part of the auth state of one resource, and it changes it
to what the call carries.  So the resources after a call that took effect follow
from the call alone.
-/

open Program Policy VpcLattice Reconcile PolicyStore

/-- What guards each resource. -/
abbrev Resources := Json → AuthState

open scoped Classical in
/-- The resources after a call that has taken effect. -/
noncomputable def applied (call : Call) (resources : Resources) : Resources :=
  match call with
  | .setAuthType _ identifier authType =>
      Function.update resources identifier ⟨authType, (resources identifier).policy⟩
  | .putAuthPolicy identifier document =>
      Function.update resources identifier
        ⟨(resources identifier).authType, some document⟩
  | .deleteAuthPolicy identifier =>
      Function.update resources identifier ⟨(resources identifier).authType, none⟩
  | _ => resources

variable {world after : World}
variable {resources : Resources}
variable {call : Call}
variable {answer : Except Fault Json}
variable {identifier : Json}

/--
A call that a world answers has taken effect on the resources or has left them.
-/
theorem Answers.applied_or_eq
    (answered : Answers world call answer after) :
    after.resources = applied call world.resources ∨
      after.resources = world.resources := by
  cases answered with
  | changed | attached | detached =>
      exact .inl rfl
  | _ =>
      exact .inr rfl

/-- The answer to the removal of a policy that counts as done leaves no policy. -/
theorem Answers.policy_eq_none
    (answered : Answers world (.deleteAuthPolicy identifier) answer after) :
    (after.resources identifier).policy = none := by
  obtain ⟨_, rfl⟩ := deleteAuthPolicy_taken answered
  rw [resources_setAuth_same]

/-- A change of the auth type that is answered with success has taken effect. -/
theorem Answers.authType_eq
    {kind : ResourceKind}
    {authType body : Json}
    (answered :
      Answers world (.setAuthType kind identifier authType) (.ok body) after) :
    (after.resources identifier).authType = authType := by
  cases answered with
  | changed answer named =>
      rw [resources_setAuth_same]

/-- Without a call that attaches one, a resource gets no policy. -/
theorem applied_policy
    (bare : (resources identifier).policy = none) :
    (applied call resources identifier).policy = none ∨
      ∃ document, call = .putAuthPolicy identifier document := by
  cases call with
  | setAuthType kind other authType | deleteAuthPolicy other =>
      by_cases same : identifier = other
      · subst same
        simp [applied, bare]
      · simp [applied, same, bare]
  | putAuthPolicy other document =>
      by_cases same : identifier = other
      · subst same
        exact .inr ⟨document, rfl⟩
      · simp [applied, same, bare]
  | _ =>
      exact .inl bare

/-- Without a call that changes it, a resource keeps its auth type. -/
theorem applied_authType
    (call : Call)
    (resources : Resources)
    (identifier : Json) :
    (applied call resources identifier).authType = (resources identifier).authType ∨
      ∃ kind authType, call = .setAuthType kind identifier authType ∧
        (applied call resources identifier).authType = authType := by
  cases call with
  | setAuthType kind other authType =>
      by_cases same : identifier = other
      · subst same
        exact .inr ⟨kind, authType, rfl, by simp [applied]⟩
      · simp [applied, same]
  | putAuthPolicy other document | deleteAuthPolicy other =>
      by_cases same : identifier = other
      · subst same
        simp [applied]
      · simp [applied, same]
  | _ =>
      exact .inl rfl

end PolicyReconciler.World

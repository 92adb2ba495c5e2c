import PolicyReconciler.Policy.Basic

namespace PolicyReconciler.Policy

/-!
# Finalizers

The operator's finalizer keeps a record from being removed until the policy
has been cleaned up.  The gate adds it to a live policy and removes it from one
that is being deleted; the change is kept in memory until the record is
written back.
-/

/-- The finalizer that the operator holds a record by. -/
def operatorFinalizer : Json :=
  .str "iamauthpolicy.k8s.aws/resources"

/-- Does a policy carry a finalizer? -/
def hasFinalizer (policy : Policy) (finalizer : Json) : Bool :=
  policy.finalizers.any fun entry => entry.alike finalizer

/-- Add a finalizer at the end unless the policy carries it. -/
def addFinalizer (policy : Policy) (finalizer : Json) : Policy :=
  if policy.hasFinalizer finalizer then
    policy
  else
    { policy with finalizers := policy.finalizers ++ [finalizer] }

/-- Remove every occurrence of a finalizer. -/
def removeFinalizer (policy : Policy) (finalizer : Json) : Policy :=
  { policy with
    finalizers := policy.finalizers.filter fun entry => !entry.alike finalizer }

/-- Bring the operator's finalizer to the state that deletion calls for. -/
def gate (policy : Policy) : Policy :=
  if policy.deletionRequested then
    policy.removeFinalizer operatorFinalizer
  else
    policy.addFinalizer operatorFinalizer

end PolicyReconciler.Policy

import PolicyReconciler.Proofs.VpcLattice.Pages
import PolicyReconciler.Proofs.Reconcile.Course

namespace PolicyReconciler.Reconcile

/-!
# Targets in fixed listings

Where the listings are fixed, a policy has at most one resource, and every reconcile
that gets past its lookup has found it.
-/

open Program VpcLattice

variable {Time : Type} [TimeScale Time]
variable {operator : Operator Time}
variable {pages : Pages}

/-- Whether the listings hold a resource for the target of a policy. -/
def Targets
    (operator : Operator Time)
    (pages : Pages)
    (policy : Policy)
    (identifier : Json) : Prop :=
  ∃ kind : TargetKind, policy.target.kind = .str kind.text ∧
    found operator pages (resourceKind kind) policy.target policy.recordNamespace =
      .ok (some identifier)

variable {policy : Policy}
variable {identifier other : Json}

omit [TimeScale Time] in
/-- The pages decide which resource a policy targets. -/
theorem Targets.unique
    (first : Targets operator pages policy identifier)
    (second : Targets operator pages policy other) :
    identifier = other := by
  obtain ⟨kind, supported, finds⟩ := first
  obtain ⟨kind', supported', finds'⟩ := second
  obtain rfl := eq_of_text supported supported'
  rw [finds] at finds'
  injection finds' with same
  exact Option.some.inj same

/-- A lookup on the pages finds the resource that the policy targets. -/
theorem targets_of_lookup
    {kind : TargetKind}
    {lookups : History}
    (supported : policy.target.kind = .str kind.text)
    (lookup : TargetLookup operator kind policy lookups (.ok (some identifier)))
    (shown : ∀ exchange ∈ lookups, ShowsPage pages exchange) :
    Targets operator pages policy identifier :=
  ⟨kind, supported, lookup.eq_found_of_ok shown⟩

end PolicyReconciler.Reconcile

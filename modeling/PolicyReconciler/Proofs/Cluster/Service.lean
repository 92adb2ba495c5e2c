import PolicyReconciler.Proofs.Cluster.Trace
import PolicyReconciler.Proofs.Reconcile.Target
import PolicyReconciler.Proofs.World.Resources

namespace PolicyReconciler.Cluster

/-!
# Services that keep resources

The Lattice service keeps the auth state of every resource and shows fixed listings.
A faulty one may also fail a call, before or after the call has taken effect, but it
never reports a policy as gone that is there.
-/

open Program Policy VpcLattice Reconcile PolicyStore World

/-- The service that answers as a world with fixed listings does. -/
def lattice (pages : Pages) : Service Resources :=
  fun before call answer after =>
    ∃ world, World.Answers ⟨before, pages, fun _ => none⟩ call answer world ∧
      world.resources = after

/-- Whether a fault does not report the policy of a resource as gone. -/
def Plain (call : Call) (fault : Fault) : Prop :=
  ∀ identifier, call = .deleteAuthPolicy identifier →
    fault.hasServiceCode "ResourceNotFoundException" = false

/-- A service any of whose calls may fail. -/
inductive Faulty {Cloud : Type} (serves : Service Cloud) : Service Cloud where
  | served {before after : Cloud} {call : Call} {answer : Except Fault Json}
      (answered : serves before call answer after) :
      Faulty serves before call answer after
  | failed {before : Cloud} {call : Call} {fault : Fault}
      (plain : Plain call fault) :
      Faulty serves before call (.error fault) before
  /-- The call takes effect, but its answer is lost. -/
  | lost {before after : Cloud} {call : Call}
        {answer : Except Fault Json} {fault : Fault}
      (answered : serves before call answer after)
      (plain : Plain call fault) :
      Faulty serves before call (.error fault) after

variable {pages : Pages}
variable {before after : Resources}
variable {call : Call}
variable {answer : Except Fault Json}
variable {identifier : Json}

/-- The service does what a call asks for, or nothing. -/
theorem lattice_applied_or_eq
    (served : lattice pages before call answer after) :
    after = applied call before ∨ after = before := by
  obtain ⟨world, answered, rfl⟩ := served
  exact answered.applied_or_eq

/-- The service answers a listing by its pages. -/
theorem lattice_showsPage
    (served : lattice pages before call answer after) :
    ShowsPage pages ⟨call, answer⟩ := by
  obtain ⟨world, answered, _⟩ := served
  exact answered.showsPage

/-- A faulty service, too, does what a call asks for, or nothing. -/
theorem faulty_applied_or_eq
    (served : Faulty (lattice pages) before call answer after) :
    after = applied call before ∨ after = before := by
  cases served with
  | served answered | lost answered =>
      exact lattice_applied_or_eq answered
  | failed =>
      exact .inr rfl

/-- A faulty service, too, answers a listing by its pages or not at all. -/
theorem faulty_showsPage
    (served : Faulty (lattice pages) before call answer after) :
    ShowsPage pages ⟨call, answer⟩ := by
  cases served with
  | served answered =>
      exact lattice_showsPage answered
  | failed | lost =>
      rintro kind token page _ ⟨⟩

/-- A policy whose removal counts as done is gone. -/
theorem faulty_removed
    (served :
      Faulty (lattice pages) before (.deleteAuthPolicy identifier) answer after)
    (removed : Removed answer) :
    (after identifier).policy = none := by
  cases served with
  | served answered =>
      obtain ⟨world, answered, rfl⟩ := answered
      exact answered.policy_eq_none
  | lost answered plain =>
      obtain ⟨world, answered, rfl⟩ := answered
      exact answered.policy_eq_none
  | failed plain =>
      rcases removed with ⟨_, impossible⟩ | ⟨fault, same, gone⟩
      · cases impossible
      · cases same
        rw [plain identifier rfl] at gone
        cases gone

/-- A change of the authentication type that is accepted took effect. -/
theorem faulty_authType
    {kind : ResourceKind}
    {authType body : Json}
    (served : Faulty (lattice pages) before (.setAuthType kind identifier authType)
      (.ok body) after) :
    (after identifier).authType = authType := by
  cases served with
  | served answered =>
      obtain ⟨world, answered, rfl⟩ := answered
      exact answered.authType_eq

/-! ## Clusters whose service shows fixed listings -/

/-- The cluster that starts in a world. -/
def ofWorld {Time : Type} (world : World) : Cluster Time Resources where
  records := world.records
  past := fun address => (world.records address).toList
  cloud := world.resources
  runs := []

/-- A world whose records carry their addresses is a cluster before any run. -/
theorem ofWorld_initial
    {Time : Type}
    {world : World}
    (own : ∀ address record, world.records address = some record →
      addressOf record = address) :
    (ofWorld world : Cluster Time Resources).Initial :=
  ⟨rfl, fun _ => rfl, own⟩

/--
No record of a world in which nothing has happened yet had a version but the stored
one.
-/
theorem ofWorld_fresh
    {Time : Type}
    {world : World}
    {address : Address}
    {record : Members}
    {version : Json}
    (stored : world.records address = some record)
    (other : versionOf record ≠ version) :
    (ofWorld world : Cluster Time Resources).Fresh address version := by
  intro earlier inside
  have known : earlier ∈ (world.records address).toList := inside
  rw [stored] at known
  rw [List.mem_singleton.mp known]
  exact other

variable {Time Cloud : Type} [TimeScale Time]
variable {operator : Operator Time}
variable {serves : Service Cloud}
variable {allows : Cluster Time Cloud → Move → Prop}
variable {moves : List Move}
variable {cluster : Cluster Time Cloud}

/-- Every page that a reconcile was shown is one of the fixed listings. -/
theorem Reached.showsPage
    {run : Ongoing Time}
    (reached : Reached operator serves allows moves cluster)
    (shows : ∀ before call answer after, serves before call answer after →
      ShowsPage pages ⟨call, answer⟩)
    (inside : run ∈ cluster.runs) :
    ∀ exchange ∈ run.history, ShowsPage pages exchange := by
  rintro ⟨call, answer⟩ made kind token page rfl rfl
  obtain ⟨current, cloud, answered⟩ :=
    reached.exists_answered inside made
      (not_writes_of_looks (.inr ⟨kind, token, rfl⟩))
  exact shows _ _ _ _ answered kind token page rfl rfl

end PolicyReconciler.Cluster

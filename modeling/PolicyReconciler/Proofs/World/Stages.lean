import PolicyReconciler.Proofs.World.Basic

namespace PolicyReconciler.World

/-!
# The stages of a reconcile in a world

In a world that stores the record of a policy and lists its target, every stage of
a reconcile has one result: the policy is read, its target is found, the resource is
put into the auth state that the policy calls for, and the record is written back.
-/

open Program Policy VpcLattice Reconcile PolicyStore

variable {Time : Type} [TimeScale Time]
variable {operator : Operator Time}
variable {world last : World}

/-- Where a record is stored that a policy is read from, that policy is found. -/
theorem found_of_replays
    {address : Address}
    {retries : Nat}
    {reads : History}
    {result : Except Fault (Option Policy)}
    {record : Members}
    {policy : Policy}
    (ready : Limiter.turn operator.rates.kubernetes = .ok ())
    (stored : world.records address = some record)
    (parsed : ofMembers record = .ok policy)
    (reading : Reading operator address retries reads result)
    (replays : Replays Answers world reads last) :
    result = .ok (some policy) ∧ last = world := by
  have served : ∀ answer after,
      Answers world (readCall operator address) answer after →
        answer = .ok (.obj record) ∧ after = world := by
    intro answer after answered
    cases answered with
    | read found =>
        rw [stored] at found
        cases found
        exact ⟨rfl, rfl⟩
    | unread absent gone =>
        rw [stored] at absent
        cases absent
  cases reading with
  | stalled _ halted =>
      rw [ready] at halted
      cases halted
  | found _ fit =>
      obtain ⟨same, rfl⟩ := served _ _ replays.single_inv
      cases same
      have parsed' : ofMembers record = _ := fit
      rw [parsed] at parsed'
      cases parsed'
      exact ⟨rfl, rfl⟩
  | malformed _ unfit =>
      obtain ⟨same, _⟩ := served _ _ replays.single_inv
      cases same
      have failed : ofMembers record = _ := unfit
      rw [parsed] at failed
      cases failed
  | missing _ gone =>
      obtain ⟨same, _⟩ := served _ _ replays.single_inv
      cases same
  | refused _ kept final =>
      obtain ⟨same, _⟩ := served _ _ replays.single_inv
      cases same
  | again kept busy later =>
      cases replays with
      | cons answered rest =>
          obtain ⟨same, _⟩ := served _ _ answered
          cases same

/-- A listing that ends within the limit is read as a whole. -/
theorem listed_of_replays
    {kind : ResourceKind}
    {pages length : Nat}
    {token : Option Json}
    {calls : History}
    {items : List Json}
    {listed : Except Fault (List Json)}
    (ready : Limiter.turn operator.rates.lattice = .ok ())
    (chain : Chain (world.pages kind) token items length)
    (within : length ≤ pages)
    (listing : Listing operator kind pages token calls listed)
    (replays : Replays Answers world calls last) :
    listed = .ok items ∧ last = world := by
  induction listing generalizing items length with
  | tooLong token =>
      cases chain <;> omega
  | stalled token halted =>
      rw [ready] at halted
      cases halted
  | refused token fault =>
      cases replays.single_inv
  | malformed token unread =>
      cases replays.single_inv
      cases chain with
      | last read ended | onward read more rest =>
          rw [unread] at read
          cases read
  | last token read ended =>
      cases replays.single_inv
      cases chain with
      | last read' ended' =>
          rw [read] at read'
          cases read'
          exact ⟨rfl, rfl⟩
      | onward read' more rest =>
          rw [ended] at more
          cases more
  | onward token read more later inductionHypothesis =>
      cases replays with
      | cons answered rest =>
          cases answered
          cases chain with
          | last read' ended =>
              rw [ended] at more
              cases more
          | onward read' more' chain' =>
              rw [read] at read'
              cases read'
              rw [more] at more'
              cases more'
              obtain ⟨same, unchanged⟩ := inductionHypothesis chain' (by omega) rest
              exact ⟨by rw [same]; rfl, unchanged⟩

/--
Whether the target of a policy is found in the listing of a kind, within the limit.
-/
def Finds
    (world : World)
    (operator : Operator Time)
    (kind : TargetKind)
    (policy : Policy)
    (identifier : Json) : Prop :=
  ∃ name items length,
    soughtName (resourceKind kind) policy.target policy.recordNamespace = .ok name ∧
      Chain (world.pages (resourceKind kind)) none items length ∧
      length ≤ operator.pageLimit ∧
      firstNamed? name items = .ok (some identifier)

/-- A target that a world finds is what a lookup there finds. -/
theorem resolved_of_replays
    {kind : TargetKind}
    {policy : Policy}
    {identifier : Json}
    {lookups : History}
    {found : Except Fault (Option Json)}
    (ready : Limiter.turn operator.rates.lattice = .ok ())
    (finds : world.Finds operator kind policy identifier)
    (lookup : TargetLookup operator kind policy lookups found)
    (replays : Replays Answers world lookups last) :
    found = .ok (some identifier) ∧ last = world := by
  obtain ⟨name, items, length, sought, chain, within, first⟩ := finds
  cases lookup with
  | unnamed nameless =>
      rw [sought] at nameless
      cases nameless
  | listed named listing =>
      rw [sought] at named
      cases named
      obtain ⟨rfl, unchanged⟩ :=
        listed_of_replays ready chain within listing replays
      exact ⟨first, unchanged⟩

/--
The stages before the changes find the policy and its target, and change nothing.
-/
theorem looked_of_replays
    {address : Address}
    {retries : Nat}
    {record : Members}
    {policy read : Policy}
    {kind named : TargetKind}
    {identifier : Json}
    {reads lookups : History}
    {found : Except Fault (Option Json)}
    (kubernetes : Limiter.turn operator.rates.kubernetes = .ok ())
    (lattice : Limiter.turn operator.rates.lattice = .ok ())
    (stored : world.records address = some record)
    (parsed : ofMembers record = .ok policy)
    (supported : policy.target.kind = .str kind.text)
    (finds : world.Finds operator kind policy identifier)
    (reading : Reading operator address retries reads (.ok (some read)))
    (names : read.target.kind = .str named.text)
    (lookup : TargetLookup operator named read lookups found)
    (replays : Replays Answers world (reads ++ lookups) last) :
    policy = read ∧ found = .ok (some identifier) ∧ last = world := by
  obtain ⟨middle, before, after⟩ := replays.append_inv
  obtain ⟨same, rfl⟩ := found_of_replays kubernetes stored parsed reading before
  cases same
  obtain rfl := eq_of_text supported names
  obtain ⟨resolved, unchanged⟩ := resolved_of_replays lattice finds lookup after
  exact ⟨rfl, resolved, unchanged⟩

/-- The auth state that a policy calls for. -/
def desired (policy : Policy) : AuthState :=
  if policy.deletionRequested then ⟨noAuth, none⟩
  else ⟨signedRequests, some (.str policy.document)⟩

/--
A planned call that a world takes is made, and the rest of the plan goes on after
it.
-/
theorem carried_step
    {call : Call}
    {rest : Plan}
    {next : World}
    {changes : History}
    {result : Except Fault Unit}
    (ready : Limiter.turn operator.rates.lattice = .ok ())
    (taken : ∀ answer after, Answers world call answer after →
      verdict call answer = .ok () ∧ after = next)
    (change : Carried operator (.ok call :: rest) changes result)
    (replays : Replays Answers world changes last) :
    ∃ later, Carried operator rest later result ∧
      Replays Answers next later last := by
  cases change with
  | stalled halted =>
      rw [ready] at halted
      cases halted
  | failed refused =>
      obtain ⟨accepted, _⟩ := taken _ _ replays.single_inv
      rw [accepted] at refused
      cases refused
  | onward _ later =>
      cases replays with
      | cons answered after =>
          obtain ⟨_, rfl⟩ := taken _ _ answered
          exact ⟨_, later, after⟩

section Calls

variable {kind : ResourceKind} {identifier document authType : Json}
variable {answer : Except Fault Json} {after : World}

/-- The world takes a change of type that names a resource. -/
theorem setAuthType_taken
    (named : resourceKindOf identifier = .ok kind)
    (answered :
      Answers world (.setAuthType kind identifier authType) answer after) :
    verdict (.setAuthType kind identifier authType) answer = .ok () ∧
      after = world.setAuth identifier
        ⟨authType, (world.resources identifier).policy⟩ := by
  cases answered with
  | changed answer named =>
      exact ⟨rfl, rfl⟩
  | mistaken other =>
      exact absurd named other

/-- The world takes a policy. -/
theorem putAuthPolicy_taken
    (answered : Answers world (.putAuthPolicy identifier document) answer after) :
    verdict (.putAuthPolicy identifier document) answer = .ok () ∧
      after = world.setAuth identifier
        ⟨(world.resources identifier).authType, some document⟩ := by
  cases answered
  exact ⟨rfl, rfl⟩

/-- Removing a policy that is not there changes nothing and counts as done. -/
theorem deleteAuthPolicy_taken
    (answered : Answers world (.deleteAuthPolicy identifier) answer after) :
    verdict (.deleteAuthPolicy identifier) answer = .ok () ∧
      after = world.setAuth identifier
        ⟨(world.resources identifier).authType, none⟩ := by
  cases answered with
  | detached answer present =>
      exact ⟨rfl, rfl⟩
  | bare absent gone =>
      refine ⟨by simp [verdict, gone], (setAuth_of_eq ?_).symm⟩
      rw [← absent]

end Calls

/--
The changes of a plan put the resource into the auth state that the policy calls
for.
-/
theorem changed_of_replays
    {kind : ResourceKind}
    {policy : Policy}
    {identifier : Json}
    {changes : History}
    {result : Except Fault Unit}
    (ready : Limiter.turn operator.rates.lattice = .ok ())
    (accepted : resourceKindOf identifier = .ok kind)
    (change : Carried operator (plan policy identifier) changes result)
    (replays : Replays Answers world changes last) :
    result = .ok () ∧ last = world.setAuth identifier (desired policy) := by
  have typed : ∀ authType, typeChange identifier authType =
      .ok (.setAuthType kind identifier authType) := by
    intro authType
    rw [typeChange, accepted]
    rfl
  unfold plan at change
  unfold desired
  split at change
  · rename_i deleting
    rw [detachment, typed] at change
    obtain ⟨later, change, replays⟩ :=
      carried_step ready (fun _ _ => deleteAuthPolicy_taken) change replays
    obtain ⟨rest, change, replays⟩ :=
      carried_step ready (fun _ _ => setAuthType_taken accepted) change replays
    cases change
    rw [replays.nil_inv, if_pos deleting, setAuth_setAuth, resources_setAuth_same]
    exact ⟨rfl, rfl⟩
  · rename_i live
    rw [attachment, typed] at change
    obtain ⟨later, change, replays⟩ :=
      carried_step ready (fun _ _ => setAuthType_taken accepted) change replays
    obtain ⟨rest, change, replays⟩ :=
      carried_step ready (fun _ _ => putAuthPolicy_taken) change replays
    cases change
    rw [replays.nil_inv, if_neg live, setAuth_setAuth, resources_setAuth_same]
    exact ⟨rfl, rfl⟩

/-- A policy is written back over the record of its version. -/
theorem written_of_replays
    {policy : Policy}
    {old : Members}
    {writes : History}
    {result : Except Fault Unit}
    (ready : Limiter.turn operator.rates.kubernetes = .ok ())
    (stored : world.records ⟨policy.recordNamespace, policy.name⟩ = some old)
    (current : versionOf policy.written = versionOf old)
    (write : WriteBack operator policy writes result)
    (replays : Replays Answers world writes last) :
    result = .ok () ∧ ∃ version, last =
      world.store ⟨policy.recordNamespace, policy.name⟩
        (restamp policy.written version) := by
  cases write with
  | stalled halted =>
      rw [ready] at halted
      cases halted
  | answered answer =>
      have answered := replays.single_inv
      unfold writeCall at answered
      rw [toRecord_eq] at answered
      obtain ⟨⟨accepted, rfl⟩, version, rfl⟩ :=
        answered.exists_stored stored current
      exact ⟨rfl, version, rfl⟩

end PolicyReconciler.World

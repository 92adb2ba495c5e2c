import PolicyReconciler.Proofs.Reconcile.Calls
import PolicyReconciler.Proofs.Reconcile.Target

namespace PolicyReconciler.Reconcile

/-!
# What a record demands

Where the listings are fixed, a record demands certain changes of one resource and
may then be written back in one form.  A reconcile that has read the record and
meets no failure makes all these changes and the write-back, and a reconcile never
makes others.
-/

open Program Policy VpcLattice PolicyStore

variable {Time : Type} [TimeScale Time]
variable {operator : Operator Time}
variable {pages : Pages}
variable {address : Address}
variable {record : Members}
variable {policy : Policy}
variable {identifier : Json}
variable {history : History}
variable {call : Call}

/-- Whether a record calls for a change that no impossible one stands before. -/
def Demands
    (operator : Operator Time)
    (pages : Pages)
    (record : Members)
    (call : Call) : Prop :=
  ∃ (policy : Policy) (identifier : Json) (earlier : List Call) (later : Plan),
    ofMembers record = .ok policy ∧ Targets operator pages policy identifier ∧
      plan policy identifier = earlier.map .ok ++ .ok call :: later

/-- Whether a record is written back in a form after all its changes. -/
def Rewrites
    (operator : Operator Time)
    (pages : Pages)
    (record body : Members) : Prop :=
  ∃ policy identifier, ofMembers record = .ok policy ∧
    Targets operator pages policy identifier ∧
    (∀ fault, .error fault ∉ plan policy identifier) ∧
    body = (settledPolicy policy identifier).written

omit [TimeScale Time] in
/-- A record is rewritten in one way. -/
theorem Rewrites.unique
    {first second : Members}
    (isFirst : Rewrites operator pages record first)
    (isSecond : Rewrites operator pages record second) :
    first = second := by
  obtain ⟨policy, identifier, parsed, targets, _, rfl⟩ := isFirst
  obtain ⟨policy', identifier', parsed', targets', _, rfl⟩ := isSecond
  obtain rfl := Except.ok.inj (parsed.symm.trans parsed')
  rw [targets.unique targets']

/-! ## Changes that were made -/

/-- A call that follows a carried part of the plan is demanded by the record. -/
theorem demands_of_carried
    {made rest : Plan}
    {changes : History}
    (parsed : ofMembers record = .ok policy)
    (targets : Targets operator pages policy identifier)
    (planned : plan policy identifier = made ++ .ok call :: rest)
    (change : Carried operator made changes (.ok ())) :
    Demands operator pages record call := by
  obtain ⟨rfl, _⟩ := Carried.complete_iff.mp change
  refine ⟨policy, identifier, changes.map Exchange.call, rest, parsed, targets, ?_⟩
  rw [planned, List.map_map]

/-- A plan that was carried out to its end has made all that its record demands. -/
theorem Demands.made_of_carried
    {changes : History}
    (demands : Demands operator pages record call)
    (parsed : ofMembers record = .ok policy)
    (targets : Targets operator pages policy identifier)
    (change : Carried operator (plan policy identifier) changes (.ok ())) :
    ∃ exchange ∈ changes, exchange.call = call := by
  obtain ⟨policy', identifier', earlier, later, parsed', targets', planned⟩ :=
    demands
  obtain rfl := Except.ok.inj (parsed.symm.trans parsed')
  obtain rfl := targets.unique targets'
  obtain ⟨whole, _⟩ := Carried.complete_iff.mp change
  have member : .ok call ∈ plan policy identifier := by
    rw [planned]
    exact List.mem_append_right _ List.mem_cons_self
  rw [whole] at member
  obtain ⟨exchange, inside, same⟩ := List.mem_map.mp member
  exact ⟨exchange, inside, Except.ok.inj same⟩

/-- A carried plan leads to the record's own rewriting. -/
theorem rewrites_of_carried
    {changes : History}
    (parsed : ofMembers record = .ok policy)
    (targets : Targets operator pages policy identifier)
    (change : Carried operator (plan policy identifier) changes (.ok ())) :
    Rewrites operator pages record (settledPolicy policy identifier).written := by
  refine ⟨policy, identifier, parsed, targets, ?_, rfl⟩
  intro fault impossible
  rw [(Carried.complete_iff.mp change).1] at impossible
  obtain ⟨_, _, same⟩ := List.mem_map.mp impossible
  cases same

/--
A reconcile looks something up, or a record that it has read demands its call.
-/
theorem Underway.looks_or_demands
    (underway : Underway operator address history call)
    (shown : ∀ exchange ∈ history, ShowsPage pages exchange) :
    Looks call ∨ Writes call ∨ ∃ record,
      ⟨readCall operator address, .ok (.obj record)⟩ ∈ history ∧
        Demands operator pages record call := by
  cases underway with
  | reading reading =>
      exact .inl (.inl ⟨_, _, rfl⟩)
  | listing token read supported lists =>
      exact .inl (.inr ⟨_, _, rfl⟩)
  | @changing reads lookups changes policy kind identifier made rest _ read
        supported lookup
      planned change =>
      obtain ⟨record, inside, parsed⟩ := read.exists_record
      have targets : Targets operator pages policy identifier := by
        apply targets_of_lookup supported lookup
        intro exchange listed
        exact shown exchange
          (List.mem_append_left _ (List.mem_append_right _ listed))
      exact .inr (.inr ⟨record,
        List.mem_append_left _ (List.mem_append_left _ inside),
        demands_of_carried parsed targets planned change⟩)
  | writing read supported lookup change =>
      exact .inr (.inl ⟨_, _, _, rfl⟩)

/--
What a reconcile writes back is what a record that it has read is rewritten to.
-/
theorem Underway.rewrites
    (underway : Underway operator address history call)
    (writes : Writes call)
    (shown : ∀ exchange ∈ history, ShowsPage pages exchange) :
    ∃ record body, ⟨readCall operator address, .ok (.obj record)⟩ ∈ history ∧
      Rewrites operator pages record body ∧ versionOf body = versionOf record ∧
      call = .replaceRecord (addressOf record) (.obj body)
        operator.requestTimeout := by
  obtain ⟨_, _, _, rfl⟩ := writes
  obtain ⟨reads, lookups, changes, policy, kind, identifier, rfl, read,
      supported, lookup,
    change, call⟩ := underway.replace_inv
  obtain ⟨record, inside, parsed⟩ := read.exists_record
  have targets : Targets operator pages policy identifier := by
    apply targets_of_lookup supported lookup
    intro exchange listed
    exact shown exchange (List.mem_append_left _ (List.mem_append_right _ listed))
  have known := shows_of_ofMembers parsed
  have written :
      writeCall operator (settledPolicy policy identifier) = .replaceRecord _
      (.obj (settledPolicy policy identifier).written) operator.requestTimeout :=
    rfl
  obtain ⟨targeted, _⟩ := settledPolicy_call known written.symm
  obtain ⟨_, versioned, _, _⟩ := settledPolicy_written identifier known
  refine ⟨record, _, List.mem_append_left _ (List.mem_append_left _ inside),
    rewrites_of_carried parsed targets change, versioned, ?_⟩
  rw [call, written, targeted]

/-! ## Reconciles without failures -/

/--
Whether all that a reconcile asks for succeeds, and it always reads the same record.
-/
structure Unfailing
    (operator : Operator Time)
    (pages : Pages)
    (address : Address)
    (record : Members)
    (history : History) : Prop where
  reads : ∀ answer, ⟨readCall operator address, answer⟩ ∈ history →
    answer = .ok (.obj record)
  lists : ∀ kind token answer, ⟨.listPage kind token, answer⟩ ∈ history →
    answer = .ok (pages kind token)
  taken : ∀ exchange ∈ history, ∀ policy identifier,
    .ok exchange.call ∈ plan policy identifier →
      verdict exchange.call exchange.answer = .ok ()

omit [TimeScale Time] in
/-- An unfailing history shows the pages as they are. -/
theorem Unfailing.showsPage
    {exchange : Exchange}
    (unfailing : Unfailing operator pages address record history)
    (inside : exchange ∈ history) :
    ShowsPage pages exchange := by
  obtain ⟨call, answer⟩ := exchange
  rintro kind token page rfl rfl
  exact Except.ok.inj (unfailing.lists kind token _ inside)

/--
A record that is always read the same gives its policy, or the fault that it has
none.
-/
theorem read_eq_of_answers
    {retries : Nat}
    {reads : History}
    {result : Except Fault (Option Policy)}
    (ready : Limiter.turn operator.rates.kubernetes = .ok ())
    (reading : Reading operator address retries reads result)
    (answers : ∀ answer, ⟨readCall operator address, answer⟩ ∈ reads →
      answer = .ok (.obj record)) :
    result = (ofMembers record).map some := by
  cases reading with
  | stalled _ halted =>
      rw [ready] at halted
      cases halted
  | found _ fit =>
      cases answers _ List.mem_cons_self
      have parsed : ofMembers record = _ := fit
      rw [parsed]
      rfl
  | malformed _ unfit =>
      cases answers _ List.mem_cons_self
      have failed : ofMembers record = _ := unfit
      rw [failed]
      rfl
  | missing | refused | again =>
      cases answers _ List.mem_cons_self

/-- A lookup that is shown every page finds what the listings hold. -/
theorem found_eq_of_answers
    {kind : TargetKind}
    {lookups : History}
    {result : Except Fault (Option Json)}
    (ready : Limiter.turn operator.rates.lattice = .ok ())
    (lookup : TargetLookup operator kind policy lookups result)
    (answers : ∀ kind token answer, ⟨.listPage kind token, answer⟩ ∈ lookups →
      answer = .ok (pages kind token)) :
    result = found operator pages (resourceKind kind) policy.target
      policy.recordNamespace := by
  have shown : ∀ exchange ∈ lookups, ShowsPage pages exchange := by
    rintro ⟨call, answer⟩ inside kind token page rfl rfl
    exact Except.ok.inj (answers kind token _ inside)
  rcases lookup.eq_found_or_fails shown with
    same | ⟨fault, _, halted | ⟨failed, inside, refused⟩⟩
  · exact same
  · rw [ready] at halted
    cases halted
  · obtain ⟨token, listed⟩ := lookup.lists failed inside
    obtain ⟨call, answer⟩ := failed
    dsimp only at listed refused
    subst listed refused
    cases answers _ _ _ inside

/--
Where every change is taken, a call with only possible ones before it is made.
-/
theorem exists_of_carried
    {earlier : List Call}
    {later : Plan}
    {changes : History}
    {result : Except Fault Unit}
    (ready : Limiter.turn operator.rates.lattice = .ok ())
    (taken : ∀ exchange ∈ changes, verdict exchange.call exchange.answer = .ok ())
    (change :
      Carried operator (earlier.map .ok ++ .ok call :: later) changes result) :
    ∃ exchange ∈ changes, exchange.call = call := by
  induction earlier generalizing changes with
  | nil =>
      cases change with
      | stalled halted =>
          rw [ready] at halted
          cases halted
      | failed | onward =>
          exact ⟨_, List.mem_cons_self, rfl⟩
  | cons first others inductionHypothesis =>
      cases change with
      | stalled halted =>
          rw [ready] at halted
          cases halted
      | failed refused =>
          rw [taken _ List.mem_cons_self] at refused
          cases refused
      | onward _ rest =>
          obtain ⟨exchange, inside, same⟩ := inductionHypothesis
            (fun exchange inside =>
              taken exchange (List.mem_cons_of_mem _ inside)) rest
          exact ⟨exchange, List.mem_cons_of_mem _ inside, same⟩

/-- Where every change is taken, only an impossible one can end a plan early. -/
theorem mem_of_carried_error
    {steps : Plan}
    {changes : History}
    {fault : Fault}
    (ready : Limiter.turn operator.rates.lattice = .ok ())
    (taken : ∀ exchange ∈ changes, verdict exchange.call exchange.answer = .ok ())
    (change : Carried operator steps changes (.error fault)) :
    .error fault ∈ steps := by
  generalize ended : (.error fault : Except Fault Unit) = result at change
  induction change with
  | complete =>
      cases ended
  | impossible =>
      cases ended
      exact List.mem_cons_self
  | stalled halted =>
      rw [ready] at halted
      cases halted
  | failed refused =>
      rw [taken _ List.mem_cons_self] at refused
      cases refused
  | onward _ rest inductionHypothesis =>
      apply List.mem_cons_of_mem
      exact inductionHypothesis
        (fun exchange inside =>
          taken exchange (List.mem_cons_of_mem _ inside)) ended

/--
Without failures, the policy of the record gets past its lookup where it has a
target.
-/
theorem Course.of_unfailing
    {outcome : Except Fault (ReconcileResult Nat)}
    (paced : ∀ api, Limiter.turn (operator.rates.of api) = .ok ())
    (course : Course operator address history outcome)
    (unfailing : Unfailing operator pages address record history)
    (parsed : ofMembers record = .ok policy)
    (targets : Targets operator pages policy identifier) :
    ∃ looks changes,
      (history = looks ++ changes ∧
        ∃ fault, Carried operator (plan policy identifier) changes (.error fault)) ∨
      ∃ answer, history = looks ++ changes ++
          [⟨writeCall operator (settledPolicy policy identifier), answer⟩] ∧
        Carried operator (plan policy identifier) changes (.ok ()) := by
  have read : ∀ {reads rest : History} {result : Except Fault (Option Policy)},
      history = reads ++ rest → Reading operator address readRetries reads result →
        result = .ok (some policy) := by
    rintro reads rest result rfl reading
    have same := read_eq_of_answers (paced .kubernetes) reading
      (fun answer inside => unfailing.reads answer (List.mem_append_left _ inside))
    rw [same, parsed]
    rfl
  -- with both answers fixed, only the courses that reach the changes are left
  have resolved : ∀ {reads lookups rest : History} {kind : TargetKind}
      {result : Except Fault (Option Json)}, history = reads ++ lookups ++ rest →
      policy.target.kind = .str kind.text →
      TargetLookup operator kind policy lookups result →
        result = .ok (some identifier) := by
    rintro reads lookups rest kind result rfl supported lookup
    obtain ⟨named, supported', finds⟩ := targets
    obtain rfl := eq_of_text supported supported'
    rw [found_eq_of_answers (paced .lattice) lookup, finds]
    intro kind token answer inside
    exact unfailing.lists kind token answer
      (List.mem_append_left _ (List.mem_append_right _ inside))
  cases course with
  | unread reading | missing reading =>
      cases read (List.append_nil _).symm reading
  | unsupported reading other =>
      cases read (List.append_nil _).symm reading
      obtain ⟨kind, supported, _⟩ := targets
      exact absurd supported (other kind)
  | targetMissing reading supported lookup =>
      cases read rfl reading
      cases resolved (List.append_nil _).symm supported lookup
  | unresolved reading supported lookup =>
      cases read rfl reading
      cases resolved (List.append_nil _).symm supported lookup
  | @halted reads lookups changes _ _ _ fault reading supported lookup change =>
      cases read (List.append_assoc _ _ _) reading
      cases resolved rfl supported lookup
      exact ⟨reads ++ lookups, changes, .inl ⟨rfl, fault, change⟩⟩
  | @written reads lookups changes writes _ _ _ _ reading supported
        lookup change write =>
      cases read (by rw [List.append_assoc, List.append_assoc]) reading
      cases resolved (List.append_assoc _ _ _) supported lookup
      cases write with
      | stalled halted =>
          cases (paced .kubernetes).symm.trans halted
      | answered answer =>
          exact ⟨reads ++ lookups, changes, .inr ⟨answer, rfl, change⟩⟩

/-- A reconcile without failures makes all changes that its record demands. -/
theorem Course.made_of_demands
    {outcome : Except Fault (ReconcileResult Nat)}
    (paced : ∀ api, Limiter.turn (operator.rates.of api) = .ok ())
    (course : Course operator address history outcome)
    (unfailing : Unfailing operator pages address record history)
    (demands : Demands operator pages record call) :
    ∃ exchange ∈ history, exchange.call = call := by
  obtain ⟨policy, identifier, earlier, later, parsed, targets, planned⟩ := demands
  obtain ⟨looks, changes, ⟨rfl, _, change⟩ | ⟨_, rfl, change⟩⟩ :=
    course.of_unfailing paced unfailing parsed targets
  · have taken :
        ∀ exchange ∈ changes, verdict exchange.call exchange.answer = .ok () :=
      fun exchange inside =>
        unfailing.taken exchange (List.mem_append_right _ inside) _ _
        (change.mem_plan inside)
    rw [planned] at change
    obtain ⟨exchange, inside, same⟩ :=
      exists_of_carried (paced .lattice) taken change
    exact ⟨exchange, List.mem_append_right _ inside, same⟩
  · obtain ⟨exchange, inside, same⟩ := Demands.made_of_carried
      ⟨policy, identifier, earlier, later, parsed, targets, planned⟩
        parsed targets change
    exact ⟨exchange, List.mem_append_left _ (List.mem_append_right _ inside), same⟩

/--
A reconcile without failures writes its record back, if the record is rewritten at
all.
-/
theorem Course.writes_of_rewrites
    {outcome : Except Fault (ReconcileResult Nat)}
    {body : Members}
    (paced : ∀ api, Limiter.turn (operator.rates.of api) = .ok ())
    (course : Course operator address history outcome)
    (unfailing : Unfailing operator pages address record history)
    (rewrites : Rewrites operator pages record body) :
    ∃ exchange ∈ history, Writes exchange.call := by
  obtain ⟨policy, identifier, parsed, targets, possible, _⟩ := rewrites
  obtain ⟨looks, changes, ⟨rfl, fault, change⟩ | ⟨_, rfl, _⟩⟩ :=
    course.of_unfailing paced unfailing parsed targets
  · have taken :
        ∀ exchange ∈ changes, verdict exchange.call exchange.answer = .ok () :=
      fun exchange inside =>
        unfailing.taken exchange (List.mem_append_right _ inside) _ _
        (change.mem_plan inside)
    exact absurd (mem_of_carried_error (paced .lattice) taken change)
      (possible fault)
  · exact ⟨_, List.mem_append_right _ List.mem_cons_self, _, _, _, rfl⟩

end PolicyReconciler.Reconcile

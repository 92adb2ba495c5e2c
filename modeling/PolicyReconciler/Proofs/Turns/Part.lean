import PolicyReconciler.Proofs.Reconcile.Target
import PolicyReconciler.Proofs.Turns.Basic

namespace PolicyReconciler

/-!
# Parts of a world

A job is about its record and the resource of its target.  All its calls name this
part of the world, so they leave everything else alone, and what they are answered
depends on this part and on the listings only.
-/

open Program Policy VpcLattice Reconcile PolicyStore

/-! ## What a call names -/

namespace Call

/-- The record that a call names. -/
def record? : Call → Option Address
  | .readRecord address _ => some address
  | .replaceRecord address _ _ => some address
  | _ => none

/-- The resource that a call names. -/
def resource? : Call → Option Json
  | .setAuthType _ identifier _ => some identifier
  | .putAuthPolicy identifier _ => some identifier
  | .deleteAuthPolicy identifier => some identifier
  | _ => none

end Call

namespace World

variable {world after : World}
variable {call : Call}
variable {answer : Except Fault Json}

/-- An answered call leaves the records that it does not name. -/
theorem Answers.records_eq
    {address : Address}
    (answered : Answers world call answer after)
    (unnamed : call.record? ≠ some address) :
    after.records address = world.records address := by
  cases answered with
  | replaced =>
      exact records_store_other fun same => unnamed (congrArg some same.symm)
  | _ =>
      rfl

/-- An answered call leaves the resources that it does not name. -/
theorem Answers.resources_eq
    {identifier : Json}
    (answered : Answers world call answer after)
    (unnamed : call.resource? ≠ some identifier) :
    after.resources identifier = world.resources identifier := by
  cases answered with
  | changed | attached | detached =>
      exact resources_setAuth_other _ fun same => unnamed (congrArg some same.symm)
  | _ =>
      rfl

/-- Whether two worlds agree on the listings and on all that a call names. -/
structure SameFor (call : Call) (first second : World) : Prop where
  pages : first.pages = second.pages
  records : ∀ address, call.record? = some address →
    first.records address = second.records address
  resources : ∀ identifier, call.resource? = some identifier →
    first.resources identifier = second.resources identifier

/-- Whether two worlds agree on the listings, on a record and on some resources. -/
structure SameOn
    (address : Address)
    (uses : Json → Prop)
    (first second : World) : Prop where
  pages : first.pages = second.pages
  record : first.records address = second.records address
  resources : ∀ identifier, uses identifier →
    first.resources identifier = second.resources identifier

end World

/-- Whether a call names at most a record and some resources. -/
structure Call.Within
    (address : Address)
    (uses : Json → Prop)
    (call : Call) :
    Prop where
  record : ∀ other, call.record? = some other → other = address
  resource : ∀ identifier, call.resource? = some identifier → uses identifier

/--
Whether a service answers as a world does, and what it answers and does depends on
nothing but the listings and what the call names.
-/
structure Serve.Regular (serve : Serve) : Prop where
  answers :
    ∀ world call, World.Answers world call (serve world call).1 (serve world call).2
  same : ∀ call first second, World.SameFor call first second →
    (serve first call).1 = (serve second call).1 ∧
      World.SameFor call (serve first call).2 (serve second call).2

namespace Serve.Regular

variable {serve : Serve}
variable {call : Call}
variable {address : Address}
variable {uses : Json → Prop}

/-- What is left of the world after a call, with or without a mishap. -/
theorem struck_cases
    (mishap : Option Mishap)
    (world : World)
    (call : Call) :
    (serve.struck mishap world call).2 = world ∨
      (serve.struck mishap world call).2 = (serve world call).2 := by
  match mishap with
  | none =>
      exact .inr rfl
  | some (.unmade fault) =>
      exact .inl rfl
  | some (.unanswered fault) =>
      exact .inr rfl

/-- A call leaves the records that it does not name, even when it goes wrong. -/
theorem records_eq
    (regular : serve.Regular)
    (mishap : Option Mishap)
    (world : World)
    (unnamed : call.record? ≠ some address) :
    (serve.struck mishap world call).2.records address = world.records address := by
  rcases struck_cases mishap world call with same | served
  · rw [same]
  · rw [served, (regular.answers world call).records_eq unnamed]

/-- A call leaves the resources that it does not name, even when it goes wrong. -/
theorem resources_eq
    {identifier : Json}
    (regular : serve.Regular)
    (mishap : Option Mishap)
    (world : World)
    (unnamed : call.resource? ≠ some identifier) :
    (serve.struck mishap world call).2.resources identifier =
      world.resources identifier := by
  rcases struck_cases mishap world call with same | served
  · rw [same]
  · rw [served, (regular.answers world call).resources_eq unnamed]

/-- A call leaves the pages, even when it goes wrong. -/
theorem pages_eq
    (regular : serve.Regular)
    (mishap : Option Mishap)
    (world : World)
    (call : Call) :
    (serve.struck mishap world call).2.pages = world.pages := by
  rcases struck_cases mishap world call with same | served
  · rw [same]
  · rw [served, (regular.answers world call).pages_eq]

/--
Worlds that agree on a part answer a call within it alike, and agree on the part
after it.
-/
theorem struck_same
    {first second : World}
    (regular : serve.Regular)
    (mishap : Option Mishap)
    (within : call.Within address uses)
    (same : World.SameOn address uses first second) :
    (serve.struck mishap first call).1 = (serve.struck mishap second call).1 ∧
      World.SameOn address uses (serve.struck mishap first call).2
        (serve.struck mishap second call).2 := by
  have named : World.SameFor call first second := by
    refine ⟨same.pages, ?_, ?_⟩
    · intro other isNamed
      rw [within.record other isNamed]
      exact same.record
    · intro identifier isNamed
      exact same.resources identifier (within.resource identifier isNamed)
  obtain ⟨answers, after⟩ := regular.same call first second named
  have served :
      World.SameOn address uses (serve first call).2 (serve second call).2 := by
    refine ⟨after.pages, ?_, ?_⟩
    · by_cases isNamed : call.record? = some address
      · exact after.records address isNamed
      · rw [(regular.answers first call).records_eq isNamed,
          (regular.answers second call).records_eq isNamed, same.record]
    · intro identifier used
      by_cases isNamed : call.resource? = some identifier
      · exact after.resources identifier isNamed
      · rw [(regular.answers first call).resources_eq isNamed,
          (regular.answers second call).resources_eq isNamed,
            same.resources identifier used]
  match mishap with
  | none =>
      exact ⟨answers, served⟩
  | some (.unmade fault) =>
      exact ⟨rfl, same⟩
  | some (.unanswered fault) =>
      exact ⟨rfl, served⟩

/-- A call outside of a part leaves the part as it is. -/
theorem struck_other
    {world : World}
    {middle : World}
    (regular : serve.Regular)
    (mishap : Option Mishap)
    (same : World.SameOn address uses middle world)
    (record : call.record? ≠ some address)
    (resources : ∀ identifier, uses identifier → call.resource? ≠ some identifier) :
    World.SameOn address uses (serve.struck mishap middle call).2 world := by
  refine ⟨?_, ?_, ?_⟩
  · rw [regular.pages_eq, same.pages]
  · rw [regular.records_eq mishap middle record, same.record]
  · intro identifier used
    rw [regular.resources_eq mishap middle (resources identifier used),
      same.resources identifier used]

/-- A call that is answered with success has met no mishap. -/
theorem answers_of_struck
    {mishap : Option Mishap}
    {world after : World}
    {body : Json}
    (regular : serve.Regular)
    (struck : serve.struck mishap world call = (.ok body, after)) :
    World.Answers world call (.ok body) after := by
  match mishap with
  | none =>
      have answered := regular.answers world call
      rw [show serve world call = (.ok body, after) from struck] at answered
      exact answered
  | some (.unmade fault) | some (.unanswered fault) =>
      cases struck

variable {job : Job}
variable {before after : World × Nat}
variable {history : History}

/-- The listings stay as they are, and every page that is shown is one of them. -/
theorem pages_of_replays
    (regular : serve.Regular)
    (replays : Replays (job.answering serve) before history after) :
    after.1.pages = before.1.pages ∧
      ∀ exchange ∈ history, ShowsPage before.1.pages exchange := by
  induction replays with
  | nil =>
      simp
  | @cons before middle last call answer later answered rest inductionHypothesis =>
      obtain ⟨struck, _⟩ := answered
      have kept : middle.1.pages = before.1.pages := by
        rw [← regular.pages_eq (job.mishaps before.2) before.1 call, struck]
      obtain ⟨unchanged, shown⟩ := inductionHypothesis
      rw [kept] at unchanged shown
      refine ⟨unchanged, List.forall_mem_cons.mpr ⟨?_, shown⟩⟩
      intro kind token page isList isPage
      dsimp only at isPage
      subst isPage
      exact (regular.answers_of_struck struck).showsPage kind token page isList rfl

/-- Until a record is replaced, all records stay as they are and are read so. -/
theorem records_of_replays
    (regular : serve.Regular)
    (replays : Replays (job.answering serve) before history after)
    (unwritten : ∀ exchange ∈ history, ¬ Writes exchange.call) :
    after.1.records = before.1.records ∧
      ∀ target timeout body, ⟨.readRecord target timeout, .ok body⟩ ∈ history →
        ∃ record, before.1.records target = some record ∧ body = .obj record := by
  induction replays with
  | nil =>
      simp
  | @cons before middle last call answer later answered rest inductionHypothesis =>
      obtain ⟨struck, _⟩ := answered
      obtain ⟨first, others⟩ := List.forall_mem_cons.mp unwritten
      have kept : middle.1.records = before.1.records := by
        have left :
            (serve.struck (job.mishaps before.2) before.1 call).2 = middle.1 := by
          rw [struck]
        rcases struck_cases (job.mishaps before.2) before.1 call with same | served
        · rw [← left, same]
        · rw [← left, served, (regular.answers _ _).records_of_not_writes first]
      obtain ⟨unchanged, truthful⟩ := inductionHypothesis others
      rw [kept] at unchanged truthful
      refine ⟨unchanged, ?_⟩
      intro target timeout body inside
      rcases List.mem_cons.mp inside with isFirst | isLater
      · cases isFirst
        exact (regular.answers_of_struck struck).stored_of_read
      · exact truthful target timeout body isLater

end Serve.Regular

namespace World

variable {call : Call}
variable {first second : World}

theorem SameFor.setAuth
    {identifier : Json}
    (same : SameFor call first second)
    (named : call.resource? = some identifier)
    (state : AuthState) :
    SameFor call (first.setAuth identifier state)
      (second.setAuth identifier state) := by
  refine ⟨same.pages, same.records, ?_⟩
  intro other isNamed
  obtain rfl := Option.some.inj (named.symm.trans isNamed)
  rw [resources_setAuth_same, resources_setAuth_same]

theorem SameFor.store
    {address : Address}
    (same : SameFor call first second)
    (named : call.record? = some address)
    (record : Members) :
    SameFor call (first.store address record) (second.store address record) := by
  refine ⟨same.pages, ?_, same.resources⟩
  intro other isNamed
  obtain rfl := Option.some.inj (named.symm.trans isNamed)
  rw [records_store_same, records_store_same]

/-- The service of a world asks for nothing but what a call names. -/
theorem serve_regular : Serve.Regular World.serve where
  answers := answers_serve
  same := by
    intro call first second same
    -- what a call looks at and changes is its own part of the world
    cases call with
    | readRecord address timeout =>
        dsimp only [serve]
        rw [same.records address rfl]
        split
        · exact ⟨rfl, same⟩
        · exact ⟨rfl, same⟩
    | replaceRecord address body timeout =>
        cases body with
        | obj members =>
            dsimp only [serve]
            rw [same.records address rfl]
            split
            · split_ifs with current
              · exact ⟨rfl, same.store rfl _⟩
              · exact ⟨rfl, same⟩
            · exact ⟨rfl, same⟩
        | null | bool | int | float | str | arr =>
            exact ⟨rfl, same⟩
    | listPage kind token =>
        dsimp only [serve]
        rw [same.pages]
        exact ⟨rfl, same⟩
    | setAuthType kind identifier authType =>
        dsimp only [serve]
        rw [same.resources identifier rfl]
        split_ifs with named
        · exact ⟨rfl, same.setAuth rfl _⟩
        · exact ⟨rfl, same⟩
    | putAuthPolicy identifier document =>
        dsimp only [serve]
        rw [same.resources identifier rfl]
        exact ⟨rfl, same.setAuth rfl _⟩
    | deleteAuthPolicy identifier =>
        dsimp only [serve]
        rw [same.resources identifier rfl]
        split
        · exact ⟨rfl, same.setAuth rfl _⟩
        · exact ⟨rfl, same⟩
    | loadClusterConfiguration | loadUserConfiguration =>
        exact ⟨rfl, same⟩

end World

/-! ## The part of a job -/

variable {Time : Type} [TimeScale Time]
variable {operator : Operator Time}
variable {serve : Serve}
variable {job : Job}
variable {world last : World}
variable {history : History}

/-- Whether a resource is the one that the record of a job targets. -/
def Job.Uses
    (operator : Operator Time)
    (world : World)
    (job : Job)
    (identifier : Json) : Prop :=
  ∃ record policy, world.records job.address = some record ∧
    ofMembers record = .ok policy ∧
    Targets operator world.pages policy identifier

omit [TimeScale Time] in
/-- A job whose record has a target uses nothing else. -/
theorem Job.Uses.eq_target
    {record : Members}
    {policy : Policy}
    {identifier target : Json}
    (uses : job.Uses operator world identifier)
    (stored : world.records job.address = some record)
    (parsed : ofMembers record = .ok policy)
    (targets : Targets operator world.pages policy target) :
    identifier = target := by
  obtain ⟨record', policy', stored', parsed', targets'⟩ := uses
  obtain rfl := Option.some.inj (stored.symm.trans stored')
  obtain rfl := Except.ok.inj (parsed.symm.trans parsed')
  exact targets'.unique targets

namespace Turns

section Calls

variable {address : Address}
variable {uses : Json → Prop}

omit [TimeScale Time] in
theorem within_of_read (operator : Operator Time) :
    (readCall operator address).Within address uses := by
  refine ⟨?_, ?_⟩
  · rintro _ ⟨⟩
    rfl
  · rintro _ ⟨⟩

theorem within_of_page
    (kind : ResourceKind)
    (token : Option Json) :
    (Call.listPage kind token).Within address uses := by
  refine ⟨?_, ?_⟩
  · rintro _ ⟨⟩
  · rintro _ ⟨⟩

omit [TimeScale Time] in
/-- A planned call names no record, but the resource that it is planned for. -/
theorem named_of_planned
    {policy : Policy}
    {identifier : Json}
    {call : Call}
    (planned : .ok call ∈ plan policy identifier) :
    call.record? = none ∧ call.resource? = some identifier := by
  unfold plan at planned
  split at planned
  · rcases List.mem_cons.mp planned with isDelete | isChange
    · cases isDelete
      exact ⟨rfl, rfl⟩
    · obtain ⟨kind, _, rfl⟩ :=
        eq_of_typeChange_ok (List.mem_singleton.mp isChange).symm
      exact ⟨rfl, rfl⟩
  · rcases List.mem_cons.mp planned with isChange | isPut
    · obtain ⟨kind, _, rfl⟩ := eq_of_typeChange_ok isChange.symm
      exact ⟨rfl, rfl⟩
    · cases List.mem_singleton.mp isPut
      exact ⟨rfl, rfl⟩

/-- A planned change stays with its own resource. -/
theorem within_of_planned
    {policy : Policy}
    {identifier : Json}
    {call : Call}
    (planned : .ok call ∈ plan policy identifier)
    (used : uses identifier) :
    call.Within address uses := by
  obtain ⟨unrecorded, resource⟩ := named_of_planned planned
  refine ⟨?_, ?_⟩
  · intro other isNamed
    rw [unrecorded] at isNamed
    cases isNamed
  · intro other isNamed
    rw [resource] at isNamed
    cases isNamed
    exact used

omit [TimeScale Time] in
/-- A write-back names no resource, and no record but the one that was read. -/
theorem within_of_write
    {record : Members}
    {policy : Policy}
    (identifier : Json)
    (parsed : ofMembers record = .ok policy)
    (own : addressOf record = address) :
    (writeCall operator (settledPolicy policy identifier)).Within address uses := by
  have shown := shows_of_ofMembers parsed
  refine ⟨?_, ?_⟩
  · rintro _ ⟨⟩
    rw [← own, ← shown.address_eq]
    simp [settledPolicy, Policy.annotate]
  · rintro _ ⟨⟩

end Calls

/-- A policy that was read in a history is that of the stored record. -/
theorem stored_of_replays
    {reads rest : History}
    {policy : Policy}
    {before after : World × Nat}
    (regular : serve.Regular)
    (read : Reading operator job.address readRetries reads (.ok (some policy)))
    (replays : Replays (job.answering serve) before (reads ++ rest) after) :
    ∃ record, before.1.records job.address = some record ∧
      ofMembers record = .ok policy := by
  obtain ⟨middle, reading, _⟩ := replays.append_inv
  have unwritten : ∀ exchange ∈ reads, ¬ Writes exchange.call := by
    intro exchange inside
    rw [read.reads exchange inside]
    exact not_writes_of_looks (.inl ⟨_, _, rfl⟩)
  obtain ⟨_, truthful⟩ := regular.records_of_replays reading unwritten
  obtain ⟨record, inside, parsed⟩ := read.exists_record
  obtain ⟨_, stored, same⟩ := truthful _ _ _ inside
  cases same
  exact ⟨record, stored, parsed⟩

/-- A reconcile whose record bears its own name keeps to its part of the world. -/
theorem within_of_underway
    {call : Call}
    {count : Nat}
    (regular : serve.Regular)
    (own : ∀ record, world.records job.address = some record →
      addressOf record = job.address)
    (underway : Underway operator job.address history call)
    (replays : Replays (job.answering serve) (world, 0) history (last, count)) :
    call.Within job.address (job.Uses operator world) := by
  cases underway with
  | reading reading =>
      exact within_of_read operator
  | @listing _ _ _ kind token read supported lists =>
      exact within_of_page (resourceKind kind) token
  | @changing reads lookups changes policy kind identifier made rest _ read
        supported lookup
      planned change =>
      obtain ⟨_, shown⟩ := regular.pages_of_replays replays
      have targets : Targets operator world.pages policy identifier := by
        apply targets_of_lookup supported lookup
        intro exchange inside
        exact shown exchange
          (List.mem_append_left _ (List.mem_append_right _ inside))
      rw [List.append_assoc] at replays
      obtain ⟨record, stored, parsed⟩ := stored_of_replays regular read replays
      have member : .ok call ∈ plan policy identifier := by
        rw [planned]
        exact List.mem_append_right _ List.mem_cons_self
      exact within_of_planned member ⟨record, policy, stored, parsed, targets⟩
  | writing read supported lookup change =>
      rw [List.append_assoc] at replays
      obtain ⟨record, stored, parsed⟩ := stored_of_replays regular read replays
      exact within_of_write _ parsed (own record stored)

/--
All calls of a reconcile that has the world to itself keep to its part of the world.
-/
theorem Alone.within
    {outcome : Except Fault (ReconcileResult Nat)}
    {exchange : Exchange}
    (regular : serve.Regular)
    (own : ∀ record, world.records job.address = some record →
      addressOf record = job.address)
    (alone : Alone operator serve job world history outcome last)
    (inside : exchange ∈ history) :
    exchange.call.Within job.address (job.Uses operator world) := by
  obtain ⟨runs, count, replays⟩ := alone
  obtain ⟨before, later, rfl⟩ := List.append_of_mem inside
  obtain ⟨next, leads, _⟩ := runs.split_call
  have underway := ((reconcile_meets operator job.address).of_leads leads).1
  obtain ⟨middle, earlier, _⟩ := replays.append_inv
  exact within_of_underway regular own underway earlier

end Turns

end PolicyReconciler

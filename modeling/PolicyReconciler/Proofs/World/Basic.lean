import Mathlib.Logic.Function.Basic
import PolicyReconciler.Platform.Backend
import PolicyReconciler.Proofs.VpcLattice.Pages
import PolicyReconciler.Proofs.Program.Replay
import PolicyReconciler.Proofs.Reconcile.Calls

namespace PolicyReconciler

/-!
# Worlds

A world holds the auth state of every resource, the pages of the listings and the
stored records.  No call fails in it without a reason: a record that is asked for
does not exist, a replacement is out of date, a resource is of another kind than
the one it is taken for, or there is no policy to remove.
-/

open Program Policy VpcLattice Reconcile PolicyStore

/-- The auth type of a resource and the policy attached to it, if there is one. -/
structure AuthState where
  authType : Json
  policy : Option Json

/-- The resources, the pages of the listings by their tokens, and the records. -/
structure World where
  resources : Json → AuthState
  pages : ResourceKind → Option Json → Json
  records : Address → Option Members

namespace World

open scoped Classical in
/-- A world in which one resource is guarded otherwise. -/
noncomputable def setAuth
    (world : World)
    (identifier : Json)
    (state : AuthState) :
    World :=
  { world with resources := Function.update world.resources identifier state }

open scoped Classical in
/-- A world in which a record was stored. -/
noncomputable def store
    (world : World)
    (address : Address)
    (record : Members) :
    World :=
  { world with records := Function.update world.records address (some record) }

/-- How a world answers a call, and what becomes of it. -/
inductive Answers : World → Call → Except Fault Json → World → Prop where
  | read {world : World} {address : Address} {timeout : Json} {record : Members}
      (stored : world.records address = some record) :
      Answers world (.readRecord address timeout) (.ok (.obj record)) world
  | unread {world : World} {address : Address} {timeout : Json} {fault : Fault}
      (absent : world.records address = none)
      (gone : TellsMissing fault) :
      Answers world (.readRecord address timeout) (.error fault) world
  | replaced {world : World} {address : Address} {body old : Members}
        {timeout : Json}
      (answer version : Json)
      (stored : world.records address = some old)
      (current : versionOf body = versionOf old) :
      Answers world (.replaceRecord address (.obj body) timeout) (.ok answer)
        (world.store address (restamp body version))
  | rejected {world : World} {address : Address}
        {body timeout : Json} {fault : Fault}
      (outdated :
        ∀ members old, body = .obj members → world.records address = some old →
        versionOf members ≠ versionOf old) :
      Answers world (.replaceRecord address body timeout) (.error fault) world
  | listed {world : World} (kind : ResourceKind) (token : Option Json) :
      Answers world (.listPage kind token) (.ok (world.pages kind token)) world
  | changed {world : World} {kind : ResourceKind} {identifier authType : Json}
      (answer : Json)
      (named : resourceKindOf identifier = .ok kind) :
      Answers world (.setAuthType kind identifier authType) (.ok answer)
        (world.setAuth identifier ⟨authType, (world.resources identifier).policy⟩)
  | mistaken {world : World} {kind : ResourceKind}
        {identifier authType : Json} {fault : Fault}
      (other : resourceKindOf identifier ≠ .ok kind) :
      Answers world (.setAuthType kind identifier authType) (.error fault) world
  | attached {world : World} (identifier document : Json) (answer : Members) :
      Answers world (.putAuthPolicy identifier document) (.ok (.obj answer))
        (world.setAuth identifier
          ⟨(world.resources identifier).authType, some document⟩)
  | detached {world : World} {identifier document : Json} (answer : Json)
      (present : (world.resources identifier).policy = some document) :
      Answers world (.deleteAuthPolicy identifier) (.ok answer)
        (world.setAuth identifier ⟨(world.resources identifier).authType, none⟩)
  | bare {world : World} {identifier : Json} {fault : Fault}
      (absent : (world.resources identifier).policy = none)
      (gone : fault.hasServiceCode "ResourceNotFoundException" = true) :
      Answers world (.deleteAuthPolicy identifier) (.error fault) world
  | loadedCluster {world : World} (answer : Except Fault Json) :
      Answers world .loadClusterConfiguration answer world
  | loadedUser {world : World} (answer : Except Fault Json) :
      Answers world .loadUserConfiguration answer world

/--
The pages of a listing from a token on that end, with all their items and their
number.
-/
inductive Chain
    (pages : Option Json → Json) :
    Option Json → List Json → Nat → Prop where
  | last {token : Option Json} {items : List Json}
      (read : pageItems (pages token) = .ok items)
      (ended : nextToken? (pages token) = none) :
      Chain pages token items 1
  | onward {token : Option Json} {next : Json}
        {items others : List Json} {length : Nat}
      (read : pageItems (pages token) = .ok items)
      (more : nextToken? (pages token) = some next)
      (rest : Chain pages (some next) others length) :
      Chain pages token (items ++ others) (length + 1)

section Auth

variable {world : World} {identifier : Json}

@[simp] theorem resources_setAuth_same (state : AuthState) :
    (world.setAuth identifier state).resources identifier = state := by
  simp [setAuth]

theorem resources_setAuth_other
    {other : Json}
    (state : AuthState)
    (different : other ≠ identifier) :
    (world.setAuth identifier state).resources other = world.resources other := by
  simp [setAuth, different]

/-- Of two settings of a resource the later counts. -/
theorem setAuth_setAuth (first second : AuthState) :
    (world.setAuth identifier first).setAuth identifier second =
      world.setAuth identifier second := by
  simp [setAuth]

/-- Guarding a resource as it is guarded changes nothing. -/
theorem setAuth_of_eq
    {state : AuthState}
    (same : world.resources identifier = state) :
    world.setAuth identifier state = world := by
  simp [setAuth, ← same]

end Auth

section Store

variable {world : World} {address : Address} {record : Members}

@[simp] theorem records_store_same :
    (world.store address record).records address = some record := by
  simp [store]

/-- Storing a record leaves the others. -/
theorem records_store_other
    {other : Address}
    (different : other ≠ address) :
    (world.store address record).records other = world.records other := by
  simp [store, different]

/-- A record that is stored at its own address leaves every record at its own. -/
theorem own_store
    (own :
      ∀ other stored, world.records other = some stored → addressOf stored = other)
    (atHome : addressOf record = address) :
    ∀ other stored, (world.store address record).records other = some stored →
      addressOf stored = other := by
  intro other stored found
  by_cases same : other = address
  · subst same
    rw [records_store_same] at found
    cases found
    exact atHome
  · rw [records_store_other same] at found
    exact own other stored found

@[simp] theorem resources_store :
    (world.store address record).resources = world.resources :=
  rfl

end Store

/-! ## Answers -/

section Answered

variable {world after : World}
variable {call : Call}
variable {answer : Except Fault Json}

/-- An answered call leaves the pages. -/
theorem Answers.pages_eq
    (answered : Answers world call answer after) :
    after.pages = world.pages := by
  cases answered <;> rfl

/-- Only writing changes records. -/
theorem Answers.records_of_not_writes
    (answered : Answers world call answer after)
    (unwritten : ¬ Writes call) :
    after.records = world.records := by
  cases answered with
  | replaced =>
      exact absurd ⟨_, _, _, rfl⟩ unwritten
  | _ =>
      rfl

/-- The answer to a call that is about no record is the same with other records. -/
theorem Answers.with_records
    (answered : Answers world call answer after)
    (unread : ∀ target timeout, call ≠ .readRecord target timeout)
    (unwritten : ¬ Writes call)
    (records : Address → Option Members) :
    ∃ last, Answers { world with records := records } call answer last := by
  cases answered with
  | read | unread =>
      exact absurd rfl (unread _ _)
  | replaced | rejected =>
      exact absurd ⟨_, _, _, rfl⟩ unwritten
  | listed kind token =>
      exact ⟨_, .listed kind token⟩
  | changed answer named =>
      exact ⟨_, .changed answer named⟩
  | mistaken other =>
      exact ⟨_, .mistaken other⟩
  | attached identifier document answer =>
      exact ⟨_, .attached identifier document answer⟩
  | detached answer present =>
      exact ⟨_, .detached answer present⟩
  | bare absent gone =>
      exact ⟨_, .bare absent gone⟩
  | loadedCluster answer =>
      exact ⟨_, .loadedCluster answer⟩
  | loadedUser answer =>
      exact ⟨_, .loadedUser answer⟩

/-- A page that is shown is one of the listings. -/
theorem Answers.showsPage
    (answered : Answers world call answer after) :
    ShowsPage world.pages ⟨call, answer⟩ := by
  rintro kind token page isList isPage
  dsimp only at isList isPage
  subst isList isPage
  cases answered
  rfl

/-- A record that is read is the one that is stored. -/
theorem Answers.stored_of_read
    {target : Address}
    {timeout body : Json}
    (answered : Answers world (.readRecord target timeout) (.ok body) after) :
    ∃ record, world.records target = some record ∧ body = .obj record := by
  cases answered with
  | read stored =>
      exact ⟨_, stored, rfl⟩

/-- A replacement that carries the stored version takes effect. -/
theorem Answers.exists_stored
    {address : Address}
    {old body : Members}
    {timeout : Json}
    (stored : world.records address = some old)
    (current : versionOf body = versionOf old)
    (answered :
      Answers world (.replaceRecord address (.obj body) timeout) answer after) :
    (∃ accepted, answer = .ok accepted) ∧
      ∃ version, after = world.store address (restamp body version) := by
  cases answered with
  | replaced accepted version =>
      exact ⟨⟨accepted, rfl⟩, version, rfl⟩
  | rejected outdated =>
      exact absurd current (outdated _ _ rfl stored)

end Answered

/-! ## A service for a world -/

/-- The cluster's answer to a replacement of an outdated record. -/
def conflict : Fault :=
  .api ⟨.int 409, .str "Conflict", .null, .null⟩

open scoped Classical in
/-- Answer a call, and go on in the world that it leads to. -/
noncomputable def serve (world : World) : Call → Except Fault Json × World
  | .readRecord address _ =>
      match world.records address with
      | some record => (.ok (.obj record), world)
      | none => (.error Platform.notFound, world)
  | .replaceRecord address (.obj body) _ =>
      match world.records address with
      | some old =>
          if versionOf body = versionOf old then
            (.ok (.obj body), world.store address
              (restamp body (.arr [versionOf old])))
          else
            (.error conflict, world)
      | none => (.error Platform.notFound, world)
  | .replaceRecord _ _ _ => (.error conflict, world)
  | .listPage kind token => (.ok (world.pages kind token), world)
  | .setAuthType kind identifier authType =>
      if resourceKindOf identifier = .ok kind then
        (.ok (.obj []),
          world.setAuth identifier ⟨authType, (world.resources identifier).policy⟩)
      else
        (.error (.wrongUse "identifier of another kind"), world)
  | .putAuthPolicy identifier document =>
      (.ok (.obj [("policy", document)]),
        world.setAuth identifier
          ⟨(world.resources identifier).authType, some document⟩)
  | .deleteAuthPolicy identifier =>
      match (world.resources identifier).policy with
      | some _ =>
          (.ok (.obj []),
            world.setAuth identifier ⟨(world.resources identifier).authType, none⟩)
      | none => (.error (Platform.noPolicyOn identifier), world)
  | .loadClusterConfiguration => (.ok .null, world)
  | .loadUserConfiguration => (.ok .null, world)

/-- The world serves what it answers. -/
theorem answers_serve (world : World) (call : Call) :
    Answers world call (world.serve call).1 (world.serve call).2 := by
  cases call with
  | readRecord address timeout =>
      simp only [serve]
      split
      · rename_i record stored
        exact .read stored
      · rename_i absent
        exact .unread absent ⟨_, rfl, rfl⟩
  | replaceRecord address body timeout =>
      cases body with
      | obj members =>
          simp only [serve]
          split
          · rename_i old stored
            split_ifs with current
            · exact .replaced _ _ stored current
            · refine .rejected fun members' old' same stored' => ?_
              cases same
              rw [stored] at stored'
              cases stored'
              exact current
          · rename_i absent
            refine .rejected fun members' old' same stored' => ?_
            rw [absent] at stored'
            cases stored'
      | null | bool | int | float | str | arr =>
          exact .rejected fun members old same _ => by cases same
  | listPage kind token =>
      exact .listed kind token
  | setAuthType kind identifier authType =>
      simp only [serve]
      split_ifs with named
      · exact .changed _ named
      · exact .mistaken named
  | putAuthPolicy identifier document =>
      exact .attached _ _ _
  | deleteAuthPolicy identifier =>
      simp only [serve]
      split
      · rename_i document present
        exact .detached _ present
      · rename_i absent
        exact .bare absent rfl
  | loadClusterConfiguration =>
      exact .loadedCluster _
  | loadUserConfiguration =>
      exact .loadedUser _

/-- What a world does with an effect: it serves calls and lets all else pass. -/
noncomputable def handle
    {Time : Type}
    (time : Time)
    (effect : Effect Time)
    (world : World) :
    effect.Reply × World :=
  match effect with
  | .call request => world.serve request
  | silent => (silent.reply time ⟨.null, none⟩ (.error .missingCredentials), world)

/-- The world's handler shows what its calls are answered. -/
theorem shows_handle {Time : Type} (time : Time) :
    Program.Shows Answers id (handle time) where
  calls := fun request world => answers_serve world request
  others := by
    intro effect world silent
    cases effect with
    | call request =>
        exact silent.elim
    | _ =>
        rfl

end World

end PolicyReconciler

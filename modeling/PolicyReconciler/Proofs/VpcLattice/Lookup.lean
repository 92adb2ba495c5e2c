import PolicyReconciler.VpcLattice.Resolver
import PolicyReconciler.Proofs.Program.Quiet

namespace PolicyReconciler.VpcLattice

/-!
# Calls of a lookup

Counting, timing and logging a call leave it as it is, so a call to the Lattice
service is one exchange whose answer is the outcome.  A listing is read page by
page; a lookup reads one listing and picks the first item with the name that the
target stands for.
-/

open Program

variable {Time Result : Type} [TimeScale Time]
variable {permits : History → Call → Prop}
variable {past : History}

/-! ## One call -/

/-- Measuring a request changes nothing in what it meets. -/
theorem measured_meets
    {ends : History → Except Fault Result → Prop}
    {request : Program Time Result}
    (operation : Operation)
    (inner : request.Meets permits ends past) :
    (measured operation request).Meets permits ends past := by
  refine Meets.readClock_bind fun start => Meets.ensuring_quietly ?_ ?_
  · apply Meets.followedBy
    apply inner.mono
    intro after outcome reached
    cases outcome with
    | ok result =>
        exact (Quietly.count _).meets_bind reached
    | error fault =>
        dsimp only
        split
        · refine (Quietly.count _).meets_bind ?_
          split
          · exact (Quietly.count _).meets_bind reached
          · exact reached
        · exact reached
  · exact Quietly.readClock_bind fun stop => Quietly.observe _ _

omit [TimeScale Time] in
/-- Reporting its faults changes nothing in what a request meets. -/
theorem reporting_meets
    {ends : History → Except Fault Result → Prop}
    {request : Program Time Result}
    (activity : String)
    (inner : request.Meets permits ends past) :
    (reporting activity request).Meets permits ends past := by
  apply Meets.recover inner
  · intro after result reached
    exact reached
  · intro after fault reached
    split
    · exact (Quietly.log _ _ _).meets_bind reached
    · exact reached

/--
A call to the service is made once its turn comes, and its answer is the outcome.
-/
theorem invoke_meets
    {operator : Operator Time}
    {operation : Operation}
    {request : Call}
    {ends : History → Except Fault Json → Prop}
    (stalled : ∀ fault, Limiter.turn operator.rates.lattice = .error fault →
      ends past (.error fault))
    (permitted : permits past request)
    (answered : ∀ answer, ends (past ++ [⟨request, answer⟩]) answer) :
    (invoke operator operation request).Meets permits ends past :=
  measured_meets operation (Limiter.limited_meets stalled permitted answered)

/-! ## Listings -/

/-- What reading a listing exchanges and gives, from the page with a token on. -/
inductive Listing (operator : Operator Time) (kind : ResourceKind) :
    Nat → Option Json → History → Except Fault (List Json) → Prop where
  | tooLong (token : Option Json) :
      Listing operator kind 0 token []
        (.error (.runtime "listing has too many pages"))
  | stalled {pages : Nat} (token : Option Json) {fault : Fault}
      (halted : Limiter.turn operator.rates.lattice = .error fault) :
      Listing operator kind (pages + 1) token [] (.error fault)
  | refused {pages : Nat} (token : Option Json) (fault : Fault) :
      Listing operator kind (pages + 1) token [⟨.listPage kind token, .error fault⟩]
        (.error fault)
  | malformed {pages : Nat} (token : Option Json) {page : Json} {fault : Fault}
      (unread : pageItems page = .error fault) :
      Listing operator kind (pages + 1) token [⟨.listPage kind token, .ok page⟩]
        (.error fault)
  | last {pages : Nat} (token : Option Json) {page : Json} {items : List Json}
      (read : pageItems page = .ok items)
      (ended : nextToken? page = none) :
      Listing operator kind (pages + 1) token
        [⟨.listPage kind token, .ok page⟩] (.ok items)
  | onward {pages : Nat} (token : Option Json) {page next : Json}
        {items : List Json}
      {calls : History} {listed : Except Fault (List Json)}
      (read : pageItems page = .ok items)
      (more : nextToken? page = some next)
      (rest : Listing operator kind pages (some next) calls listed) :
      Listing operator kind (pages + 1) token
        (⟨.listPage kind token, .ok page⟩ :: calls)
        (listed.map (items ++ ·))

/-- Asks for a page of resources of a kind. -/
def Lists (kind : ResourceKind) (call : Call) : Prop :=
  ∃ token, call = .listPage kind token

/-- Every exchange of a listing asks for a page. -/
theorem Listing.lists
    {operator : Operator Time}
    {kind : ResourceKind}
    {pages : Nat}
    {token : Option Json}
    {calls : History}
    {listed : Except Fault (List Json)}
    (listing : Listing operator kind pages token calls listed) :
    ∀ exchange ∈ calls, Lists kind exchange.call := by
  induction listing with
  | tooLong token =>
      simp
  | stalled token halted =>
      simp
  | refused token fault =>
      simp [Lists]
  | malformed token unread =>
      simp [Lists]
  | last token read ended =>
      simp [Lists]
  | onward token read more rest inductionHypothesis =>
      intro exchange member
      rcases List.mem_cons.mp member with rfl | later
      · exact ⟨token, rfl⟩
      · exact inductionHypothesis exchange later

/-- Reading the pages from one on meets what all its listings agree with. -/
theorem listFrom_meets
    {operator : Operator Time}
    {kind : ResourceKind}
    {pages : Nat}
    {token : Option Json}
    {ends : History → Except Fault (List Json) → Prop}
    (permitted : ∀ calls token, (∀ exchange ∈ calls, Lists kind exchange.call) →
      permits (past ++ calls) (.listPage kind token))
    (ended : ∀ calls listed, Listing operator kind pages token calls listed →
      ends (past ++ calls) listed) :
    (listFrom operator kind pages token).Meets permits ends past := by
  induction pages generalizing token past ends with
  | zero =>
      exact (Quietly.fail _).meets (by simpa using ended [] _ (.tooLong token))
  | succ pages inductionHypothesis =>
      apply Meets.followedBy
      apply invoke_meets
      · intro fault halted
        exact (Quietly.fail fault).meets
          (by simpa using ended [] _ (.stalled token halted))
      · simpa using permitted [] token (by simp)
      intro answer
      cases answer with
      | error fault =>
          exact (Quietly.fail fault).meets (ended _ _ (.refused token fault))
      | ok page =>
          apply Meets.followedBy
          apply (Quietly.ofExcept _).meets
          cases read : pageItems page with
          | error fault =>
              exact (Quietly.fail fault).meets (ended _ _ (.malformed token read))
          | ok items =>
              dsimp only
              cases more : nextToken? page with
              | none =>
                  exact (Quietly.finish items).meets
                    (ended _ _ (.last token read more))
              | some next =>
                  apply Meets.followedBy
                  apply inductionHypothesis
                  · intro calls later listing
                    rw [List.append_assoc]
                    apply permitted
                    intro exchange member
                    rcases List.mem_append.mp member with first | rest
                    · exact ⟨token, by simp_all⟩
                    · exact listing exchange rest
                  · intro calls listed listing
                    have whole := ended _ _ (.onward token read more listing)
                    rw [List.append_assoc]
                    cases listed <;> exact whole

/-! ## Lookups -/

/-- The name under which the resource for a target is looked for. -/
def soughtName (kind : ResourceKind) (target : TargetRef) (recordNamespace : Json) :
    Except Fault Json :=
  match kind with
  | .serviceNetwork => .ok target.name
  | .service => (serviceName target.name recordNamespace).map .str

/-- What resolving a target exchanges and finds: an id, or nothing with the name. -/
inductive Resolution
    (operator : Operator Time)
    (kind : ResourceKind)
    (target : TargetRef)
    (recordNamespace : Json) : History → Except Fault (Option Json) → Prop where
  | unnamed {fault : Fault}
      (unnamed : soughtName kind target recordNamespace = .error fault) :
      Resolution operator kind target recordNamespace [] (.error fault)
  | listed {name : Json} {calls : History} {items : Except Fault (List Json)}
      (named : soughtName kind target recordNamespace = .ok name)
      (listing : Listing operator kind operator.pageLimit none calls items) :
      Resolution operator kind target recordNamespace calls
        (items.bind (firstNamed? name))

/-- Every exchange of a lookup asks for a page. -/
theorem Resolution.lists
    {operator : Operator Time}
    {kind : ResourceKind}
    {target : TargetRef}
    {recordNamespace : Json}
    {calls : History}
    {found : Except Fault (Option Json)}
    (resolution : Resolution operator kind target recordNamespace calls found) :
    ∀ exchange ∈ calls, Lists kind exchange.call := by
  cases resolution with
  | unnamed nameless =>
      simp
  | listed named listing =>
      exact listing.lists

/-- The outcome of a lookup by name that has found an id, or nothing. -/
def identified (kind : ResourceKind) (name : Json) :
    Except Fault (Option Json) → Except Fault Json
  | .ok (some identifier) => .ok identifier
  | .ok none => .error (.dependencyNotFound (.str kind.text) name)
  | .error fault => .error fault

/-- What a lookup by name can come to. -/
theorem findId_meets
    {operator : Operator Time}
    {kind : ResourceKind}
    {name : Json}
    {ends : History → Except Fault Json → Prop}
    (permitted : ∀ calls token, (∀ exchange ∈ calls, Lists kind exchange.call) →
      permits (past ++ calls) (.listPage kind token))
    (ended :
      ∀ calls items, Listing operator kind operator.pageLimit none calls items →
      ends (past ++ calls) (identified kind name (items.bind (firstNamed? name)))) :
    (findId operator kind name).Meets permits ends past := by
  apply Meets.followedBy
  apply reporting_meets
  apply listFrom_meets permitted
  intro calls items listing
  have reached := ended calls items listing
  cases items with
  | error fault =>
      exact (Quietly.fail fault).meets reached
  | ok items =>
      dsimp only [Except.bind] at reached ⊢
      generalize firstNamed? name items = picked at reached ⊢
      rcases picked with fault | _ | identifier
      · exact (Quietly.fail fault).meets reached
      · exact (Quietly.fail _).meets reached
      · exact (Quietly.finish identifier).meets reached

/-- Resolving a target meets what all its resolutions agree with. -/
theorem resolve_meets
    {operator : Operator Time}
    {kind : ResourceKind}
    {target : TargetRef}
    {recordNamespace : Json}
    {ends : History → Except Fault Json → Prop}
    (permitted : ∀ calls token, (∀ exchange ∈ calls, Lists kind exchange.call) →
      permits (past ++ calls) (.listPage kind token))
    (found : ∀ calls identifier,
      Resolution operator kind target recordNamespace calls
        (.ok (some identifier)) →
      ends (past ++ calls) (.ok identifier))
    (missing : ∀ calls name,
      Resolution operator kind target recordNamespace calls (.ok none) →
      ends (past ++ calls) (.error (.dependencyNotFound (.str kind.text) name)))
    (failed : ∀ calls fault,
      Resolution operator kind target recordNamespace calls (.error fault) →
      ends (past ++ calls) (.error fault)) :
    (resolve operator kind target recordNamespace).Meets permits ends past := by
  have lookup : ∀ name, soughtName kind target recordNamespace = .ok name →
      (findId operator kind name).Meets permits ends past := by
    intro name named
    apply findId_meets permitted
    intro calls items listing
    have resolution :
        Resolution operator kind target recordNamespace calls
          (items.bind (firstNamed? name)) :=
      .listed named listing
    cases picked : items.bind (firstNamed? name) with
    | error fault =>
        exact failed calls fault (picked ▸ resolution)
    | ok picked? =>
        cases picked? with
        | none =>
            exact missing calls name (picked ▸ resolution)
        | some identifier =>
            exact found calls identifier (picked ▸ resolution)
  cases kind with
  | serviceNetwork =>
      exact lookup target.name rfl
  | service =>
      apply Meets.followedBy
      apply (Quietly.ofExcept _).meets
      cases named : serviceName target.name recordNamespace with
      | error fault =>
          have resolution :
              Resolution operator .service target recordNamespace []
                (.error fault) :=
            .unnamed (by rw [soughtName, named]; rfl)
          exact (Quietly.fail fault).meets
            (by simpa using failed [] fault resolution)
      | ok name =>
          exact lookup (.str name) (by rw [soughtName, named]; rfl)

end PolicyReconciler.VpcLattice

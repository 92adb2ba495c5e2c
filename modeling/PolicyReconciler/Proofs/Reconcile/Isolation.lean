import PolicyReconciler.Proofs.VpcLattice.Listings
import PolicyReconciler.Proofs.VpcLattice.Naming
import PolicyReconciler.Proofs.Turns.Part

namespace PolicyReconciler

/-!
# Routes of different namespaces

A policy for a route reaches the service with the name of its route and namespace
and no other one, where the listings give each service under its own name.  So the
service of a route in another namespace is out of its reach, unless both routes have
one name for their services.  Then nothing keeps the policy from it.
-/

open Program

variable {Time : Type} [TimeScale Time]
variable {operator : Operator Time}
variable {history : History}
variable {nameOf : Json → String}
variable {identifier : Json}

namespace VpcLattice

/-! ## Listed services -/

/-- Whether an item stands on a page of the services that was read. -/
def ShowsService (history : History) (item : Members) : Prop :=
  ∃ token page items,
    ⟨.listPage .service token, .ok page⟩ ∈ history ∧ pageItems page = .ok items ∧
      .obj item ∈ items

/--
Whether the services are listed under their own names: an id stands for one name
only.
-/
def ShowsNames (nameOf : Json → String) (history : History) : Prop :=
  ∀ item name identifier,
    ShowsService history item → HasName name item →
      Members.find? item "id" = some identifier →
      nameOf identifier = name

/-- A part of a history shows the names that the whole shows. -/
theorem ShowsNames.of_subset
    {part : History}
    (shown : ShowsNames nameOf history)
    (subset : ∀ exchange ∈ part, exchange ∈ history) :
    ShowsNames nameOf part := by
  rintro item name identifier ⟨token, page, items, inside, read, listed⟩
  exact shown item name identifier
    ⟨token, page, items, subset _ inside, read, listed⟩

/-- A listed item stands on one of the pages. -/
theorem Listing.exists_page
    {kind : ResourceKind}
    {limit : Nat}
    {token : Option Json}
    {calls : History}
    {items : List Json}
    {item : Json}
    (listing : Listing operator kind limit token calls (.ok items))
    (inside : item ∈ items) :
    ∃ token page shown,
      ⟨.listPage kind token, .ok page⟩ ∈ calls ∧ pageItems page = .ok shown ∧
        item ∈ shown := by
  generalize ended : Except.ok items = result at listing
  induction listing generalizing items with
  | tooLong token | stalled token halted | refused token fault
  | malformed token unread =>
      cases ended
  | last token read final =>
      cases ended
      exact ⟨token, _, _, List.mem_singleton_self _, read, inside⟩
  | @onward limit token page next shown calls listed read more rest
        inductionHypothesis =>
      cases listed with
      | error fault =>
          cases ended
      | ok others =>
          cases ended
          rcases List.mem_append.mp inside with onPage | later
          · exact ⟨token, page, shown, List.mem_cons_self, read, onPage⟩
          · obtain ⟨token', page', shown', called, found⟩ :=
              inductionHypothesis later rfl
            exact ⟨token', page', shown', List.mem_cons_of_mem _ called, found⟩

/-- An id that was picked by a name belongs to an item with that name. -/
theorem exists_of_firstNamed?
    {name : String}
    {items : List Json}
    (picked : firstNamed? (.str name) items = .ok (some identifier)) :
    ∃ item, .obj item ∈ items ∧ HasName name item ∧
      Members.find? item "id" = some identifier := by
  induction items with
  | nil =>
      cases picked
  | cons first rest inductionHypothesis =>
      cases first with
      | obj item =>
          rw [firstNamed?] at picked
          split at picked
          · rename_i named
            cases found : Members.find? item "id" with
            | none =>
                rw [found] at picked
                cases picked
            | some other =>
                rw [found] at picked
                cases picked
                exact ⟨item, List.mem_cons_self,
                  (alike_name_iff name item).mp named, found⟩
          · obtain ⟨other, inside, found⟩ := inductionHypothesis picked
            exact ⟨other, List.mem_cons_of_mem _ inside, found⟩
      | null | bool | int | float | str | arr =>
          cases picked

/-- The service that is found for a route has the name that was looked for. -/
theorem Resolution.nameOf_eq
    {target : TargetRef}
    {recordNamespace : Json}
    {name : String}
    (resolution :
      Resolution operator .service target recordNamespace history
        (.ok (some identifier)))
    (named : serviceName target.name recordNamespace = .ok name)
    (shown : ShowsNames nameOf history) :
    nameOf identifier = name := by
  generalize ended : Except.ok (some identifier) = found at resolution
  cases resolution with
  | unnamed nameless =>
      cases ended
  | @listed sought _ items sought_eq listing =>
      rw [soughtName, named] at sought_eq
      cases sought_eq
      cases items with
      | error fault =>
          cases ended
      | ok items =>
          obtain ⟨item, inside, hasName, isId⟩ := exists_of_firstNamed? ended.symm
          obtain ⟨token, page, items, called, read, onPage⟩ :=
            listing.exists_page inside
          exact shown item name identifier
            ⟨token, page, items, called, read, onPage⟩ hasName isId

/-- A lookup that ran is one of the courses of a lookup. -/
theorem resolution_of_runs
    {kind : ResourceKind}
    {target : TargetRef}
    {recordNamespace : Json}
    (runs : (resolve operator kind target recordNamespace).Runs history
      (.ok identifier)) :
    Resolution operator kind target recordNamespace history
      (.ok (some identifier)) := by
  have meets :
      (resolve operator kind target recordNamespace).Meets (fun _ _ => True)
      (fun calls outcome => ∀ identifier, outcome = .ok identifier →
        Resolution operator kind target recordNamespace calls
          (.ok (some identifier))) [] := by
    apply resolve_meets
    · exact fun _ _ _ => trivial
    · rintro calls found resolution _ ⟨⟩
      exact resolution
    · rintro calls name resolution _ ⟨⟩
    · rintro calls fault resolution _ ⟨⟩
  exact meets.of_runs runs identifier rfl

end VpcLattice

namespace Reconcile

open VpcLattice PolicyStore

variable {address : Address}

/-! ## Policies of routes -/

/-- Whether the record that was read holds a policy for a route. -/
def ActsFor (operator : Operator Time) (address : Address) (history : History)
    (target : RouteTarget) : Prop :=
  ∃ record policy, ∃ kind : TargetKind,
    ⟨readCall operator address, .ok (.obj record)⟩ ∈ history ∧
      Policy.ofMembers record = .ok policy ∧
      policy.target.kind = .str kind.text ∧ kind.isRoute = true ∧
      policy.target.name = .str target.route ∧
      policy.recordNamespace = .str target.recordNamespace

/-- A reconcile that has made some exchanges and is about to change a resource. -/
def Changes (operator : Operator Time) (address : Address) (history : History)
    (identifier : Json) : Prop :=
  ∃ call rest,
    (reconcile operator address).Leads history (.perform (.call call) rest) ∧
      call.resource? = some identifier

/--
A resource is changed only if it was found for the target of the record that was
read.
-/
theorem Changes.exists_lookup
    (changes : Changes operator address history identifier) :
    ∃ record policy, ∃ kind : TargetKind, ∃ lookups,
      (∀ body, ⟨readCall operator address, .ok body⟩ ∈ history ↔
        body = .obj record) ∧
        Policy.ofMembers record = .ok policy ∧ policy.target.kind = .str kind.text ∧
        TargetLookup operator kind policy lookups (.ok (some identifier)) ∧
        ∀ exchange ∈ lookups, exchange ∈ history := by
  obtain ⟨call, rest, leads, named⟩ := changes
  have underway : Underway operator address ([] ++ history) call :=
    ((reconcile_meets operator address).of_leads leads).1
  rw [List.nil_append] at underway
  cases underway with
  | reading reading | listing token read supported lists
  | writing read supported lookup change =>
      cases named
  | @changing reads lookups changes policy kind resource earlier others _
      read supported lookup planned change =>
      have member : .ok call ∈ plan policy resource := by
        rw [planned]
        exact List.mem_append_right _ List.mem_cons_self
      have earlierPlanned :
          ∀ exchange ∈ changes, .ok exchange.call ∈ plan policy resource := by
        intro exchange inside
        rw [planned]
        exact List.mem_append_left _ (change.mem_plan inside)
      obtain rfl : resource = identifier :=
        Option.some.inj ((Turns.named_of_planned member).2.symm.trans named)
      obtain ⟨record, fit, only⟩ := only_record_of_stages read lookup earlierPlanned
      exact ⟨record, policy, kind, lookups, only, fit, supported, lookup,
        fun exchange inside =>
          List.mem_append_left _ (List.mem_append_right _ inside)⟩

/--
A resource that is changed for a route has the name of the service of that route.
-/
theorem Changes.nameOf_eq
    {target : RouteTarget}
    (changes : Changes operator address history identifier)
    (acts : ActsFor operator address history target)
    (shown : ShowsNames nameOf history) :
    nameOf identifier = target.serviceName := by
  obtain ⟨record, policy, kind, lookups, only, fit, supported, lookup, inHistory⟩ :=
    changes.exists_lookup
  obtain ⟨record', policy', kind', read, fit', supported', isRoute, isName,
      isNamespace⟩ := acts
  cases (only _).mp read
  cases fit.symm.trans fit'
  obtain rfl := eq_of_text supported supported'
  rw [TargetLookup, resourceKind, if_pos isRoute] at lookup
  refine lookup.nameOf_eq ?_ (shown.of_subset inHistory)
  rw [isName, isNamespace]
  exact target.sought_eq

/--
Two routes of different namespaces have one name for their services exactly if they
are confusable.  If they are not, a target of the one never resolves to the service
of the other, and no reconcile of a policy for the one ever changes it, whatever it
is answered.
-/
theorem routes_isolated
    {first second : RouteTarget}
    (different : first.recordNamespace ≠ second.recordNamespace) :
    (first.sought = second.sought ↔ first.Confusable second) ∧
      ∀ (nameOf : Json → String) (service : Json),
        ¬ first.Confusable second → second.sought = .ok (nameOf service) →
        ∀ (operator : Operator Time) (history : History),
          ShowsNames nameOf history →
          (∀ kind group,
            ¬ (resolve operator .service ⟨kind, .str first.route, group⟩
              (.str first.recordNamespace)).Runs history (.ok service)) ∧
          ∀ address, ActsFor operator address history first →
            ¬ Changes operator address history service := by
  refine ⟨RouteTarget.sought_eq_iff different, ?_⟩
  intro nameOf service apart isService operator history shown
  have otherName : nameOf service ≠ first.serviceName := by
    intro same
    apply apart
    rw [← RouteTarget.sought_eq_iff different, isService, same,
      RouteTarget.sought_eq]
  refine ⟨fun kind group runs => ?_, fun address acts changes => ?_⟩
  · exact otherName ((resolution_of_runs runs).nameOf_eq first.sought_eq shown)
  · exact otherName (changes.nameOf_eq acts shown)

/-! ## Routes with hyphens in their names -/

/-- A page with services, each given by its name and its id. -/
def servicePage (services : List (String × String)) : Json :=
  .obj [("items", .arr (services.map fun service =>
    .obj [("name", .str service.1), ("id", .str service.2)]))]

/-- A history with one page of services shows their names. -/
theorem showsNames_of_servicePage
    {services : List (String × String)}
    (only : ∀ token page, ⟨.listPage .service token, .ok page⟩ ∈ history →
      page = servicePage services)
    (named : ∀ service ∈ services, nameOf (.str service.2) = service.1) :
    ShowsNames nameOf history := by
  rintro item name identifier
    ⟨token, page, items, inside, read, listed⟩ hasName isId
  cases only token page inside
  cases read
  obtain ⟨service, isService, same⟩ := List.mem_map.mp listed
  cases same
  cases hasName
  cases isId
  exact named service isService

/-- The route `web` of the namespace `shop`. -/
def webOfShop : RouteTarget where
  route := "web"
  recordNamespace := "shop"
  isSubdomain := .label (by decide)
  isLabel := by decide
  route_le := by decide
  namespace_le := by decide

/-- The route `web-api` of the namespace `prod`. -/
def webApiOfProd : RouteTarget where
  route := "web-api"
  recordNamespace := "prod"
  isSubdomain := .label (by decide)
  isLabel := by decide
  route_le := by decide
  namespace_le := by decide

/-- A route whose namespace begins with the end of the other route. -/
def webOfApiProd : RouteTarget where
  route := "web"
  recordNamespace := "api-prod"
  isSubdomain := .label (by decide)
  isLabel := by decide
  route_le := by decide
  namespace_le := by decide

/-- The address of the policy that guards a route. -/
def guardAddress (target : RouteTarget) : Address where
  recordNamespace := .str target.recordNamespace
  name := .str "guard"

/-- The record of a policy for a route. -/
def guardRecord (target : RouteTarget) : Members :=
  [("metadata",
    .obj [("name", .str "guard"), ("namespace", .str target.recordNamespace),
      ("resourceVersion", .str "1")]),
    ("spec", .obj
      [("targetRef",
      .obj [("kind", .str "HTTPRoute"), ("name", .str target.route)]),
      ("policy", .str "allow")])]

/--
A reconcile of the policy, with some services on the one page, up to some changes.
-/
def guardHistory
    (target : RouteTarget)
    (services : List (String × String))
    (changes : History) :
    History :=
  [⟨readCall gatewayOperator (guardAddress target),
    .ok (.obj (guardRecord target))⟩,
    ⟨.listPage .service none, .ok (servicePage services)⟩] ++ changes

/-- The history of a route's run shows the names of the services. -/
theorem guardHistory_showsNames
    {target : RouteTarget}
    {services : List (String × String)}
    {changes : History}
    (apart :
      ∀ exchange ∈ changes, ∀ token, exchange.call ≠ .listPage .service token)
    (named : ∀ service ∈ services, nameOf (.str service.2) = service.1) :
    ShowsNames nameOf (guardHistory target services changes) := by
  refine showsNames_of_servicePage (fun token page inside => ?_) named
  rcases List.mem_append.mp inside with looked | changed
  · simp only [readCall, List.mem_cons, Exchange.mk.injEq, reduceCtorEq, false_and,
      Except.ok.injEq, List.not_mem_nil, or_false, false_or] at looked
    exact looked.2
  · exact absurd rfl (apart _ changed token)

/-- The history of a route's run acts for the route. -/
theorem guardHistory_actsFor
    (target : RouteTarget)
    (services : List (String × String))
    (changes : History) :
    ActsFor gatewayOperator (guardAddress target)
      (guardHistory target services changes) target :=
  ⟨guardRecord target, _, .httpRoute, List.mem_cons_self, rfl, rfl, rfl, rfl, rfl⟩

/-- Two services as they are listed, each under its own name. -/
def shopAndProd : List (String × String) :=
  [("web-shop", "svc-1"), ("web-api-prod", "svc-2")]

/-- The names of the services of two routes. -/
def shopAndProdNames : Json → String
  | .str "svc-1" => "web-shop"
  | _ => "web-api-prod"

theorem routes_isolated_webOfShop :
    webOfShop.sought ≠ webApiOfProd.sought ∧
      (∀ kind group,
        ¬ (resolve gatewayOperator .service ⟨kind, .str webOfShop.route, group⟩
          (.str webOfShop.recordNamespace)).Runs
            (guardHistory webOfShop shopAndProd [])
            (.ok (.str "svc-2"))) ∧
      ¬ Changes gatewayOperator (guardAddress webOfShop)
        (guardHistory webOfShop shopAndProd [])
        (.str "svc-2") := by
  have different : webOfShop.recordNamespace ≠ webApiOfProd.recordNamespace := by
    decide
  have apart : webOfShop.sought ≠ webApiOfProd.sought := by
    rw [RouteTarget.sought_eq, RouteTarget.sought_eq, Ne, Except.ok.injEq]
    decide
  have shown :
      ShowsNames shopAndProdNames (guardHistory webOfShop shopAndProd []) :=
    guardHistory_showsNames (by simp) (by decide)
  obtain ⟨unresolved, unchanged⟩ :=
    (routes_isolated different).2 shopAndProdNames (.str "svc-2")
    (fun confusable => apart ((RouteTarget.sought_eq_iff different).mpr confusable))
    webApiOfProd.sought_eq gatewayOperator _ shown
  exact ⟨apart, unresolved, unchanged _ (guardHistory_actsFor _ _ _)⟩

/--
The policy for the one route, about to replace what was attached for the other one.
-/
def guardRuling : History :=
  guardHistory webApiOfProd [("web-api-prod", "svc-1")]
    [⟨.setAuthType .service (.str "svc-1") signedRequests, .ok (.obj [])⟩]

set_option maxRecDepth 2048 in
/-- The run of the route changes its own service. -/
theorem guardRuling_changes :
    Changes gatewayOperator (guardAddress webApiOfProd) guardRuling
      (.str "svc-1") :=
  ⟨.putAuthPolicy (.str "svc-1") (.str "allow"), _,
    leads_of_follow 0 ⟨.null, none⟩ (by with_unfolding_all rfl), rfl⟩

/--
A route of another namespace may have the same service, and a policy may change it.
-/
theorem routes_not_always_isolated :
    (¬ ∀ first second : RouteTarget,
      first.recordNamespace ≠ second.recordNamespace →
        first.sought ≠ second.sought) ∧
      ¬ ∀ first second : RouteTarget,
        first.recordNamespace ≠ second.recordNamespace →
        ∀ (nameOf : Json → String) (service : Json),
          second.sought = .ok (nameOf service) →
          ∀ (operator : Operator Rat) (history : History),
            ShowsNames nameOf history →
            ∀ address, ActsFor operator address history first →
              ¬ Changes operator address history service := by
  have different : webApiOfProd.recordNamespace ≠ webOfApiProd.recordNamespace := by
    decide
  have same : webApiOfProd.sought = webOfApiProd.sought := by
    rw [RouteTarget.sought_eq, RouteTarget.sought_eq, Except.ok.injEq]
    decide
  refine ⟨fun isolated => isolated _ _ different same, fun isolated => ?_⟩
  have shown : ShowsNames (fun _ => "web-api-prod") guardRuling :=
    guardHistory_showsNames (by simp) (by decide)
  exact isolated _ _ different _ (.str "svc-1")
    webOfApiProd.sought_eq gatewayOperator
    guardRuling shown _ (guardHistory_actsFor _ _ _) guardRuling_changes

end Reconcile

end PolicyReconciler

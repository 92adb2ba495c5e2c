import PolicyReconciler.Proofs.Json.Members
import PolicyReconciler.Proofs.VpcLattice.Lookup
import PolicyReconciler.Proofs.Program.Supply
import PolicyReconciler.Proofs.Reconcile.Stages

namespace PolicyReconciler.VpcLattice

/-!
# Listings that are read to their end

The pages of a listing form a chain: each but the last names the next one.  Reading
a chain asks for its pages in order, each by the token that the page before has
named, and gives their items in order; the first page that is refused ends it.  A
lookup reads the whole chain before it picks the first item with the name.  The
limit on pages keeps an endless chain from being read for ever, and may be any that
the chain fits in.
-/

open Program

/-! ## Pages -/

/--
Whether a page shows some items: as a list of objects, or none by leaving the list
out.
-/
def ShowsItems (page : Members) (items : List Members) : Prop :=
  Members.find? page "items" = some (.arr (items.map .obj)) ∨
    Members.find? page "items" = none ∧ items = []

/-- Whether a page names the token of the next page, one that is not empty. -/
def NamesNext (page : Members) (token : Json) : Prop :=
  Members.find? page "nextToken" = some token ∧ token.truthy = true

/-- Whether a page names no next page, or names it by an empty token. -/
def IsLast (page : Members) : Prop :=
  ∀ token, Members.find? page "nextToken" = some token → token.truthy = false

/--
The answers that the pages of a listing give, with the tokens of all pages but the
first, and the items that are listed; or the answers up to a page that is refused.
-/
inductive Chain :
    List (Except Fault Json) → List Json → Except Fault (List Members) → Prop where
  | last {page : Members} {items : List Members}
      (shown : ShowsItems page items)
      (final : IsLast page) :
      Chain [.ok (.obj page)] [] (.ok items)
  | refused (fault : Fault) :
      Chain [.error fault] [] (.error fault)
  | onward {page : Members} {items : List Members} {token : Json}
      {answers : List (Except Fault Json)} {tokens : List Json}
      {listed : Except Fault (List Members)}
      (shown : ShowsItems page items)
      (named : NamesNext page token)
      (rest : Chain answers tokens listed) :
      Chain (.ok (.obj page) :: answers) (token :: tokens) (listed.map (items ++ ·))

/-- The calls for the pages with some tokens, after a first page without one. -/
def pageCalls (kind : ResourceKind) (tokens : List Json) : List Call :=
  (none :: tokens.map some).map (.listPage kind)

section Pages

variable {page : Members}

/-- A page is read as the items it shows. -/
theorem ShowsItems.pageItems_eq
    {items : List Members}
    (shown : ShowsItems page items) :
    pageItems (.obj page) = .ok (items.map .obj) := by
  rcases shown with listed | ⟨absent, rfl⟩
  · simp only [pageItems, Members.getD, listed]
    rfl
  · simp only [pageItems, Members.getD, absent]
    rfl

theorem NamesNext.nextToken?_eq
    {token : Json}
    (named : NamesNext page token) :
    nextToken? (.obj page) = some token := by
  obtain ⟨found, truthy⟩ := named
  simp [nextToken?, Members.getD, found, truthy]

theorem IsLast.nextToken?_eq
    (final : IsLast page) :
    nextToken? (.obj page) = none := by
  cases found : Members.find? page "nextToken" with
  | none =>
      simp [nextToken?, Members.getD, found, Json.truthy]
  | some token =>
      simp [nextToken?, Members.getD, found, final token found]

end Pages

/-! ## Listings of a chain -/

variable {Time : Type} [TimeScale Time]
variable {operator : Operator Time}
variable {kind : ResourceKind}

/-- A paced limiter never fails. -/
theorem turn_ne_error
    {rate : Time}
    {fault : Fault}
    (paced : TimeScale.isZero rate = false) :
    Limiter.turn rate ≠ .error fault := by
  intro halted
  rw [Limiter.turn, paced] at halted
  cases halted

/-- A listing whose first answer is a page goes on as the page says. -/
theorem Listing.page_inv
    {limit : Nat}
    {token : Option Json}
    {calls : History}
    {result : Except Fault (List Json)}
    {page : Json}
    {items : List Json}
    {others left : Supply}
    (listing : Listing operator kind (limit + 1) token calls result)
    (paced : TimeScale.isZero operator.rates.lattice = false)
    (read : pageItems page = .ok items)
    (supplied :
      Stream'.cons (.ok page) others = calls.map Exchange.answer ++ₛ left) :
    ∃ later, calls = ⟨.listPage kind token, .ok page⟩ :: later ∧
      others = later.map Exchange.answer ++ₛ left ∧
      (nextToken? page = none ∧ later = [] ∧ result = .ok items ∨
        ∃ next listed, nextToken? page = some next ∧
          Listing operator kind limit (some next) later listed ∧
          result = listed.map (items ++ ·)) := by
  cases listing with
  | stalled token halted =>
      exact absurd halted (turn_ne_error paced)
  | refused token fault =>
      cases (Stream'.cons_injective2 supplied).1
  | malformed token unread =>
      cases (Stream'.cons_injective2 supplied).1
      rw [read] at unread
      cases unread
  | last token read' ended =>
      obtain ⟨same, rest⟩ := Stream'.cons_injective2 supplied
      cases same
      rw [read] at read'
      cases read'
      exact ⟨[], rfl, rest, .inl ⟨ended, rfl, rfl⟩⟩
  | @onward _ _ _ next _ calls listed read' more later =>
      obtain ⟨same, rest⟩ := Stream'.cons_injective2 supplied
      cases same
      rw [read] at read'
      cases read'
      exact ⟨calls, rfl, rest, .inr ⟨next, listed, more, later, rfl⟩⟩

/-- A refused page ends the listing. -/
theorem Listing.refused_inv
    {limit : Nat}
    {token : Option Json}
    {calls : History}
    {result : Except Fault (List Json)}
    {fault : Fault}
    {others left : Supply}
    (listing : Listing operator kind (limit + 1) token calls result)
    (paced : TimeScale.isZero operator.rates.lattice = false)
    (supplied :
      Stream'.cons (.error fault) others = calls.map Exchange.answer ++ₛ left) :
    calls = [⟨.listPage kind token, .error fault⟩] ∧ others = left ∧
      result = .error fault := by
  cases listing with
  | stalled token halted =>
      exact absurd halted (turn_ne_error paced)
  | refused token fault =>
      obtain ⟨same, rest⟩ := Stream'.cons_injective2 supplied
      cases same
      exact ⟨rfl, rest, rfl⟩
  | malformed token unread | last token read ended | onward token read more later =>
      cases (Stream'.cons_injective2 supplied).1

/-- A listing that is answered by a chain reads it to its end and no further. -/
theorem Listing.of_chain
    {limit : Nat}
    {token : Option Json}
    {calls : History}
    {result : Except Fault (List Json)}
    {answers : List (Except Fault Json)}
    {tokens : List Json}
    {listed : Except Fault (List Members)}
    {others left : Supply}
    (listing : Listing operator kind limit token calls result)
    (paced : TimeScale.isZero operator.rates.lattice = false)
    (chain : Chain answers tokens listed)
    (fits : answers.length ≤ limit)
    (supplied : answers ++ₛ others = calls.map Exchange.answer ++ₛ left) :
    calls.map Exchange.call = (token :: tokens.map some).map (.listPage kind) ∧
      left = others ∧ result = listed.map (List.map .obj) := by
  induction chain generalizing limit token calls result with
  | last shown final =>
      obtain ⟨limit, rfl⟩ := Nat.exists_eq_add_of_le' fits
      obtain ⟨later, rfl, rest, ⟨-, rfl, rfl⟩ | ⟨next, _, more, -, -⟩⟩ :=
        listing.page_inv paced shown.pageItems_eq supplied
      · exact ⟨rfl, rest.symm, rfl⟩
      · rw [final.nextToken?_eq] at more
        cases more
  | refused fault =>
      obtain ⟨limit, rfl⟩ := Nat.exists_eq_add_of_le' fits
      obtain ⟨rfl, rest, rfl⟩ := listing.refused_inv paced supplied
      exact ⟨rfl, rest.symm, rfl⟩
  | @onward page items token answers tokens listed shown named chain
        inductionHypothesis =>
      obtain ⟨rest, rfl⟩ :=
        Nat.exists_eq_add_of_le' (Nat.le_trans (Nat.le_add_left 1 _) fits)
      obtain ⟨later, rfl, suppliedLater, ⟨ended, -, -⟩ |
          ⟨next, _, more, listing, rfl⟩⟩ :=
        listing.page_inv paced shown.pageItems_eq supplied
      · rw [named.nextToken?_eq] at ended
        cases ended
      · rw [named.nextToken?_eq] at more
        cases more
        obtain ⟨calls, left, rfl⟩ :=
          inductionHypothesis listing (Nat.le_of_succ_le_succ fits) suppliedLater
        refine ⟨by rw [List.map_cons, calls]; rfl, left, ?_⟩
        cases listed with
        | ok others =>
            simp [Except.map]
        | error fault =>
            rfl

/-! ## Lookups by name -/

/-- An item of a listing with a name. -/
def HasName (name : String) (item : Members) : Prop :=
  Members.find? item "name" = some (.str name)

/-- How a lookup by name ends, after some items were listed. -/
structure ExactLookup (kind : ResourceKind) (name : String) (items : List Members)
    (outcome : Except Fault Json) : Prop where
  first : ∀ before item after, items = before ++ item :: after →
    (∀ other ∈ before, ¬ HasName name other) → HasName name item →
    ∃ identifier, Members.find? item "id" = some identifier ∧
      outcome = .ok identifier
  missing_iff :
    outcome = .error (.dependencyNotFound (.str kind.text) (.str name)) ↔
    ∀ item ∈ items, ¬ HasName name item

section Names

variable {name : String}
variable {items : List Members}

/-- An item matches a name exactly if it has it. -/
theorem alike_name_iff (name : String) (item : Members) :
    (Members.getD item "name" .null).alike (.str name) = true ↔
      HasName name item := by
  rw [Json.alike_str_iff, HasName, Members.getD]
  cases Members.find? item "name" with
  | none =>
      simp
  | some value =>
      simp

/-- Items without the name are passed over. -/
theorem firstNamed?_append
    {before : List Members}
    (unnamed : ∀ item ∈ before, ¬ HasName name item)
    (rest : List Json) :
    firstNamed? (.str name) (before.map .obj ++ rest) =
      firstNamed? (.str name) rest := by
  induction before with
  | nil =>
      rfl
  | cons item before inductionHypothesis =>
      obtain ⟨other, others⟩ := List.forall_mem_cons.mp unnamed
      rw [List.map_cons, List.cons_append, firstNamed?,
        if_neg (fun same => other ((alike_name_iff name item).mp same))]
      exact inductionHypothesis others

/-- An item with the name is the one found. -/
theorem firstNamed?_cons
    {item : Members}
    {identifier : Json}
    (named : HasName name item)
    (identified : Members.find? item "id" = some identifier)
    (rest : List Json) :
    firstNamed? (.str name) (.obj item :: rest) = .ok (some identifier) := by
  rw [firstNamed?, if_pos ((alike_name_iff name item).mpr named), identified]

/-- Among items one of which has a name, one is the first to have it. -/
theorem exists_first_named
    (some_named : ∃ item ∈ items, HasName name item) :
    ∃ before item after, items = before ++ item :: after ∧
      (∀ other ∈ before, ¬ HasName name other) ∧ HasName name item := by
  induction items with
  | nil =>
      obtain ⟨_, inside, _⟩ := some_named
      cases inside
  | cons head rest inductionHypothesis =>
      by_cases named : HasName name head
      · exact ⟨[], head, rest, rfl, List.forall_mem_nil _, named⟩
      · obtain ⟨item, inside, isNamed⟩ := some_named
        rcases List.mem_cons.mp inside with rfl | later
        · exact absurd isNamed named
        · obtain ⟨before, first, after, rfl, unnamed, isFirst⟩ :=
            inductionHypothesis ⟨item, later, isNamed⟩
          exact ⟨head :: before, first, after, rfl,
            List.forall_mem_cons.mpr ⟨named, unnamed⟩, isFirst⟩

/-- Where every named item has an id, the first item with a name is looked up. -/
theorem exactLookup_identified
    (kind : ResourceKind)
    (name : String)
    (identifiable : ∀ item ∈ items,
      (Members.find? item "name").isSome → (Members.find? item "id").isSome) :
    ExactLookup kind name items
      (identified kind (.str name) (firstNamed? (.str name) (items.map .obj))) := by
  have found : ∀ before item after, items = before ++ item :: after →
      (∀ other ∈ before, ¬ HasName name other) → HasName name item →
      ∃ identifier, Members.find? item "id" = some identifier ∧
        firstNamed? (.str name) (items.map .obj) = .ok (some identifier) := by
    rintro before item after rfl unnamed named
    have inside : item ∈ before ++ item :: after := by simp
    obtain ⟨identifier, isId⟩ :=
      Option.isSome_iff_exists.mp (identifiable item inside (by rw [named]; rfl))
    refine ⟨identifier, isId, ?_⟩
    rw [List.map_append, firstNamed?_append unnamed, List.map_cons]
    exact firstNamed?_cons named isId _
  constructor
  · intro before item after split unnamed named
    obtain ⟨identifier, isId, picked⟩ := found before item after split unnamed named
    exact ⟨identifier, isId, by rw [picked]; rfl⟩
  · constructor
    · intro missing item inside named
      obtain ⟨before, first, after, split, unnamed, isFirst⟩ :=
        exists_first_named ⟨item, inside, named⟩
      obtain ⟨identifier, -, picked⟩ :=
        found before first after split unnamed isFirst
      rw [picked] at missing
      cases missing
    · intro unnamed
      have picked := firstNamed?_append unnamed []
      rw [List.append_nil] at picked
      rw [picked]
      rfl

end Names

/-! ## Runs on a chain -/

/--
What a run has done that has read the pages with some tokens, and made no other
call.
-/
structure ReadsPages
    {State : Type}
    (kind : ResourceKind)
    (tokens : List Json)
    (left : Supply)
    (start last : Supplied Time State) : Prop where
  calls : last.effects.filterMap Effect.request? =
    start.effects.filterMap Effect.request? ++ pageCalls kind tokens
  left_eq : last.supply = left

section Runs

variable {Result State : Type}
variable {answers : List (Except Fault Json)}
variable {tokens : List Json}
variable {listed : Except Fault (List Members)}
variable {others : Supply}

/-- One call is made for each page. -/
theorem Chain.length_pageCalls
    (chain : Chain answers tokens listed)
    (kind : ResourceKind) :
    (pageCalls kind tokens).length = answers.length := by
  induction chain with
  | last shown final =>
      rfl
  | refused fault =>
      rfl
  | onward shown named rest inductionHypothesis =>
      simp only [pageCalls, List.map_cons, List.length_cons]
        at inductionHypothesis ⊢
      rw [inductionHypothesis]

/--
A program whose exchanges are those of a listing reads a chain, and ends as it calls
for.
-/
theorem Chain.run
    {program : Program Time Result}
    {ended : Except Fault (List Json) → Except Fault Result}
    (chain : Chain answers tokens listed)
    (paced : TimeScale.isZero operator.rates.lattice = false)
    (fits : answers.length ≤ operator.pageLimit)
    (meets : program.Meets (fun _ _ => True)
      (fun calls outcome => ∃ result,
        Listing operator kind operator.pageLimit none calls result ∧
          outcome = ended result) [])
    (surroundings : Surroundings Time State)
    (start : Supplied Time State)
    (supplied : start.supply = answers ++ₛ others) :
    ∃ last,
      program.run (Supplied.handle surroundings) start =
        (ended (listed.map (List.map .obj)), last) ∧
      ReadsPages kind tokens others start last := by
  obtain ⟨calls, runs, called, answered⟩ :=
    Supplied.exists_runs surroundings program start
  obtain ⟨result, listing, outcome⟩ := meets.of_runs runs
  obtain ⟨asked, left, rfl⟩ :=
    listing.of_chain paced chain fits (supplied.symm.trans answered)
  refine ⟨_, Prod.ext outcome rfl, ?_, left⟩
  rw [called]
  exact congrArg _ asked

/--
A listing reads all pages of a chain and gives all their items, and a lookup finds
the first item with a name among them; a page that is refused ends both.
-/
theorem lookup_exact
    (operator : Operator Time)
    (paced : TimeScale.isZero operator.rates.lattice = false)
    (kind : ResourceKind)
    (name : String)
    (chain : Chain answers tokens listed)
    (fits : answers.length ≤ operator.pageLimit)
    (identifiable : ∀ items, listed = .ok items → ∀ item ∈ items,
      (Members.find? item "name").isSome → (Members.find? item "id").isSome)
    (surroundings : Surroundings Time State)
    (start : Supplied Time State)
    (supplied : start.supply = answers ++ₛ others) :
    (pageCalls kind tokens).length = answers.length ∧
      (∃ last,
        (listFrom operator kind operator.pageLimit none).run
          (Supplied.handle surroundings)
          start = (listed.map (List.map .obj), last) ∧
        ReadsPages kind tokens others start last) ∧
      ∃ outcome last,
        (findId operator kind (.str name)).run
          (Supplied.handle surroundings) start =
          (outcome, last) ∧
        ReadsPages kind tokens others start last ∧
        (∀ fault, listed = .error fault → outcome = .error fault) ∧
        ∀ items, listed = .ok items → ExactLookup kind name items outcome := by
  have lists :
      (listFrom operator kind operator.pageLimit none).Meets (fun _ _ => True)
      (fun calls outcome => ∃ result,
        Listing operator kind operator.pageLimit none calls result ∧
          outcome = id result) [] :=
    listFrom_meets (fun _ _ _ => trivial) fun calls result listing =>
      ⟨result, listing, rfl⟩
  have finds : (findId operator kind (.str name)).Meets (fun _ _ => True)
      (fun calls outcome => ∃ result,
        Listing operator kind operator.pageLimit none calls result ∧
          outcome = identified kind (.str name)
            (result.bind (firstNamed? (.str name)))) [] :=
    findId_meets (fun _ _ _ => trivial) fun calls result listing =>
      ⟨result, listing, rfl⟩
  refine ⟨chain.length_pageCalls kind,
    chain.run paced fits lists surroundings start supplied, ?_⟩
  obtain ⟨last, ran, reads⟩ :=
    chain.run paced fits finds surroundings start supplied
  refine ⟨_, last, ran, reads, ?_, ?_⟩
  · rintro fault rfl
    rfl
  · rintro items rfl
    exact exactLookup_identified kind name (identifiable items rfl)

end Runs

/-! ## A listing of three pages -/

/-- The item of a network called front. -/
def frontNetwork (identifier : String) : Members :=
  [("name", .str "front"), ("id", .str identifier)]

/-- A page without a list of items. -/
def openingPage : Members :=
  [("nextToken", .str "second")]

/-- A page with an item that has no name, and with the network. -/
def middlePage : Members :=
  [("items", .arr [.obj [], .obj (frontNetwork "sn-1")]),
    ("nextToken", .str "third")]

/-- A page with an empty token, and with the name of an earlier item. -/
def endingPage : Members :=
  [("items", .arr [.obj (frontNetwork "sn-2")]), ("nextToken", .str "")]

/-- Three pages of networks, as they are answered. -/
def gatewayPages : List (Except Fault Json) :=
  [.ok (.obj openingPage), .ok (.obj middlePage), .ok (.obj endingPage)]

/-- The three pages form a chain. -/
theorem gatewayPages_chain :
    Chain gatewayPages [.str "second", .str "third"]
      (.ok [[], frontNetwork "sn-1", frontNetwork "sn-2"]) := by
  have opening : ShowsItems openingPage [] := .inr ⟨rfl, rfl⟩
  have middle : ShowsItems middlePage [[], frontNetwork "sn-1"] := .inl rfl
  have ending : ShowsItems endingPage [frontNetwork "sn-2"] := .inl rfl
  have final : IsLast endingPage := by
    intro token found
    have empty : Members.find? endingPage "nextToken" = some (.str "") := rfl
    rw [empty] at found
    cases found
    rfl
  exact .onward opening ⟨rfl, rfl⟩ (.onward middle ⟨rfl, rfl⟩ (.last ending final))

/-- Of two networks with the name of the target, the first one is looked up. -/
theorem gatewayPages_exact :
    TimeScale.isZero Reconcile.gatewayOperator.rates.lattice = false ∧
      gatewayPages.length ≤ Reconcile.gatewayOperator.pageLimit ∧
      ∃ last,
        (findId Reconcile.gatewayOperator .serviceNetwork (.str "front")).run
          (Supplied.handle (.still 0))
          ⟨(), gatewayPages ++ₛ Stream'.const (.error .missingCredentials), []⟩ =
            (.ok (.str "sn-1"), last) ∧
        last.effects.filterMap Effect.request? =
          pageCalls .serviceNetwork [.str "second", .str "third"] := by
  refine ⟨by decide, by decide, ?_⟩
  have identifiable : ∀ items,
      Except.ok [[], frontNetwork "sn-1", frontNetwork "sn-2"] =
        (.ok items : Except Fault (List Members)) →
      ∀ item ∈ items,
        (Members.find? item "name").isSome → (Members.find? item "id").isSome := by
    rintro _ ⟨⟩ item inside named
    simp only [List.mem_cons, List.not_mem_nil, or_false] at inside
    rcases inside with rfl | rfl | rfl
    · cases named
    · rfl
    · rfl
  obtain ⟨-, -, outcome, last, ran, reads, -, looked⟩ :=
    lookup_exact Reconcile.gatewayOperator (by decide) .serviceNetwork "front"
      gatewayPages_chain (by decide) identifiable
      (.still 0) ⟨(), gatewayPages ++ₛ
        Stream'.const (.error .missingCredentials), []⟩ rfl
  obtain ⟨identifier, isId, rfl⟩ :=
    (looked _ rfl).first [[]] (frontNetwork "sn-1") [frontNetwork "sn-2"] rfl
      (by simp [HasName, Members.find?]) rfl
  cases isId
  exact ⟨last, ran, reads.calls⟩

end PolicyReconciler.VpcLattice

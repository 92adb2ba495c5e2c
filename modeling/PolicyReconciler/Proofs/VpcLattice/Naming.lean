import PolicyReconciler.VpcLattice.Resolver

namespace PolicyReconciler.VpcLattice

/-!
# Names of services

The service of a route is named after the route and its namespace, joined by a
hyphen.  Both parts may hold hyphens of their own, so a name does not tell where it
was joined: a label may stand at the end of the route, or at the beginning of the
namespace.  Two routes of different namespaces share the name of their services
exactly if such a label sets them apart.
-/

/-! ## Valid names -/

/-- A character that a label may start and end with. -/
def isLetterOrDigit (character : Char) : Bool :=
  character.isLower || character.isDigit

/--
Lower-case letters, digits and hyphens, with a letter or a digit at both ends.
-/
structure IsLabel (text : List Char) : Prop where
  characters :
    ∀ character ∈ text, isLetterOrDigit character = true ∨ character = '-'
  first :
    ∃ character, text.head? = some character ∧ isLetterOrDigit character = true
  last :
    ∃ character, text.getLast? = some character ∧ isLetterOrDigit character = true

instance (text : List Char) : Decidable (IsLabel text) :=
  decidable_of_iff
    ((text.all fun character => isLetterOrDigit character || character == '-') =
      true ∧
      text.head?.any isLetterOrDigit = true ∧
        text.getLast?.any isLetterOrDigit = true)
    (by
      simp only [List.all_eq_true, Bool.or_eq_true, beq_iff_eq, Option.any_eq_true]
      exact ⟨fun ⟨characters, first, last⟩ => ⟨characters, first, last⟩,
        fun ⟨characters, first, last⟩ => ⟨characters, first, last⟩⟩)

/-- Labels with dots between them. -/
inductive IsSubdomain : List Char → Prop where
  | label {text : List Char} (isLabel : IsLabel text) :
      IsSubdomain text
  | dotted {text rest : List Char} (isLabel : IsLabel text)
        (further : IsSubdomain rest) :
      IsSubdomain (text ++ '.' :: rest)

/--
A route and its namespace, with valid names that are not cut off in the name of the
service.
-/
structure RouteTarget where
  route : String
  recordNamespace : String
  isSubdomain : IsSubdomain route.toList
  isLabel : IsLabel recordNamespace.toList
  route_le : route.length ≤ routeLength
  namespace_le : recordNamespace.length ≤ namespaceLength

namespace RouteTarget

/-- The name of the service that stands for the route. -/
def serviceName (target : RouteTarget) : String :=
  target.route ++ "-" ++ target.recordNamespace

/-- The service that is looked for. -/
def sought (target : RouteTarget) : Except Fault String :=
  VpcLattice.serviceName (.str target.route) (.str target.recordNamespace)

/--
Whether a label at the beginning of one namespace stands at the end of the other
route.
-/
def Shifts (first second : RouteTarget) : Prop :=
  ∃ label : String, IsLabel label.toList ∧
    first.recordNamespace = label ++ "-" ++ second.recordNamespace ∧
    second.route = first.route ++ "-" ++ label

/--
Whether the names of two routes and their namespaces are the same text, split
differently.
-/
def Confusable (first second : RouteTarget) : Prop :=
  Shifts first second ∨ Shifts second first

end RouteTarget

/-- A subdomain ends with a letter or a digit. -/
theorem IsSubdomain.last
    {text : List Char}
    (valid : IsSubdomain text) :
    ∃ character, text.getLast? = some character ∧
      isLetterOrDigit character = true := by
  induction valid with
  | label isLabel =>
      exact isLabel.last
  | dotted isLabel further inductionHypothesis =>
      obtain ⟨character, isLast, plain⟩ := inductionHypothesis
      exact ⟨character, by simp [List.getLast?_cons, isLast], plain⟩

/-! ## Joined names -/

/-- A part of a text is kept whole where it is not too long. -/
theorem beginning_of_le
    {text : String}
    {length : Nat}
    (fits : text.length ≤ length) :
    beginning length (.str text) = .ok text := by
  rw [beginning, List.take_of_length_le (by rwa [String.length_toList]),
    String.ofList_toList]

/-- A route is sought under its service's name. -/
theorem RouteTarget.sought_eq (target : RouteTarget) :
    target.sought = .ok target.serviceName := by
  rw [sought, VpcLattice.serviceName, beginning_of_le target.route_le,
    beginning_of_le target.namespace_le]
  rfl

/--
Two texts with one character in them are the same if they split alike, or one splits
later.
-/
theorem append_cons_eq_append_cons
    {front front' back back' : List Char}
    {middle : Char}
    (same : front ++ middle :: back = front' ++ middle :: back') :
    (front = front' ∧ back = back') ∨
      (∃ shifted, back = shifted ++ middle :: back' ∧
        front' = front ++ middle :: shifted) ∨
      ∃ shifted, back' = shifted ++ middle :: back ∧
        front = front' ++ middle :: shifted := by
  rcases List.append_eq_append_iff.mp same with
    ⟨more, isFront, isBack⟩ | ⟨more, isFront, isBack⟩
  · cases more with
    | nil =>
        exact .inl ⟨by simpa using isFront.symm, by simpa using isBack⟩
    | cons character shifted =>
        obtain ⟨rfl, isRest⟩ := List.cons.inj isBack
        exact .inr (.inl ⟨shifted, isRest, isFront⟩)
  · cases more with
    | nil =>
        exact .inl ⟨by simpa using isFront, by simpa using isBack.symm⟩
    | cons character shifted =>
        obtain ⟨rfl, isRest⟩ := List.cons.inj isBack
        exact .inr (.inr ⟨shifted, isRest, isFront⟩)

/--
What stands between two hyphens, at the ends of a valid namespace and a valid route.
-/
theorem isLabel_of_shifted
    {route shifted back : List Char}
    (isNamespace : IsLabel (shifted ++ '-' :: back))
    (isRoute : IsSubdomain (route ++ '-' :: shifted)) :
    IsLabel shifted := by
  cases shifted with
  | nil =>
      -- A namespace does not begin with a hyphen.
      obtain ⟨character, isFirst, plain⟩ := isNamespace.first
      cases isFirst
      exact absurd plain (by decide)
  | cons character rest =>
      refine ⟨fun other inside => ?_, ?_, ?_⟩
      · exact isNamespace.characters other (List.mem_append_left _ inside)
      · simpa using isNamespace.first
      · simpa using isRoute.last

/-- A label moved over the hyphen is a shift. -/
theorem RouteTarget.shifts_of_shifted
    {first second : RouteTarget}
    {shifted : List Char}
    (isNamespace : first.recordNamespace.toList =
      shifted ++ '-' :: second.recordNamespace.toList)
    (isRoute : second.route.toList = first.route.toList ++ '-' :: shifted) :
    Shifts first second := by
  refine ⟨String.ofList shifted, ?_, ?_, ?_⟩
  · rw [String.toList_ofList]
    exact isLabel_of_shifted (isNamespace ▸ first.isLabel)
      (isRoute ▸ second.isSubdomain)
  · exact String.toList_inj.mp (by simp [isNamespace])
  · exact String.toList_inj.mp (by simp [isRoute])

/-- Shifted routes share a service name. -/
theorem RouteTarget.Shifts.serviceName_eq
    {first second : RouteTarget}
    (shifts : Shifts first second) :
    first.serviceName = second.serviceName := by
  obtain ⟨label, -, isNamespace, isRoute⟩ := shifts
  simp only [serviceName, isNamespace, isRoute, String.append_assoc]

/--
Routes of different namespaces have one name for their services if they are
confusable.
-/
theorem RouteTarget.sought_eq_iff
    {first second : RouteTarget}
    (different : first.recordNamespace ≠ second.recordNamespace) :
    first.sought = second.sought ↔ Confusable first second := by
  rw [sought_eq, sought_eq, Except.ok.injEq]
  constructor
  · intro same
    have texts : first.route.toList ++ '-' :: first.recordNamespace.toList =
        second.route.toList ++ '-' :: second.recordNamespace.toList := by
      simpa [serviceName] using congrArg String.toList same
    rcases append_cons_eq_append_cons texts with
      ⟨-, sameNamespace⟩ | ⟨shifted, isNamespace, isRoute⟩ |
        ⟨shifted, isNamespace, isRoute⟩
    · exact absurd (String.toList_inj.mp sameNamespace) different
    · exact .inl (shifts_of_shifted isNamespace isRoute)
    · exact .inr (shifts_of_shifted isNamespace isRoute)
  · rintro (shifts | shifts)
    · exact shifts.serviceName_eq
    · exact shifts.serviceName_eq.symm

end PolicyReconciler.VpcLattice

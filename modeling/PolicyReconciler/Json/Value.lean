import PolicyReconciler.Decimal.Place

namespace PolicyReconciler

/-!
# JSON values

Stored records, policy documents and log lines are JSON.  Objects keep the
order of their members, and whole numbers are kept apart from numbers with a
point or an exponent, because both show in the written text.
-/

/-- A JSON value whose objects are ordered lists of members. -/
inductive Json where
  | null
  | bool (value : Bool)
  | int (value : Int)
  | float (value : Float)
  | str (value : String)
  | arr (items : List Json)
  | obj (members : List (String × Json))
  deriving Inhabited, Repr

/-- The members of an object: keys with their values, in their order. -/
abbrev Members := List (String × Json)

namespace Members

/-- The value of the first member with a key. -/
def find? (members : Members) (key : String) : Option Json :=
  match members with
  | [] => none
  | member :: rest =>
      if member.1 = key then some member.2 else Members.find? rest key

/-- The value of a member, or a default where there is none. -/
def getD (members : Members) (key : String) (default : Json) : Json :=
  (Members.find? members key).getD default

/-- Whether there is a member with a key. -/
def has (members : Members) (key : String) : Bool :=
  members.any (·.1 == key)

/-- Set a member: in its place if the key occurs, otherwise at the end. -/
def set (members : Members) (key : String) (value : Json) : Members :=
  match members with
  | [] => [(key, value)]
  | member :: rest =>
      if member.1 = key then
        (key, value) :: rest
      else
        member :: Members.set rest key value

/-- Set the keys of some additions one after the other. -/
def update (members additions : Members) : Members :=
  additions.foldl (fun current addition =>
    Members.set current addition.1 addition.2) members

/-- Members without a key. -/
def erase (members : Members) (key : String) : Members :=
  members.filter (·.1 != key)

/-- A member that was set is found with its value. -/
theorem find?_set_same
    (members : Members)
    (key : String)
    (value : Json) :
    Members.find? (Members.set members key value) key = some value := by
  induction members with
  | nil =>
      simp [Members.set, Members.find?]
  | cons member rest inductionHypothesis =>
      by_cases same : member.1 = key
      · simp [Members.set, Members.find?, same]
      · simp [Members.set, Members.find?, same, inductionHypothesis]

/-- Setting a member leaves the others as they are. -/
theorem find?_set_other
    (members : Members)
    {key other : String}
    (value : Json)
    (different : other ≠ key) :
    Members.find? (Members.set members key value) other =
      Members.find? members other := by
  induction members with
  | nil =>
      simp [Members.set, Members.find?, Ne.symm different]
  | cons member rest inductionHypothesis =>
      by_cases same : member.1 = key
      · simp [Members.set, Members.find?, same, Ne.symm different]
      · simp [Members.set, Members.find?, same, inductionHypothesis]

end Members

namespace Json

/-- Whether a value counts as present: not null, false, zero or empty. -/
def truthy : Json → Bool
  | null => false
  | bool value => value
  | int value => value != 0
  | float value => !(value == 0.0)
  | str value => value != ""
  | arr items => !items.isEmpty
  | obj members => !members.isEmpty

/-- The members of an object; other values have none. -/
def members? : Json → Option Members
  | obj members => some members
  | _ => none

/-- The text of a string; other values have none. -/
def string? : Json → Option String
  | str value => some value
  | _ => none

/-- The floating-point number nearest to a whole number. -/
def floatOfInt (value : Int) : Float :=
  let size := Float.ofNat value.natAbs
  if value < 0 then -size else size

/-- The place of a value on the number line; truth values are zero and one. -/
def place? : Json → Option Decimal.Place
  | bool value => some (.ofInt (if value then 1 else 0))
  | int value => some (.ofInt value)
  | float value => Decimal.Place.ofFloat? value
  | _ => none

/--
Whether two values without parts are equal; numbers are compared by their exact
value.
-/
def scalarAlike : Json → Json → Bool
  | null, null => true
  | str left, str right => left == right
  | int left, int right => left == right
  | left, right =>
      match left.place?, right.place? with
      | some leftPlace, some rightPlace => leftPlace == rightPlace
      | _, _ => false

/-- Whether a value is a given whole number, written in any way. -/
def isNumber (value : Json) (number : Int) : Bool :=
  scalarAlike value (int number)

mutual

/-- Whether two values are equal, numbers by value and objects in any order. -/
def alike : Json → Json → Bool
  | arr left, arr right => itemsAlike left right
  | obj left, obj right => left.length == right.length && membersAlike left right
  | left, right => scalarAlike left right

/-- Whether two lists have as many items, and the same ones. -/
def itemsAlike : List Json → List Json → Bool
  | [], [] => true
  | left :: lefts, right :: rights => alike left right && itemsAlike lefts rights
  | _, _ => false

/-- Whether each member of an object is found with the same value among others. -/
def membersAlike : List (String × Json) → List (String × Json) → Bool
  | [], _ => true
  | (key, value) :: rest, others =>
      (match Members.find? others key with
        | some other => alike value other
        | none => false) && membersAlike rest others

end

end Json

end PolicyReconciler

import PolicyReconciler.Fault
import PolicyReconciler.Json.Table

namespace PolicyReconciler.Json

/-!
# Values used as lists, tables and numbers

A value from outside may stand where a list, a table or a number is needed.
Some values of other kinds can be used as one, and the rest are faults.
-/

/-- The entries of a value used as a list: its items, characters or keys. -/
def entries : Json → Except Fault (List Json)
  | arr items => .ok items
  | str text =>
      .ok (text.toList.map fun character => str (String.singleton character))
  | obj members => .ok (members.map fun member => str member.1)
  | other => .error (.notIterable other)

/--
The entries of a value used as a list, where an absent or empty value has none.
-/
def optionalEntries (value : Json) : Except Fault (List Json) :=
  if value.truthy then entries value else .ok []

/-- A value used as a key; lists and objects are no keys. -/
def key : Json → Except Fault Json
  | arr items => .error (.unhashable (arr items))
  | obj members => .error (.unhashable (obj members))
  | scalar => .ok scalar

/-- Add a pair of a key and a value to a table; the position is that of the pair. -/
def addPair (table : Table) (position : Nat) (pair : Json) : Except Fault Table :=
  match entries pair with
  | .error _ =>
      .error (.wrongUse
        ("cannot convert dictionary update sequence element #" ++
          toString position ++
          " to a sequence"))
  | .ok [first, second] => (key first).map fun scalar =>
      Table.set table scalar second
  | .ok parts =>
      .error (.badValue
        ("dictionary update sequence element #" ++ toString position ++
          " has length " ++
          toString parts.length ++ "; 2 is required"))

/-- Add pairs to a table; a later pair with the same key wins. -/
def addPairs (table : Table) (position : Nat) : List Json → Except Fault Table
  | [] => .ok table
  | pair :: rest =>
      match addPair table position pair with
      | .error fault => .error fault
      | .ok extended => addPairs extended (position + 1) rest

/-- The table that a value is taken as: an object, or a list of pairs. -/
def table : Json → Except Fault Table
  | obj members => .ok (Table.ofMembers members)
  | value => (entries value).bind (addPairs [] 0)

/-- The members of the table that a value is taken as. -/
def tableMembers : Json → Except Fault Members
  | obj members => .ok members
  | value => (table value).map Table.members

/--
The members of a value used as a table, where an absent or empty value has none.
-/
def optionalMembers (value : Json) : Except Fault Members :=
  if value.truthy then tableMembers value else .ok []

/--
The floating-point number nearest to a whole number, unless that is too large.
-/
def realOfInt (number : Int) : Except Fault Float :=
  let nearest := floatOfInt number
  if nearest.isInf then .error .wholeTooLarge else .ok nearest

/-- A value used as a floating-point number; truth values are zero and one. -/
def real : Json → Except Fault Float
  | float number => .ok number
  | int number => realOfInt number
  | bool flag => .ok (if flag then 1 else 0)
  | other => .error (.wrongUse ("must be real number, not " ++ other.kindName))

end PolicyReconciler.Json

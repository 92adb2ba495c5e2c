import PolicyReconciler.Json.Writer

namespace PolicyReconciler

/-!
# Tables

A table has scalar keys, and keys that are equal as values are one key: `1`,
`1.0` and `true` are the same.  Written as an object, a table has the texts of
its keys.
-/

/-- Entries under scalar keys, in order. -/
abbrev Table := List (Json × Json)

namespace Table

/-- The table with the members of an object. -/
def ofMembers (members : Members) : Table :=
  members.map fun member => (.str member.1, member.2)

/-- Whether a table has a key. -/
def has (table : Table) (key : Json) : Bool :=
  table.any fun entry => entry.1.alike key

/-- Set an entry: under the equal key that occurs, otherwise at the end. -/
def set (table : Table) (key value : Json) : Table :=
  match table with
  | [] => [(key, value)]
  | entry :: rest =>
      if entry.1.alike key then (entry.1, value) :: rest
      else entry :: Table.set rest key value

/-- A table without a key. -/
def erase (table : Table) (key : Json) : Table :=
  table.filter fun entry => !entry.1.alike key

/-- The text of a key: a string as it is, any other value in its written form. -/
def keyText : Json → String
  | .str text => text
  | key => key.document

/--
The members that a table is written with; keys with one text become one member.
-/
def members (table : Table) : Members :=
  table.foldl (fun written entry =>
    Members.set written (keyText entry.1) entry.2) []

end Table

end PolicyReconciler

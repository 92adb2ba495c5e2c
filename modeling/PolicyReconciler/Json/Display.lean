import PolicyReconciler.Decimal.Layout
import PolicyReconciler.Json.Value
import PolicyReconciler.Json.Writer
import PolicyReconciler.Text.Quoted

namespace PolicyReconciler.Json

/-!
# Showing values in messages

A value inside a message is shown as a literal: texts in quotes, truth values
and the absent value by name.  A text that is the whole value is shown bare.
-/

/-- The name of the kind of a value. -/
def kindName : Json → String
  | null => "NoneType"
  | bool _ => "bool"
  | int _ => "int"
  | float _ => "float"
  | str _ => "str"
  | arr _ => "list"
  | obj _ => "dict"

mutual

/-- The literal form of a value. -/
def literal : Json → List Char
  | null => ['N', 'o', 'n', 'e']
  | bool true => ['T', 'r', 'u', 'e']
  | bool false => ['F', 'a', 'l', 's', 'e']
  | int value => writeInteger value
  | float value => Decimal.displayLayout.float value
  | str value => Text.quoted value
  | arr items => '[' :: literalItems items ++ [']']
  | obj members => '{' :: literalMembers members ++ ['}']

/-- The items of a list as they are shown in it. -/
def literalItems : List Json → List Char
  | [] => []
  | [item] => literal item
  | item :: rest => literal item ++ [',', ' '] ++ literalItems rest

/-- The members of an object as they are shown in it. -/
def literalMembers : List (String × Json) → List Char
  | [] => []
  | [(key, value)] => Text.quoted key ++ [':', ' '] ++ literal value
  | (key, value) :: rest =>
      Text.quoted key ++ [':', ' '] ++ literal value ++ [',', ' '] ++
        literalMembers rest

end

/-- The text of a value where it is shown inside another. -/
def literalText (value : Json) : String :=
  String.ofList value.literal

/-- A value as it stands in a message. -/
def display : Json → String
  | str text => text
  | value => value.literalText

end PolicyReconciler.Json

import PolicyReconciler.Json.Value

namespace PolicyReconciler.Json

/-!
# The order of values

Numbers are ordered by their exact values and texts by their characters.  Lists
are ordered like words: by the first items that differ, a shorter list before
the longer ones that it begins.  No other values are ordered.
-/

mutual

/-- Whether a value comes before another, where the two are ordered. -/
def before? : Json → Json → Option Bool
  | str left, str right => some (decide (left < right))
  | arr left, arr right => itemsBefore? left right
  | left, right =>
      match left.place?, right.place? with
      | some leftPlace, some rightPlace => some (leftPlace.before rightPlace)
      | _, _ => none

/-- Whether a list comes before another, where the items that decide are ordered. -/
def itemsBefore? : List Json → List Json → Option Bool
  | _, [] => some false
  | [], _ :: _ => some true
  | left :: lefts, right :: rights =>
      if left.alike right then itemsBefore? lefts rights else before? left right

end

end PolicyReconciler.Json

import PolicyReconciler.Json.Value

namespace PolicyReconciler.Members

/-!
# Laws of members

Setting a key twice keeps the last value, and setting a key to the value it has
changes nothing.  Members that are updated keep each key once, under its last value.
-/

/-- A member of changed members was there before or is the one set. -/
theorem mem_or_eq_of_mem_set
    {members : Members}
    {key : String}
    {value : Json}
    {member : String × Json}
    (inside : member ∈ members.set key value) :
    member ∈ members ∨ member = (key, value) := by
  induction members with
  | nil =>
      exact .inr (List.mem_singleton.mp inside)
  | cons head rest inductionHypothesis =>
      unfold Members.set at inside
      split at inside
      · rcases List.mem_cons.mp inside with isNew | inRest
        · exact .inr isNew
        · exact .inl (List.mem_cons_of_mem head inRest)
      · rcases List.mem_cons.mp inside with isHead | inRest
        · exact .inl (isHead ▸ List.mem_cons_self)
        · exact (inductionHypothesis inRest).imp_left (List.mem_cons_of_mem head)

/-- Setting a member changes what is found at its key alone. -/
theorem find?_set
    (members : Members)
    (key other : String)
    (value : Json) :
    Members.find? (members.set key value) other =
      if other = key then some value else Members.find? members other := by
  by_cases same : other = key
  · rw [if_pos same, same, find?_set_same]
  · rw [if_neg same, find?_set_other _ _ same]

/-- Setting a key to the value that is found under it changes nothing. -/
theorem set_of_find?
    {members : Members}
    {key : String}
    {value : Json}
    (found : Members.find? members key = some value) :
    members.set key value = members := by
  induction members with
  | nil =>
      cases found
  | cons head rest inductionHypothesis =>
      unfold Members.find? at found
      unfold Members.set
      split at found
      · rename_i same
        rw [if_pos same]
        cases found
        rw [← same]
      · rename_i different
        rw [if_neg different, inductionHypothesis found]

/-- Of two settings of a key the later counts. -/
theorem set_set
    (members : Members)
    (key : String)
    (first second : Json) :
    (members.set key first).set key second = members.set key second := by
  induction members with
  | nil =>
      simp [Members.set]
  | cons head rest inductionHypothesis =>
      by_cases same : head.1 = key
      · simp [Members.set, same]
      · simp [Members.set, same, inductionHypothesis]

/-- Members none of which have the same key. -/
def Distinct (members : Members) : Prop :=
  (members.map Prod.fst).Nodup

/-- Setting a member keeps the keys distinct. -/
theorem Distinct.set
    {members : Members}
    (distinct : Distinct members)
    (key : String)
    (value : Json) :
    Distinct (members.set key value) := by
  unfold Distinct at distinct ⊢
  induction members with
  | nil =>
      exact List.pairwise_singleton _ key
  | cons head rest inductionHypothesis =>
      obtain ⟨fresh, distinctRest⟩ := List.nodup_cons.mp distinct
      unfold Members.set
      split
      · rename_i same
        exact List.nodup_cons.mpr ⟨same ▸ fresh, distinctRest⟩
      · rename_i different
        refine List.nodup_cons.mpr ⟨?_, inductionHypothesis distinctRest⟩
        intro inside
        obtain ⟨member, inSet, same⟩ := List.mem_map.mp inside
        rcases mem_or_eq_of_mem_set inSet with before | rfl
        · exact fresh (same ▸ List.mem_map_of_mem before)
        · exact different same.symm

/-- Updating keeps the keys distinct. -/
theorem Distinct.update
    {members : Members}
    (distinct : Distinct members)
    (additions : Members) :
    Distinct (members.update additions) := by
  induction additions generalizing members with
  | nil =>
      exact distinct
  | cons addition rest inductionHypothesis =>
      exact inductionHypothesis (distinct.set addition.1 addition.2)

end PolicyReconciler.Members

namespace PolicyReconciler.Json

/-- A value equals a text if it is that text. -/
theorem alike_str_iff
    (value : Json)
    (text : String) :
    value.alike (.str text) = true ↔ value = .str text := by
  cases value with
  | str other =>
      simp [alike, scalarAlike]
  | null | bool | int | float | arr | obj =>
      simp [alike, scalarAlike, place?]

end PolicyReconciler.Json

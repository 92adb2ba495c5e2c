import PolicyReconciler.Proofs.Tracing.Trees

namespace PolicyReconciler

/-!
# The spans of a tree of blocks

A run of a tree ends one span for each block that it enters.  Here the spans are
read off the tree, each with the path of its block, and shown to be nested as the
blocks are.
-/

/--
What the next span that is opened gets: the span around it, its trace and its
number.
-/
structure Opening where
  parent : Option Nat
  trace : Nat
  id : Nat

namespace Opening

/-- What a span gets that is opened as the first one inside the next span. -/
def inner (opening : Opening) : Opening :=
  ⟨some opening.id, opening.trace, opening.id + 1⟩

/-- What a span gets that is opened in the same place after some other spans. -/
def after (opening : Opening) (count : Nat) : Opening :=
  { opening with id := opening.id + count }

end Opening

namespace SpanTree

/-- The span of a block, as it ends. -/
def spanOf (block : SpanTree) (opening : Opening) : Span where
  name := block.name
  id := opening.id
  trace := opening.trace
  parent := opening.parent
  attributes := block.annotated
  fault := block.leaving

/--
Entries for the blocks of a child, as entries for the blocks of the tree around it.
-/
def inChild (index : Nat) (entries : List (Path × Span)) : List (Path × Span) :=
  entries.map fun entry => (index :: entry.1, entry.2)

mutual

/--
The spans that a run of a tree ends, in order, each with the path of its block.
-/
def spans : SpanTree → Opening → List (Path × Span)
  | node name kind attributes annotations children fault catches, opening =>
      match attributes with
      | .error _ => []
      | .ok _ =>
          spansFrom children 0 opening.inner ++
            [([], (node name kind attributes annotations children fault
              catches).spanOf opening)]

/--
The spans that a run of the children of a block ends, from the one with an index on.
-/
def spansFrom : List SpanTree → Nat → Opening → List (Path × Span)
  | [], _, _ => []
  | tree :: rest, index, opening =>
      inChild index (spans tree opening) ++
        match escaping tree with
        | some _ => []
        | none =>
            spansFrom rest (index + 1) (opening.after (spans tree opening).length)

end

/--
What it means that spans are nested as the blocks of a tree are that a run enters.
-/
structure WellNested
    (tree : SpanTree)
    (opening : Opening)
    (ended : List (Path × Span)) :
    Prop where
  /-- Just the blocks that are entered have a span. -/
  entered : ∀ path, path ∈ ended.map Prod.fst ↔ ∃ block, tree.Enters path block
  once : (ended.map Prod.fst).Nodup
  /-- Each span ends after those inside it and after those before it. -/
  ordered : (ended.map Prod.fst).Pairwise EndsBefore
  /-- The spans have numbers of their own, the next ones that there are. -/
  numbered :
    (ended.map fun entry => entry.2.id).Perm (List.range' opening.id ended.length)
  described : ∀ path span block, (path, span) ∈ ended → Reaches tree path block →
    span.name = block.name ∧ span.attributes = block.annotated
  /-- All spans belong to the trace of the root. -/
  traced : ∀ path span, (path, span) ∈ ended → span.trace = opening.trace
  outermost : ∀ span, ([], span) ∈ ended → span.parent = opening.parent
  /-- The span around a span is that of the nearest block around its block. -/
  nested : ∀ path index span, (path ++ [index], span) ∈ ended →
    ∃ around, (path, around) ∈ ended ∧ span.parent = some around.id
  /--
  A span has failed just if a fault left its block, whose message it records then.
  -/
  failed : ∀ path span block, (path, span) ∈ ended → Reaches tree path block →
    (∀ fault, span.fault = some fault ↔ block.LeftBy fault) ∧
      ∀ text, text ∈ span.recordedMessages ↔
        ∃ fault, block.LeftBy fault ∧ text = fault.message

variable {tree : SpanTree}
variable {trees : List SpanTree}
variable {index : Nat}
variable {opening : Opening}

/-- A block that opens ends behind its children. -/
theorem spans_of_opens
    (opens : tree.Opens)
    (opening : Opening) :
    tree.spans opening = spansFrom tree.children 0 opening.inner ++
      [([], tree.spanOf opening)] := by
  obtain ⟨usable, isUsable⟩ := opens
  cases tree with
  | node name kind attributes annotations children own catches =>
      cases isUsable
      rfl

/-- A block that does not open has no span. -/
theorem spans_of_not_opens
    (closed : ¬ tree.Opens)
    (opening : Opening) :
    tree.spans opening = [] := by
  cases tree with
  | node name kind attributes annotations children own catches =>
      cases attributes with
      | error unusable =>
          rfl
      | ok usable =>
          exact absurd ⟨usable, rfl⟩ closed

/--
The spans of the first block come before those of the rest, if the rest is
entered.
-/
theorem spansFrom_cons
    (tree : SpanTree)
    (rest : List SpanTree)
    (index : Nat)
    (opening : Opening) :
    spansFrom (tree :: rest) index opening =
      inChild index (tree.spans opening) ++
        if tree.escaping = none then
          spansFrom rest (index + 1) (opening.after (tree.spans opening).length)
        else [] := by
  rw [spansFrom]
  cases tree.escaping <;> rfl

theorem map_fst_inChild (index : Nat) (entries : List (Path × Span)) :
    (inChild index entries).map Prod.fst =
      (entries.map Prod.fst).map (index :: ·) := by
  simp [inChild]

theorem map_snd_inChild (index : Nat) (entries : List (Path × Span)) :
    (inChild index entries).map Prod.snd = entries.map Prod.snd := by
  simp [inChild]

/-! ## The blocks of the spans -/

/-- Every span lies in one of the blocks that are run. -/
theorem exists_child_of_mem_spansFrom
    {path : Path}
    {span : Span}
    (inside : (path, span) ∈ spansFrom trees index opening) :
    ∃ offset child below opening', RunsTo trees offset child ∧
      path = (index + offset) :: below ∧
      opening'.trace = opening.trace ∧ (below, span) ∈ child.spans opening' := by
  induction trees generalizing index opening with
  | nil =>
      cases inside
  | cons tree rest inductionHypothesis =>
      rw [spansFrom_cons, List.mem_append] at inside
      rcases inside with first | later
      · obtain ⟨⟨below, _⟩, inTree, same⟩ := List.mem_map.mp first
        cases same
        exact ⟨0, tree, below, opening, runsTo_zero_iff.mpr rfl, rfl, rfl, inTree⟩
      · split at later
        · rename_i kept
          obtain ⟨offset, child, below, opening', runs, rfl, sameTrace, inChild⟩ :=
            inductionHypothesis later
          exact ⟨offset + 1, child, below, opening',
            runsTo_succ_iff.mpr ⟨kept, runs⟩, by
              rw [Nat.add_assoc, Nat.add_comm 1], sameTrace, inChild⟩
        · cases later

/-- Each span is that of a block which a run enters. -/
theorem exists_block_of_mem_spans
    {path : Path}
    {span : Span}
    (inside : (path, span) ∈ tree.spans opening) :
    ∃ block parent id, tree.Enters path block ∧
      span = block.spanOf ⟨parent, opening.trace, id⟩ := by
  induction tree using SpanTree.openInduction generalizing path opening with
  | closed tree closed =>
      rw [spans_of_not_opens closed] at inside
      cases inside
  | opened tree opens inductionHypothesis =>
      rw [spans_of_opens opens, List.mem_append] at inside
      rcases inside with below | itself
      · obtain ⟨index, child, path, opening', runs, rfl, sameTrace, inChild⟩ :=
          exists_child_of_mem_spansFrom below
        obtain ⟨block, parent, id, ⟨reaches, blockOpens⟩, isSpan⟩ :=
          inductionHypothesis child runs.mem inChild
        rw [sameTrace] at isSpan
        rw [Nat.zero_add]
        exact ⟨block, parent, id, ⟨.down opens runs reaches, blockOpens⟩, isSpan⟩
      · cases List.mem_singleton.mp itself
        exact ⟨tree, opening.parent, opening.id, ⟨.here tree, opens⟩, rfl⟩

/-- The spans of every block that is run are there. -/
theorem mem_spansFrom_of_runsTo
    {child : SpanTree}
    {offset : Nat}
    {path : Path}
    (runs : RunsTo trees offset child)
    (inside : ∀ opening, path ∈ (child.spans opening).map Prod.fst)
    (index : Nat)
    (opening : Opening) :
    (index + offset) :: path ∈ (spansFrom trees index opening).map Prod.fst := by
  induction trees generalizing index offset opening with
  | nil =>
      cases runs.mem
  | cons tree rest inductionHypothesis =>
      rw [spansFrom_cons, List.map_append, map_fst_inChild, List.mem_append]
      cases offset with
      | zero =>
          cases runsTo_zero_iff.mp runs
          exact .inl (List.mem_map_of_mem (inside opening))
      | succ offset =>
          obtain ⟨kept, runs⟩ := runsTo_succ_iff.mp runs
          rw [if_pos kept, ← Nat.add_assoc, Nat.add_right_comm]
          exact .inr (inductionHypothesis runs (index + 1) _)

/-- Each block that a run enters has a span. -/
theorem Enters.mem_spans
    {path : Path}
    {block : SpanTree}
    (enters : tree.Enters path block)
    (opening : Opening) :
    path ∈ (tree.spans opening).map Prod.fst := by
  obtain ⟨reaches, opens⟩ := enters
  induction reaches generalizing opening with
  | here tree =>
      rw [spans_of_opens opens]
      simp
  | down treeOpens runs reaches inductionHypothesis =>
      have below := mem_spansFrom_of_runsTo runs
        (fun opening => inductionHypothesis opening opens) 0 opening.inner
      rw [Nat.zero_add] at below
      rw [spans_of_opens treeOpens, List.map_append, List.mem_append]
      exact .inl below

/-- There is a span for exactly the blocks that are entered. -/
theorem mem_spans_iff
    {path : Path} :
    path ∈ (tree.spans opening).map Prod.fst ↔ ∃ block, tree.Enters path block := by
  constructor
  · intro inside
    obtain ⟨⟨_, span⟩, inSpans, rfl⟩ := List.mem_map.mp inside
    obtain ⟨block, _, _, enters, _⟩ := exists_block_of_mem_spans inSpans
    exact ⟨block, enters⟩
  · rintro ⟨block, enters⟩
    exact enters.mem_spans opening

/-! ## Their order and their numbers -/

/-- The spans of several blocks end in order. -/
theorem ordered_spansFrom
    (each : ∀ tree ∈ trees, ∀ opening,
      ((tree.spans opening).map Prod.fst).Pairwise EndsBefore)
    (index : Nat)
    (opening : Opening) :
    ((spansFrom trees index opening).map Prod.fst).Pairwise EndsBefore := by
  induction trees generalizing index opening with
  | nil =>
      exact .nil
  | cons tree rest inductionHypothesis =>
      obtain ⟨isFirst, areLater⟩ := List.forall_mem_cons.mp each
      rw [spansFrom_cons, List.map_append, map_fst_inChild, List.pairwise_append]
      refine ⟨(isFirst opening).map _ fun _ _ before => .within before, ?_, ?_⟩
      · split
        · exact inductionHypothesis areLater _ _
        · exact .nil
      · intro path inFirst other inLater
        obtain ⟨below, _, rfl⟩ := List.mem_map.mp inFirst
        split at inLater
        · obtain ⟨⟨_, span⟩, later, rfl⟩ := List.mem_map.mp inLater
          obtain ⟨offset, _, _, _, _, rfl, _⟩ := exists_child_of_mem_spansFrom later
          exact .earlier (by omega)
        · cases inLater

/-- The spans of a block end in order. -/
theorem ordered_spans (tree : SpanTree) (opening : Opening) :
    ((tree.spans opening).map Prod.fst).Pairwise EndsBefore := by
  induction tree using SpanTree.openInduction generalizing opening with
  | closed tree closed =>
      rw [spans_of_not_opens closed]
      exact .nil
  | opened tree opens inductionHypothesis =>
      rw [spans_of_opens opens, List.map_append, List.pairwise_append]
      refine ⟨ordered_spansFrom inductionHypothesis _ _,
        List.pairwise_singleton .., ?_⟩
      intro path below other isRoot
      cases List.mem_singleton.mp isRoot
      obtain ⟨⟨_, span⟩, inside, rfl⟩ := List.mem_map.mp below
      obtain ⟨_, _, _, _, _, rfl, _⟩ := exists_child_of_mem_spansFrom inside
      exact .around

/-- Spans that have the next numbers there are, in some order. -/
def Numbered (entries : List (Path × Span)) (first : Nat) : Prop :=
  (entries.map fun entry => entry.2.id).Perm (List.range' first entries.length)

/-- Numbered spans stay numbered when they are joined. -/
theorem Numbered.append
    {entries others : List (Path × Span)}
    {first : Nat}
    (numbered : Numbered entries first)
    (numbered' : Numbered others (first + entries.length)) :
    Numbered (entries ++ others) first := by
  unfold Numbered at numbered numbered' ⊢
  rw [List.map_append, List.length_append, ← List.range'_append_1]
  exact numbered.append numbered'

/-- Spans stay numbered inside a child. -/
theorem Numbered.inChild
    {entries : List (Path × Span)}
    {first : Nat}
    (numbered : Numbered entries first)
    (index : Nat) :
    Numbered (inChild index entries) first := by
  unfold Numbered SpanTree.inChild at *
  rwa [List.map_map, List.length_map]

/-- The spans of several blocks are numbered without gaps. -/
theorem numbered_spansFrom
    (each : ∀ tree ∈ trees, ∀ opening, Numbered (tree.spans opening) opening.id)
    (index : Nat)
    (opening : Opening) :
    Numbered (spansFrom trees index opening) opening.id := by
  induction trees generalizing index opening with
  | nil =>
      exact .nil
  | cons tree rest inductionHypothesis =>
      obtain ⟨isFirst, areLater⟩ := List.forall_mem_cons.mp each
      rw [spansFrom_cons]
      refine ((isFirst opening).inChild index).append ?_
      split
      · have later := inductionHypothesis areLater (index + 1)
          (opening.after (tree.spans opening).length)
        rwa [inChild, List.length_map]
      · exact .nil

/-- The spans of a block are numbered without gaps. -/
theorem numbered_spans (tree : SpanTree) (opening : Opening) :
    Numbered (tree.spans opening) opening.id := by
  induction tree using SpanTree.openInduction generalizing opening with
  | closed tree closed =>
      rw [spans_of_not_opens closed]
      exact .nil
  | opened tree opens inductionHypothesis =>
      have below : Numbered _ (opening.id + 1) :=
        numbered_spansFrom inductionHypothesis 0 opening.inner
      rw [spans_of_opens opens]
      unfold Numbered at below ⊢
      rw [List.map_append, List.length_append, List.length_singleton,
        List.range'_succ]
      exact List.perm_append_comm.trans (below.cons opening.id)

/-! ## The spans around them -/

/-- The outermost span has the parent that was open before. -/
theorem outermost_spans
    {span : Span}
    (inside : ([], span) ∈ tree.spans opening) :
    span.parent = opening.parent := by
  by_cases opens : tree.Opens
  · rw [spans_of_opens opens, List.mem_append] at inside
    rcases inside with below | itself
    · obtain ⟨_, _, _, _, _, shape, _⟩ := exists_child_of_mem_spansFrom below
      cases shape
    · cases List.mem_singleton.mp itself
      rfl
  · rw [spans_of_not_opens opens] at inside
    cases inside

/-- The span around each span of a tree that is not its first is one of the tree. -/
def Surrounded (entries : List (Path × Span)) : Prop :=
  ∀ path last span, (path ++ [last], span) ∈ entries →
    ∃ around, (path, around) ∈ entries ∧ span.parent = some around.id

/-- In several blocks every inner span has the one around it as parent. -/
theorem surrounded_spansFrom
    (each : ∀ tree ∈ trees, ∀ opening, Surrounded (tree.spans opening))
    {path : Path}
    {last : Nat}
    {span : Span}
    (inside : (path ++ [last], span) ∈ spansFrom trees index opening) :
    path = [] ∧ span.parent = opening.parent ∨
      ∃ around, (path, around) ∈ spansFrom trees index opening ∧
        span.parent = some around.id := by
  induction trees generalizing index opening with
  | nil =>
      cases inside
  | cons tree rest inductionHypothesis =>
      obtain ⟨isFirst, areLater⟩ := List.forall_mem_cons.mp each
      rw [spansFrom_cons] at inside ⊢
      rcases List.mem_append.mp inside with first | later
      · obtain ⟨⟨below, _⟩, inTree, same⟩ := List.mem_map.mp first
        injection same with shape same
        subst same
        -- the span of a child itself has none of these around it, but that of the
        -- block
        cases path with
        | nil =>
            cases shape
            exact .inl ⟨rfl, outermost_spans inTree⟩
        | cons step path =>
            cases shape
            obtain ⟨around, inTree, isParent⟩ := isFirst opening path last _ inTree
            exact .inr ⟨around, List.mem_append_left _ (List.mem_map_of_mem inTree),
              isParent⟩
      · split at later
        · rename_i kept
          rw [if_pos kept]
          rcases inductionHypothesis areLater later with
            isTop | ⟨around, inLater, isParent⟩
          · exact .inl isTop
          · exact .inr ⟨around, List.mem_append_right _ inLater, isParent⟩
        · cases later

/-- Every inner span has the one around it as parent. -/
theorem surrounded_spans (tree : SpanTree) (opening : Opening) :
    Surrounded (tree.spans opening) := by
  induction tree using SpanTree.openInduction generalizing opening with
  | closed tree closed =>
      rw [spans_of_not_opens closed]
      exact fun _ _ _ inside => nomatch inside
  | opened tree opens inductionHypothesis =>
      intro path last span inside
      rw [spans_of_opens opens] at inside ⊢
      rcases List.mem_append.mp inside with below | itself
      · rcases surrounded_spansFrom inductionHypothesis below with
          ⟨rfl, isParent⟩ | ⟨around, inBelow, isParent⟩
        · exact ⟨_, List.mem_append_right _ List.mem_cons_self, isParent⟩
        · exact ⟨around, List.mem_append_left _ inBelow, isParent⟩
      · have shape : path ++ [last] = [] :=
          congrArg Prod.fst (List.mem_singleton.mp itself)
        exact absurd shape (by simp)

/--
The spans that a run of a tree ends are nested as the blocks are that it enters.
-/
theorem wellNested_spans (tree : SpanTree) (opening : Opening) :
    tree.WellNested opening (tree.spans opening) where
  entered _ := mem_spans_iff
  once := (ordered_spans tree opening).imp EndsBefore.ne
  ordered := ordered_spans tree opening
  numbered := numbered_spans tree opening
  described path span block inside reaches := by
    obtain ⟨block', _, _, enters, rfl⟩ := exists_block_of_mem_spans inside
    cases reaches.unique enters.1
    exact ⟨rfl, rfl⟩
  traced path span inside := by
    obtain ⟨_, _, _, _, rfl⟩ := exists_block_of_mem_spans inside
    rfl
  outermost _ := outermost_spans
  nested := surrounded_spans tree opening
  failed path span block inside reaches := by
    obtain ⟨block', _, _, enters, rfl⟩ := exists_block_of_mem_spans inside
    cases reaches.unique enters.1
    refine ⟨fun fault => leaving_iff_leftBy, fun text => ?_⟩
    simp only [Span.recordedMessages, spanOf, ← leaving_iff_leftBy]
    cases block.leaving with
    | none =>
        simp
    | some fault =>
        simp

end SpanTree

end PolicyReconciler

import PolicyReconciler.Observation.Span

namespace PolicyReconciler.SpanTree

/-!
# Trees of blocks

A block of a tree is named by its path from the root.  This says, from the tree
alone, which blocks a run gets to, in which order it leaves them, and which faults
leave which blocks.
-/

/--
The way from the root of a tree to a block in it: the index of the child at each
step.
-/
abbrev Path := List Nat

/-- The name of the outermost block. -/
def name : SpanTree → Json
  | node name _ _ _ _ _ _ => name

/-- The attributes of the outermost block. -/
def attributes : SpanTree → Except Fault Members
  | node _ _ attributes _ _ _ _ => attributes

/-- The blocks directly inside. -/
def children : SpanTree → List SpanTree
  | node _ _ _ _ children _ _ => children

/-- The fault that the outermost block raises after its children. -/
def fault : SpanTree → Option Fault
  | node _ _ _ _ _ fault _ => fault

/-- Is the fault of the outermost block caught? -/
def catches : SpanTree → Bool
  | node _ _ _ _ _ _ catches => catches

/-- The attributes that a block gives its span, to begin with and later on. -/
def annotated : SpanTree → Members
  | node _ _ (.error _) _ _ _ _ => []
  | node _ kind (.ok usable) annotations _ _ _ =>
      Span.setAttributes
        (Span.setAttributes [] (Program.spanAttributes kind usable)) annotations

/-- A property holds of all trees if it holds of each one whose children have it. -/
@[elab_as_elim, induction_eliminator]
theorem induction
    {motive : SpanTree → Prop}
    (step : ∀ tree, (∀ child ∈ tree.children, motive child) → motive tree)
    (tree : SpanTree) :
    motive tree :=
  match tree with
  | .node name kind attributes annotations children fault catches =>
      step (.node name kind attributes annotations children fault catches)
        fun child (_ : child ∈ children) => induction step child
termination_by sizeOf tree
decreasing_by
  have smaller : sizeOf child < sizeOf children :=
    List.sizeOf_lt_of_mem ‹child ∈ children›
  rw [node.sizeOf_spec]
  omega

/-! ## Faults that leave -/

mutual

/-- The fault that a tree leaves to the code around it, none if it keeps faults. -/
def escaping : SpanTree → Option Fault
  | node _ _ attributes _ children fault catches =>
      if catches then none
      else match attributes with
        | .error unusable => some unusable
        | .ok _ => (firstEscaping children).or fault

/-- The first fault that one of some trees leaves to the code around them. -/
def firstEscaping : List SpanTree → Option Fault
  | [] => none
  | tree :: rest => (escaping tree).or (firstEscaping rest)

end

/--
The fault that leaves the block of a tree, whether or not it is kept outside the
block.
-/
def leaving (tree : SpanTree) : Option Fault :=
  match tree.attributes with
  | .error unusable => some unusable
  | .ok _ => (firstEscaping tree.children).or tree.fault

/-- A fault escapes from a block that does not catch it. -/
theorem escaping_eq (tree : SpanTree) :
    tree.escaping = if tree.catches then none else tree.leaving := by
  cases tree with
  | node name kind usable annotations children own keeps =>
      cases usable <;> cases keeps <;> rfl

/-- Nothing escapes from several blocks exactly if nothing escapes from each. -/
theorem firstEscaping_eq_none_iff (trees : List SpanTree) :
    firstEscaping trees = none ↔ ∀ tree ∈ trees, tree.escaping = none := by
  induction trees with
  | nil =>
      simp [firstEscaping]
  | cons tree rest inductionHypothesis =>
      simp [firstEscaping, inductionHypothesis]

/-! ## Blocks that a run gets to -/

/-- Whether the block of a tree opens its span. -/
def Opens (tree : SpanTree) : Prop :=
  ∃ usable, tree.attributes = .ok usable

/-- An induction that only looks into blocks that are opened. -/
@[elab_as_elim]
theorem openInduction
    {motive : SpanTree → Prop}
    (closed : ∀ tree, ¬ tree.Opens → motive tree)
    (opened :
      ∀ tree, tree.Opens → (∀ child ∈ tree.children, motive child) → motive tree)
    (tree : SpanTree) :
    motive tree := by
  induction tree with
  | step tree inductionHypothesis =>
      by_cases opens : tree.Opens
      · exact opened tree opens inductionHypothesis
      · exact closed tree opens

/--
Whether a run of some trees gets to the one at an index: no fault leaves one before
it.
-/
def RunsTo (trees : List SpanTree) (index : Nat) (child : SpanTree) : Prop :=
  trees[index]? = some child ∧ ∀ earlier ∈ trees.take index, earlier.escaping = none

/-- Whether a run of a tree gets to a block in it. -/
inductive Reaches : SpanTree → Path → SpanTree → Prop
  | here (tree : SpanTree) : Reaches tree [] tree
  | down {tree child block : SpanTree} {index : Nat} {path : Path}
      (opens : tree.Opens)
      (runs : RunsTo tree.children index child)
      (reaches : Reaches child path block) :
      Reaches tree (index :: path) block

/-- Whether a run of a tree enters a block in it. -/
def Enters (tree : SpanTree) (path : Path) (block : SpanTree) : Prop :=
  Reaches tree path block ∧ block.Opens

/--
Whether a run that has got to a block raises a fault there: because the block has no
usable attributes, or after all its children have come to an end.
-/
def Raises (block : SpanTree) (fault : Fault) : Prop :=
  block.attributes = .error fault ∨
    block.Opens ∧ (∀ child ∈ block.children, child.escaping = none) ∧
      block.fault = some fault

/--
Whether a fault leaves a block: it is raised there or further below, and none of the
blocks from the one that raises it up to the child of this block keeps it.
-/
def LeftBy (block : SpanTree) (fault : Fault) : Prop :=
  ∃ inner raiser,
    Reaches block inner raiser ∧ raiser.Raises fault ∧
      ∀ front between, front ≠ [] → front <+: inner → Reaches block front between →
        between.catches = false

/--
The order in which a run leaves blocks: children one by one, and then what is around
them.
-/
inductive EndsBefore : Path → Path → Prop
  | around {index : Nat} {path : Path} : EndsBefore (index :: path) []
  | earlier {index later : Nat} {path other : Path} (less : index < later) :
      EndsBefore (index :: path) (later :: other)
  | within {index : Nat} {path other : Path} (before : EndsBefore path other) :
      EndsBefore (index :: path) (index :: other)

theorem EndsBefore.ne
    {path other : Path}
    (before : EndsBefore path other) :
    path ≠ other := by
  induction before with
  | around =>
      exact List.cons_ne_nil _ _
  | earlier less =>
      exact fun same => absurd (List.cons.inj same).1 (Nat.ne_of_lt less)
  | within _ inductionHypothesis =>
      exact fun same => inductionHypothesis (List.cons.inj same).2

variable {tree child : SpanTree}
variable {rest : List SpanTree}
variable {index : Nat}

theorem runsTo_zero_iff :
    RunsTo (tree :: rest) 0 child ↔ child = tree := by
  simp [RunsTo, eq_comm]

theorem runsTo_succ_iff :
    RunsTo (tree :: rest) (index + 1) child ↔
      tree.escaping = none ∧ RunsTo rest index child := by
  simp only [RunsTo, List.getElem?_cons_succ, List.take_succ_cons,
    List.forall_mem_cons]
  exact and_left_comm

theorem RunsTo.mem
    {trees : List SpanTree}
    (runs : RunsTo trees index child) :
    child ∈ trees :=
  List.mem_of_getElem? runs.1

/-- One block runs at each place. -/
theorem RunsTo.unique
    {trees : List SpanTree}
    {other : SpanTree}
    (runs : RunsTo trees index child)
    (runs' : RunsTo trees index other) :
    child = other :=
  Option.some.inj (runs.1.symm.trans runs'.1)

/-- A path leads into a child that is run, and on from there. -/
theorem reaches_cons_iff
    {block : SpanTree}
    {path : Path} :
    Reaches tree (index :: path) block ↔
      tree.Opens ∧ ∃ child, RunsTo tree.children index child ∧
        Reaches child path block := by
  constructor
  · intro reaches
    cases reaches with
    | down opens runs reaches =>
        exact ⟨opens, _, runs, reaches⟩
  · rintro ⟨opens, child, runs, reaches⟩
    exact .down opens runs reaches

/-- A path leads to one block. -/
theorem Reaches.unique
    {block other : SpanTree}
    {path : Path}
    (reaches : Reaches tree path block)
    (reaches' : Reaches tree path other) :
    block = other := by
  induction reaches with
  | here tree =>
      cases reaches'
      rfl
  | down opens runs reaches inductionHypothesis =>
      obtain ⟨_, child, runs', inside⟩ := reaches_cons_iff.mp reaches'
      cases runs.unique runs'
      exact inductionHypothesis inside

/--
The first fault that leaves one of some trees leaves one that a run of them gets to.
-/
theorem firstEscaping_eq_some_iff
    {trees : List SpanTree}
    {fault : Fault} :
    firstEscaping trees = some fault ↔
      ∃ index child, RunsTo trees index child ∧ child.escaping = some fault := by
  induction trees with
  | nil =>
      simp [firstEscaping, RunsTo]
  | cons tree rest inductionHypothesis =>
      rw [firstEscaping, Option.or_eq_some_iff, inductionHypothesis]
      constructor
      · rintro (escapes | ⟨kept, index, child, runs, escapes⟩)
        · exact ⟨0, tree, runsTo_zero_iff.mpr rfl, escapes⟩
        · exact ⟨index + 1, child, runsTo_succ_iff.mpr ⟨kept, runs⟩, escapes⟩
      · rintro ⟨index, child, runs, escapes⟩
        cases index with
        | zero =>
            cases runsTo_zero_iff.mp runs
            exact .inl escapes
        | succ index =>
            obtain ⟨kept, runs⟩ := runsTo_succ_iff.mp runs
            exact .inr ⟨kept, index, child, runs, escapes⟩

/-- What escapes is what leaves a block that does not catch. -/
theorem escaping_eq_some_iff
    {fault : Fault} :
    tree.escaping = some fault ↔
      tree.catches = false ∧ tree.leaving = some fault := by
  rw [escaping_eq]
  cases tree.catches <;> simp

/--
What leaves a block is raised there, or is left by a child that does not keep it.
-/
theorem leaving_eq_some_iff
    {fault : Fault} :
    tree.leaving = some fault ↔
      tree.Raises fault ∨
        tree.Opens ∧ ∃ index child, RunsTo tree.children index child ∧
          child.catches = false ∧ child.leaving = some fault := by
  rw [leaving, Raises, Opens]
  cases tree.attributes with
  | error unusable =>
      simp
  | ok usable =>
      simp only [Option.or_eq_some_iff, firstEscaping_eq_some_iff,
        firstEscaping_eq_none_iff, escaping_eq_some_iff]
      simp [or_comm]

/-- A block is left by the fault that it raises. -/
theorem leftBy_of_raises
    {fault : Fault}
    (raises : tree.Raises fault) :
    tree.LeftBy fault :=
  ⟨[], tree, .here tree, raises, fun _ _ nonempty isPrefix =>
    absurd (List.prefix_nil.mp isPrefix) nonempty⟩

/-- A block is left by the fault that a child passes on. -/
theorem leftBy_of_child
    {fault : Fault}
    (opens : tree.Opens)
    (runs : RunsTo tree.children index child)
    (passes : child.catches = false)
    (left : child.LeftBy fault) :
    tree.LeftBy fault := by
  obtain ⟨inner, raiser, reaches, raises, passed⟩ := left
  refine ⟨index :: inner, raiser, .down opens runs reaches, raises, ?_⟩
  intro front between nonempty isPrefix reached
  cases front with
  | nil =>
      exact absurd rfl nonempty
  | cons first front =>
      obtain ⟨rfl, inFront⟩ := List.cons_prefix_cons.mp isPrefix
      obtain ⟨_, child', runs', reached⟩ := reaches_cons_iff.mp reached
      cases runs.unique runs'
      cases front with
      | nil =>
          cases reached
          exact passes
      | cons next front =>
          exact passed _ between (List.cons_ne_nil _ _) inFront reached

/--
A fault leaves a block just if it comes from where it is raised without being kept.
-/
theorem leaving_iff_leftBy
    {fault : Fault} :
    tree.leaving = some fault ↔ tree.LeftBy fault := by
  constructor
  · intro leaves
    induction tree with
    | step tree inductionHypothesis =>
        rcases leaving_eq_some_iff.mp leaves with
          raises | ⟨opens, index, child, runs, passes, left⟩
        · exact leftBy_of_raises raises
        · exact leftBy_of_child opens runs passes
            (inductionHypothesis child runs.mem left)
  · -- up from the block that raises the fault, along the path to it
    rintro ⟨inner, raiser, reaches, raises, passed⟩
    induction reaches with
    | here tree =>
        exact leaving_eq_some_iff.mpr (.inl raises)
    | @down tree child raiser index path opens runs reaches inductionHypothesis =>
        have passes : child.catches = false :=
          passed [index] child (List.cons_ne_nil _ _)
            (List.cons_prefix_cons.mpr ⟨rfl, List.nil_prefix⟩)
              (.down opens runs (.here child))
        have left : child.leaving = some fault :=
          inductionHypothesis raises fun front between _ isPrefix reached =>
            passed (index :: front) between (List.cons_ne_nil _ _)
              (List.cons_prefix_cons.mpr ⟨rfl, isPrefix⟩) (.down opens runs reached)
        exact leaving_eq_some_iff.mpr
          (.inr ⟨opens, index, child, runs, passes, left⟩)

end PolicyReconciler.SpanTree

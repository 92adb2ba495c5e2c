import PolicyReconciler.Proofs.Tracing.Blocks
import PolicyReconciler.Proofs.Tracing.Forest

namespace PolicyReconciler

/-!
# Runs of trees of blocks

With a recording tracer, a run of a tree ends the spans of the tree in their order,
leaves the fault that escapes from it, and leaves the current span and the
correlation id as they were.
-/

open Program

/--
What the next span on a stack gets; without a span around it, it begins a trace.
-/
def SpanStack.opening (stack : SpanStack) : Opening where
  parent := stack.current?.map SpanContext.span
  trace := (stack.current?.map SpanContext.trace).getD stack.nextTrace
  id := stack.nextSpan

/-- The next trace after a span was opened on a stack. -/
def SpanStack.traceAfter (stack : SpanStack) : Nat :=
  if stack.opened.isEmpty then stack.nextTrace + 1 else stack.nextTrace

theorem SpanStack.push_eq (stack : SpanStack) (name : Json) (attributes : Members) :
    stack.push name attributes =
      ⟨⟨name, stack.opening.id, stack.opening.trace, stack.opening.parent,
          Span.setAttributes [] attributes, none⟩ :: stack.opened,
        stack.nextSpan + 1, stack.traceAfter⟩ := by
  obtain ⟨opened, nextSpan, nextTrace⟩ := stack
  cases opened <;> rfl

/-- The outcome of code that ends with a fault, or without one. -/
def endedBy : Option Fault → Except Fault Unit
  | none => .ok ()
  | some fault => .error fault

/-- The fault that a block ended by is found again. -/
theorem faultOf_endedBy
    (fault : Option Fault) :
    faultOf (endedBy fault) = fault := by
  cases fault <;> rfl

theorem endedBy_eq_error_iff
    {ending : Option Fault}
    {fault : Fault} :
    endedBy ending = .error fault ↔ ending = some fault := by
  cases ending <;> simp [endedBy]

/--
What is relied on of a library that keeps spans: what it keeps can be seen as a
stack.  A new span is the current one, an attribute is given to the current span,
and when that ends the span from before is current again.
-/
structure SpanLibrary.StackView (Spans : Type) [SpanLibrary Spans] where
  /--
  The spans that are open, innermost first, and the numbers that are given out next.
  -/
  view : Spans → SpanStack
  current : ∀ spans, SpanLibrary.current? spans = (view spans).current?
  opens : ∀ spans name attributes,
    view (SpanLibrary.push spans name attributes) =
      (view spans).push name attributes
  annotates : ∀ spans key value,
    view (SpanLibrary.annotate spans key value) = (view spans).annotate key value
  ends : ∀ spans fault, (SpanLibrary.pop spans fault).1 = ((view spans).pop fault).1
  restores :
    ∀ spans fault, view (SpanLibrary.pop spans fault).2 = ((view spans).pop fault).2

/-- A stack of spans is seen as it is. -/
def SpanStack.stackView : SpanLibrary.StackView SpanStack where
  view := id
  current _ := rfl
  opens _ _ _ := rfl
  annotates _ _ _ := rfl
  ends _ _ := rfl
  restores _ _ := rfl

/-- A stack after some more spans were opened on it and have ended. -/
def SpanStack.after (stack : SpanStack) (count nextTrace : Nat) : SpanStack :=
  ⟨stack.opened, stack.nextSpan + count, nextTrace⟩

/-- A stack on which a span has been opened, with its attributes so far. -/
def SpanStack.within (stack : SpanStack) (span : Span) : SpanStack :=
  ⟨span :: stack.opened, stack.nextSpan + 1, stack.traceAfter⟩

/-- Two stretches of identifiers are one. -/
theorem SpanStack.after_after
    (stack : SpanStack)
    (first second nextTrace last : Nat) :
    (stack.after first nextTrace).after second last =
      stack.after (first + second) last := by
  simp [after, Nat.add_assoc]

namespace Platform

variable {Spans : Type} [SpanLibrary Spans]
variable {seen : SpanLibrary.StackView Spans}
variable {backend : Backend Spans}
variable {platform : Platform Spans}

/--
A platform on which some spans have ended, and on which others are open than before.
-/
def afterSpans (platform : Platform Spans) (ended : List Span) (spans : Spans) :
    Platform Spans :=
  { platform with
    spans := spans
    notes := platform.notes ++ ended.map .ended }

omit [SpanLibrary Spans] in
@[simp] theorem spans_afterSpans
    (platform : Platform Spans)
    (ended : List Span)
    (spans : Spans) :
    (platform.afterSpans ended spans).spans = spans :=
  rfl

omit [SpanLibrary Spans] in
/-- Without ended spans the platform stays as it is. -/
theorem afterSpans_nil (platform : Platform Spans) :
    platform.afterSpans [] platform.spans = platform := by
  simp [afterSpans]

omit [SpanLibrary Spans] in
/-- Ended spans are noted one after the other. -/
theorem afterSpans_afterSpans
    (platform : Platform Spans)
    (first second : List Span)
    (spans last : Spans) :
    (platform.afterSpans first spans).afterSpans second last =
      platform.afterSpans (first ++ second) last := by
  simp [afterSpans]

variable (backend) in
/-- Attributes are given to the span that is open around the code. -/
theorem runWith_annotateAll
    {stack : SpanStack}
    {span : Span}
    (annotations : Members)
    (recording : platform.tracer = .recording)
    (inside : seen.view platform.spans = stack.within span) :
    ∃ spans,
      runWith backend (SpanTree.annotateAll annotations) platform =
          (.ok (), platform.afterSpans [] spans) ∧
        seen.view spans = stack.within
          { span with
            attributes := Span.setAttributes span.attributes annotations } := by
  induction annotations generalizing platform span with
  | nil =>
      exact ⟨platform.spans, by rw [afterSpans_nil]; rfl, inside⟩
  | cons annotation rest inductionHypothesis =>
      obtain ⟨key, value⟩ := annotation
      have step : runWith backend (Program.annotateSpan key value) platform =
          (.ok (), platform.afterSpans []
            (SpanLibrary.annotate platform.spans key value)) := by
        simp [runWith, Program.annotateSpan, Program.run, handleWith,
          annotateSpan, afterSpans, recording, finish]
      have annotated : seen.view (SpanLibrary.annotate platform.spans key value) =
          stack.within { span with
            attributes := Span.setAttribute span.attributes key value } := by
        rw [seen.annotates, inside]
        rfl
      have still : (platform.afterSpans []
          (SpanLibrary.annotate platform.spans key value)).tracer = .recording :=
        recording
      obtain ⟨spans, ran, view⟩ := inductionHypothesis still annotated
      refine ⟨spans, ?_, view⟩
      rw [SpanTree.annotateAll, runWith_bind, step]
      dsimp only
      rw [ran, afterSpans_afterSpans]
      rfl

/-- A raised fault leaves the platform as it is. -/
theorem runWith_raiseIf (fault : Option Fault) (platform : Platform Spans) :
    runWith backend (SpanTree.raiseIf fault) platform =
      (endedBy fault, platform) := by
  cases fault <;> rfl

/-- Whether runs of a tree end its spans and leave what escapes from it. -/
def RunsAs
    (seen : SpanLibrary.StackView Spans)
    (backend : Backend Spans)
    (tree : SpanTree) :
    Prop :=
  ∀ platform : Platform Spans, platform.tracer = .recording →
    let ended := (tree.spans (seen.view platform.spans).opening).map Prod.snd
    ∃ spans nextTrace,
      runWith backend tree.enter platform =
          (endedBy tree.escaping, platform.afterSpans ended spans) ∧
        seen.view spans = (seen.view platform.spans).after ended.length nextTrace ∧
        ((seen.view platform.spans).opened ≠ [] →
          nextTrace = (seen.view platform.spans).nextTrace)

/-- Several blocks run as their trees say if each of them does. -/
theorem runWith_enterAll
    {trees : List SpanTree}
    (each : ∀ tree ∈ trees, RunsAs seen backend tree)
    (index : Nat)
    (platform : Platform Spans)
    (recording : platform.tracer = .recording)
    (inside : (seen.view platform.spans).opened ≠ []) :
    let ended :=
      (SpanTree.spansFrom trees index (seen.view platform.spans).opening).map
        Prod.snd
    ∃ spans,
      runWith backend (SpanTree.enterAll trees) platform =
          (endedBy (SpanTree.firstEscaping trees),
            platform.afterSpans ended spans) ∧
        seen.view spans =
          (seen.view platform.spans).after ended.length
            (seen.view platform.spans).nextTrace := by
  induction trees generalizing platform index with
  | nil =>
      exact ⟨platform.spans, by
        rw [SpanTree.spansFrom, List.map_nil, afterSpans_nil]; rfl, rfl⟩
  | cons tree rest inductionHypothesis =>
      obtain ⟨isFirst, areLater⟩ := List.forall_mem_cons.mp each
      obtain ⟨spans, _, ran, view, same⟩ := isFirst platform recording
      -- a span is open around the children, so none of them begins a trace
      cases same inside
      simp only [SpanTree.enterAll, SpanTree.spansFrom_cons, List.map_append,
        SpanTree.map_snd_inChild, SpanTree.firstEscaping]
      rw [runWith_bind, ran]
      generalize ended :
          (tree.spans (seen.view platform.spans).opening).map Prod.snd = first
        at view ⊢
      have count : (tree.spans (seen.view platform.spans).opening).length =
          first.length := by
        rw [← ended, List.length_map]
      cases tree.escaping with
      | some fault =>
          exact ⟨spans, by simp [endedBy], by simpa using view⟩
      | none =>
          obtain ⟨last, ranLater, viewLater⟩ :=
            inductionHypothesis areLater (index + 1)
            (platform.afterSpans first spans) recording
              (by rw [spans_afterSpans, view]; exact inside)
          rw [spans_afterSpans, view, afterSpans_afterSpans] at ranLater
          rw [spans_afterSpans, view, SpanStack.after_after] at viewLater
          refine ⟨last, ?_, ?_⟩
          · rw [count]
            exact ranLater
          · rw [count, List.length_append]
            exact viewLater

variable (seen) in
/-- A span is opened with what the next span on the stack gets. -/
theorem openSpan_seen
    (recording : platform.tracer = .recording)
    (name : Json)
    (attributes : Members) :
    ∃ spans,
      platform.openSpan name attributes = platform.afterSpans [] spans ∧
        seen.view spans = (seen.view platform.spans).within
          ⟨name, (seen.view platform.spans).opening.id,
            (seen.view platform.spans).opening.trace,
            (seen.view platform.spans).opening.parent,
            Span.setAttributes [] attributes, none⟩ := by
  refine ⟨SpanLibrary.push platform.spans name attributes, ?_, ?_⟩
  · simp [openSpan, recording, afterSpans]
  · rw [seen.opens, SpanStack.push_eq]
    rfl

/-- The span around the code ends, and the one around that is current again. -/
theorem closeSpan_seen
    {stack : SpanStack}
    {span : Span}
    {count nextTrace : Nat}
    (recording : platform.tracer = .recording)
    (inside : seen.view platform.spans = (stack.within span).after count nextTrace)
    (fault : Option Fault) :
    ∃ spans,
      platform.closeSpan fault =
          platform.afterSpans [{ span with fault := fault }] spans ∧
        seen.view spans = stack.after (count + 1) nextTrace := by
  have ended : (SpanLibrary.pop platform.spans fault).1 =
      some { span with fault := fault } := by
    rw [seen.ends, inside]
    rfl
  refine ⟨(SpanLibrary.pop platform.spans fault).2, ?_, ?_⟩
  · unfold closeSpan
    rw [recording]
    cases popped : SpanLibrary.pop platform.spans fault with
    | mk last spans =>
        rw [popped] at ended
        cases ended
        simp [afterSpans, note, recording]
  · rw [seen.restores, inside]
    have total : stack.nextSpan + 1 + count = stack.nextSpan + (count + 1) := by
      omega
    simp only [SpanStack.pop, SpanStack.after, SpanStack.within, total]

section

variable {name kind : Json}
variable {usable annotations : Members}
variable {children : List SpanTree}
variable {fault : Option Fault}

/-- A block whose attributes can be used. -/
theorem enter_usable
    (name kind : Json)
    (usable annotations : Members)
    (children : List SpanTree)
    (fault : Option Fault)
    (catches : Bool) :
    (SpanTree.node name kind (.ok usable) annotations children fault
      catches).enter =
      let block : Program Float Unit := withSpan name kind usable do
        SpanTree.annotateAll annotations
        SpanTree.enterAll children
        SpanTree.raiseIf fault
      if catches then block.recover fun _ => finish () else block :=
  rfl

variable (annotations fault) in
/--
A run of the code in a block: its children, and then the fault that it raises
itself.
-/
theorem runWith_body
    {stack : SpanStack}
    {span : Span}
    (each : ∀ child ∈ children, RunsAs seen backend child)
    (recording : platform.tracer = .recording)
    (inside : seen.view platform.spans = stack.within span) :
    let ended := (SpanTree.spansFrom children 0
      ⟨some span.id, span.trace, stack.nextSpan + 1⟩).map Prod.snd
    ∃ spans,
      runWith backend
          (do
            SpanTree.annotateAll annotations
            SpanTree.enterAll children
            SpanTree.raiseIf fault)
          platform =
        (endedBy ((SpanTree.firstEscaping children).or fault),
          platform.afterSpans ended spans) ∧
      seen.view spans =
        (stack.within { span with
          attributes :=
            Span.setAttributes span.attributes annotations }).after ended.length
          stack.traceAfter := by
  obtain ⟨annotated, ran, view⟩ :=
    runWith_annotateAll backend annotations recording inside
  have opened :
      (seen.view (platform.afterSpans [] annotated).spans).opened ≠ [] := by
    rw [spans_afterSpans, view]
    exact List.cons_ne_nil _ _
  obtain ⟨spans, entered, viewAfter⟩ :=
    runWith_enterAll each 0 (platform.afterSpans [] annotated) recording opened
  rw [spans_afterSpans, view, afterSpans_afterSpans] at entered
  rw [spans_afterSpans, view] at viewAfter
  refine ⟨spans, ?_, viewAfter⟩
  rw [runWith_bind, ran]
  dsimp only
  rw [runWith_bind, entered]
  cases SpanTree.firstEscaping children with
  | some escaped =>
      rfl
  | none =>
      exact runWith_raiseIf fault _

variable (name kind usable annotations fault) in
/--
A run of a block whose attributes can be used, whether or not its fault is kept.
-/
theorem runWith_block
    (each : ∀ child ∈ children, RunsAs seen backend child)
    (recording : platform.tracer = .recording)
    (catches : Bool) :
    let ended := ((SpanTree.node name kind (.ok usable) annotations children fault
      catches).spans (seen.view platform.spans).opening).map Prod.snd
    ∃ spans,
      runWith backend
          (withSpan name kind usable do
            SpanTree.annotateAll annotations
            SpanTree.enterAll children
            SpanTree.raiseIf fault)
          platform =
        (endedBy ((SpanTree.firstEscaping children).or fault),
          platform.afterSpans ended spans) ∧
      seen.view spans = (seen.view platform.spans).after ended.length
        (seen.view platform.spans).traceAfter := by
  obtain ⟨opened, isOpened, view⟩ :=
    openSpan_seen seen recording name (spanAttributes kind usable)
  have still : (platform.afterSpans [] opened).tracer = .recording := recording
  obtain ⟨inner, ran, viewInner⟩ := runWith_body annotations fault each still view
  let beginning := (seen.view platform.spans).opening
  let ended := (SpanTree.spansFrom children 0
    ⟨some beginning.id, beginning.trace,
      (seen.view platform.spans).nextSpan + 1⟩).map Prod.snd
  have stillInside :
      ((platform.afterSpans [] opened).afterSpans ended inner).tracer =
      .recording :=
    recording
  obtain ⟨spans, closed, viewAfter⟩ :=
    closeSpan_seen stillInside viewInner
      ((SpanTree.firstEscaping children).or fault)
  rw [← isOpened] at ran closed
  refine ⟨spans, ?_, ?_⟩
  · rw [runWith_withSpan name kind usable _ ran, faultOf_endedBy, closed, isOpened,
      afterSpans_afterSpans, afterSpans_afterSpans, SpanTree.spans, List.map_append]
    rfl
  · rw [viewAfter, SpanTree.spans, List.map_append, List.length_append]
    rfl

end

/-- Every block runs as its tree says. -/
theorem runsAs (tree : SpanTree) : RunsAs seen backend tree := by
  induction tree with
  | step tree inductionHypothesis =>
      intro platform recording
      obtain ⟨name, kind, unusable | usable,
          annotations, children, fault, catches⟩ := tree
      · refine ⟨platform.spans, (seen.view platform.spans).nextTrace, ?_,
          rfl, fun _ => rfl⟩
        rw [SpanTree.spans, List.map_nil, afterSpans_nil]
        cases catches <;> rfl
      · have each : ∀ child ∈ children, RunsAs seen backend child :=
          inductionHypothesis
        obtain ⟨spans, ran, view⟩ :=
          runWith_block name kind usable annotations fault each recording catches
        refine ⟨spans, (seen.view platform.spans).traceAfter, ?_, view,
          fun inside => ?_⟩
        · rw [enter_usable]
          cases catches with
          | false =>
              exact ran
          | true =>
              rw [if_pos rfl, runWith_recover, ran]
              cases (SpanTree.firstEscaping children).or fault <;> rfl
        · rw [SpanStack.traceAfter, if_neg (by simpa using inside)]

/--
With a recording tracer, a run of any tree of blocks inside any nested blocks with
correlation ids ends one span for each block that it enters, nested as these are,
and each failed just if a fault left its block.  Whatever fault the tree ends with,
the current span and the correlation id are those from before.  The platform may be
inside other blocks, so this holds of each block in a tree as well.
-/
theorem spans_of_tree
    (seen : SpanLibrary.StackView Spans)
    (backend : Backend Spans)
    (platform : Platform Spans)
    (recording : platform.tracer = .recording)
    (ids : List Json)
    (tree : SpanTree) :
    ∃ outcome after ended,
      runWith backend (within ids tree.enter) platform = (outcome, after) ∧
        (∀ fault, outcome = .error fault ↔
          tree.catches = false ∧ tree.LeftBy fault) ∧
        after.notes = platform.notes ++ ended.map (fun entry => .ended entry.2) ∧
        tree.WellNested (seen.view platform.spans).opening ended ∧
        (seen.view after.spans).opened = (seen.view platform.spans).opened ∧
        after.correlations = platform.correlations ∧
        after.context = platform.context := by
  have runs : RunsAs seen backend tree := runsAs tree
  obtain ⟨spans, _, ran, view, _⟩ := runs (platform.enterCorrelations ids) recording
  have restored : (seen.view spans).opened = (seen.view platform.spans).opened := by
    rw [view]
    rfl
  refine ⟨_, _, tree.spans (seen.view platform.spans).opening,
    runWith_within ids _ ran rfl, ?_, ?_, SpanTree.wellNested_spans tree _,
    restored, rfl, ?_⟩
  · intro fault
    rw [endedBy_eq_error_iff, SpanTree.escaping_eq_some_iff,
      SpanTree.leaving_iff_leftBy]
  · exact congrArg _ (List.map_map ..)
  · have current :
        SpanLibrary.current? spans = SpanLibrary.current? platform.spans := by
      rw [seen.current, seen.current, SpanStack.current?,
        SpanStack.current?, restored]
    simp only [context, spans_afterSpans, current]
    rfl

/-! ## A tree in which a fault is kept -/

/--
A tree whose second child keeps a fault from below, and whose third one cannot be
opened.
-/
def refusedTree : SpanTree :=
  .node (.str "reconcile") (.str "IAMAuthPolicy")
    (.ok [("target", .str "Gateway")]) []
    [.node (.str "list") .null (.ok []) [("found", .int 1)] [] none false,
      .node (.str "attach") .null (.ok []) []
        [.node (.str "put") .null (.ok []) [] [] (some (.badValue "refused")) false,
          .node (.str "report") .null (.ok []) [] [] none false]
        none true,
      .node (.str "note") .null (.error (.notIterable (.int 5))) [] [] none false,
      .node (.str "finish") .null (.ok []) [] [] none false]
    none true

example :
    (refusedTree.spans ⟨none, 1, 1⟩).map
      (fun entry => (entry.1, entry.2.id, entry.2.parent)) =
      [([0], 2, some 1), ([1, 0], 4, some 3), ([1], 3, some 1), ([], 1, none)] := by
  decide

/-- A platform with a recording tracer, which has opened no span yet. -/
def blankPlatform : Platform SpanStack :=
  .empty .recording 1000

theorem spans_of_refusedTree :
    blankPlatform.tracer = .recording ∧
      ∃ after ended,
        runWith answer (within [.str "a", .str "b"] refusedTree.enter)
          blankPlatform =
            (.ok (), after) ∧
          refusedTree.WellNested SpanStack.empty.opening ended ∧
          after.notes = ended.map (fun entry => .ended entry.2) ∧
          after.context = ⟨.null, none⟩ := by
  obtain ⟨outcome, after, ended, ran, left, noted, nested, _, _, restored⟩ :=
    spans_of_tree SpanStack.stackView answer blankPlatform rfl
      [.str "a", .str "b"] refusedTree
  cases outcome with
  | ok result =>
      exact ⟨rfl, after, ended, ran, nested, noted, restored⟩
  | error fault =>
      cases ((left fault).mp rfl).1

end Platform

end PolicyReconciler

import PolicyReconciler.Json.Use
import PolicyReconciler.Program.Basic

namespace PolicyReconciler

/-!
# Spans

A recording tracer numbers spans from one and gives a new trace to each span
that no other surrounds.  A span that a fault leaves is marked as failed.  A
silent tracer has spans that nobody sees, and there may be no tracer at all.
-/

/-- What the tracer does with spans. -/
inductive TracerMode where
  | recording
  | silent
  | absent
  deriving Repr, DecidableEq

/-- Whether code inside a span is given the span. -/
def TracerMode.yieldsSpans : TracerMode → Bool
  | recording => true
  | silent => true
  | absent => false

/-- A block of work as the tracer records it. -/
structure Span where
  name : Json
  id : Nat
  trace : Nat
  parent : Option Nat
  attributes : Members
  /-- The fault that left the span, if one did. -/
  fault : Option Fault
  deriving Repr

namespace Span

mutual

/--
A value as an attribute keeps it: without members whose key is empty, at any depth.
-/
def attributeValue : Json → Json
  | .arr items => .arr (attributeItems items)
  | .obj members => .obj (attributeMembers members)
  | value => value

/-- The entries of a list, each as an attribute keeps it. -/
def attributeItems : List Json → List Json
  | [] => []
  | item :: rest => attributeValue item :: attributeItems rest

/--
The members of an object, each as an attribute keeps it. An empty name is dropped.
-/
def attributeMembers : List (String × Json) → List (String × Json)
  | [] => []
  | (key, value) :: rest =>
      if key = "" then attributeMembers rest
      else (key, attributeValue value) :: attributeMembers rest

end

/-- How many attributes a span keeps. -/
def attributeLimit : Nat := 128

/-- Make room for one more attribute: a full span loses its oldest one. -/
def makeRoom (attributes : Members) : Members :=
  if attributes.length < attributeLimit then attributes else attributes.tail

/-- Set an attribute as the latest one; an empty key changes nothing. -/
def setAttribute (attributes : Members) (key : String) (value : Json) : Members :=
  if key = "" then
    attributes
  else if Members.has attributes key then
    attributes.erase key ++ [(key, attributeValue value)]
  else
    makeRoom attributes ++ [(key, attributeValue value)]

/-- Several attributes, set one after the other. -/
def setAttributes (attributes additions : Members) : Members :=
  additions.foldl (fun current addition =>
    setAttribute current addition.1 addition.2) attributes

/-- The attributes that a value gives a span: its entries whose keys are texts. -/
def attributesOf (value : Json) : Except Fault Members :=
  let texts (table : Table) : Members := table.filterMap fun
    | (.str key, value) => some (key, value)
    | _ => none
  if value.truthy then value.table.map texts else .ok []

/-- What is said about the fault that left a span. -/
def description (span : Span) : Option String :=
  span.fault.map fun fault => fault.kind ++ ": " ++ fault.message

/--
The messages recorded when a fault leaves a span: by the block and by the tracer.
-/
def recordedMessages (span : Span) : List String :=
  match span.fault with
  | some fault => [fault.message, fault.message]
  | none => []

end Span

/--
What is asked of a library that keeps the spans of a recording tracer.  Which spans
there are is its own affair; the program only opens spans, gives them attributes and
ends them.
-/
class SpanLibrary (Spans : Type) where
  /-- No span has been opened yet. -/
  empty : Spans
  /-- The span that is current, if there is one. -/
  current? : Spans → Option SpanContext
  /-- Open a span with a name and attributes, and make it the current one. -/
  push : Spans → Json → Members → Spans
  /-- Give the current span an attribute. -/
  annotate : Spans → String → Json → Spans
  /--
  End the current span, which a fault may have left; the answer is the span as it
  ended.
  -/
  pop : Spans → Option Fault → Option Span × Spans

/--
The spans that are open, innermost first, and the numbers that are given out next.
-/
structure SpanStack where
  opened : List Span
  nextSpan : Nat
  nextTrace : Nat
  deriving Repr

namespace SpanStack

/-- No open span, and the first identifiers of a process. -/
def empty : SpanStack := ⟨[], 1, 1⟩

/-- The place inside the innermost open span. -/
def current? (stack : SpanStack) : Option SpanContext :=
  stack.opened.head?.map fun span => ⟨span.trace, span.id⟩

/--
A span opened below the innermost one, in its trace. Without one it starts a
trace.
-/
def push (stack : SpanStack) (name : Json) (attributes : Members) : SpanStack :=
  match stack.opened with
  | [] =>
      ⟨[⟨name, stack.nextSpan, stack.nextTrace, none,
        Span.setAttributes [] attributes, none⟩], stack.nextSpan + 1,
        stack.nextTrace + 1⟩
  | parent :: others =>
      ⟨⟨name, stack.nextSpan, parent.trace, some parent.id,
          Span.setAttributes [] attributes, none⟩ :: parent :: others,
        stack.nextSpan + 1, stack.nextTrace⟩

/-- An attribute set on the innermost open span. -/
def annotate (stack : SpanStack) (key : String) (value : Json) : SpanStack :=
  match stack.opened with
  | [] => stack
  | span :: others =>
      { stack with
        opened :=
          { span with attributes := Span.setAttribute span.attributes key value } ::
          others }

/-- Close the innermost span; the answer is the span as it ended. -/
def pop (stack : SpanStack) (fault : Option Fault) : Option Span × SpanStack :=
  match stack.opened with
  | [] => (none, stack)
  | span :: others =>
      (some { span with fault := fault }, { stack with opened := others })

instance : SpanLibrary SpanStack where
  empty := empty
  current? := current?
  push := push
  annotate := annotate
  pop := pop

end SpanStack

/--
A tree of nested spans, of which some raise a fault and some keep faults from
leaving.  A span whose attributes cannot be used is not opened: its node has their
fault.
-/
inductive SpanTree where
  | node (name : Json) (kind : Json) (attributes : Except Fault Members)
        (annotations : Members)
      (children : List SpanTree) (fault : Option Fault) (catches : Bool)
  deriving Inhabited

namespace SpanTree

open Program

variable {Time : Type}

/-- Attributes set on the current span, in order. -/
def annotateAll : Members → Program Time Unit
  | [] => finish ()
  | (key, value) :: rest => do
      annotateSpan key value
      annotateAll rest

/-- The fault raised, if there is one. -/
def raiseIf : Option Fault → Program Time Unit
  | some fault => fail fault
  | none => finish ()

mutual

/--
A block of nested work: its attributes, its children and the fault it raises,
caught or not.
-/
def enter : SpanTree → Program Time Unit
  | node name kind attributes annotations children fault catches =>
      let block : Program Time Unit :=
        (ofExcept attributes).andThen fun usable =>
          withSpan name kind usable do
            annotateAll annotations
            enterAll children
            raiseIf fault
      if catches then block.recover fun _ => finish () else block

/-- Several blocks, one after the other. -/
def enterAll : List SpanTree → Program Time Unit
  | [] => finish ()
  | tree :: rest => do
      enter tree
      enterAll rest

end

end SpanTree

end PolicyReconciler

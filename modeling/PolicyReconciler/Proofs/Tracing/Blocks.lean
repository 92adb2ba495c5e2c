import PolicyReconciler.Platform.Backend

namespace PolicyReconciler

/-!
# Nested blocks on a platform

Code runs inside blocks that set a correlation id or open a span.  A run of a block
is a run of the code in it, on a platform that has entered the block, and then the
block is left.
-/

open Program

namespace Program

variable {Time Result : Type}

/-- The fault that a program ends with, if it does. -/
def faultOf : Except Fault Result → Option Fault
  | .ok _ => none
  | .error fault => some fault

/-- Run a program inside nested blocks with correlation ids, the outermost first. -/
def within
    (ids : List Json)
    (program : Program Time Result) :
    Program Time Result :=
  ids.foldr withCorrelation program

end Program

namespace Platform

variable {Spans : Type} [SpanLibrary Spans]
variable {Result Other : Type}
variable {backend : Backend Spans}

/-- A platform inside several more correlations. -/
def enterCorrelations
    (platform : Platform Spans)
    (ids : List Json) :
    Platform Spans :=
  { platform with correlations := ids.reverse ++ platform.correlations }

/-- A continued program runs on from where its first part left the platform. -/
theorem runWith_followedBy
    (program : Program Float Result)
    (next : Except Fault Result → Program Float Other)
    (platform : Platform Spans) :
    runWith backend (program.followedBy next) platform =
      runWith backend (next (runWith backend program platform).1)
        (runWith backend program platform).2 :=
  run_followedBy _ program next platform

/-- A program that goes on runs on from where its first part left the platform. -/
theorem runWith_bind
    (program : Program Float Result)
    (next : Result → Program Float Other)
    (platform : Platform Spans) :
    runWith backend (program >>= next) platform =
      match runWith backend program platform with
      | (.ok result, after) => runWith backend (next result) after
      | (.error fault, after) => (.error fault, after) := by
  change runWith backend (program.followedBy _) platform = _
  rw [runWith_followedBy]
  obtain ⟨result | fault, after⟩ := runWith backend program platform <;> rfl

/-- A handler runs from where the fault left the platform. -/
theorem runWith_recover
    (program : Program Float Result)
    (handler : Fault → Program Float Result)
    (platform : Platform Spans) :
    runWith backend (program.recover handler) platform =
      match runWith backend program platform with
      | (.ok result, after) => (.ok result, after)
      | (.error fault, after) => runWith backend (handler fault) after := by
  rw [recover, runWith_followedBy]
  obtain ⟨result | fault, after⟩ := runWith backend program platform <;> rfl

/-- A span is opened before its program runs and closed behind it. -/
theorem runWith_withSpan
    (name kind : Json)
    (attributes : Members)
    (program : Program Float Result)
    {platform after : Platform Spans}
    {outcome : Except Fault Result}
    (inside : runWith backend program
      (platform.openSpan name (spanAttributes kind attributes)) =
        (outcome, after)) :
    runWith backend (withSpan name kind attributes program) platform =
      (outcome, after.closeSpan (faultOf outcome)) := by
  change runWith backend (program.followedBy _)
    (platform.openSpan name (spanAttributes kind attributes)) = _
  rw [runWith_followedBy, inside]
  cases outcome <;> rfl

/-- A correlation is entered before its program runs and left behind it. -/
theorem runWith_withCorrelation
    (id : Json)
    (program : Program Float Result)
    {platform after : Platform Spans}
    {outcome : Except Fault Result}
    (inside : runWith backend program (platform.enterCorrelations [id]) =
      (outcome, after)) :
    runWith backend (withCorrelation id program) platform =
      (outcome, { after with correlations := after.correlations.tail }) := by
  change runWith backend (program.ensuring _) (platform.enterCorrelations [id]) = _
  rw [ensuring, runWith_followedBy, inside]
  rfl

/--
The code inside nested blocks has their correlation ids, and leaves those outside
them.
-/
theorem runWith_within
    (ids : List Json)
    (program : Program Float Result)
    {platform after : Platform Spans}
    {outcome : Except Fault Result}
    (inside :
      runWith backend program (platform.enterCorrelations ids) = (outcome, after))
    (kept : after.correlations = (platform.enterCorrelations ids).correlations) :
    runWith backend (within ids program) platform =
      (outcome, { after with correlations := platform.correlations }) := by
  induction ids generalizing platform after with
  | nil =>
      cases after
      cases kept
      exact inside
  | cons id rest inductionHypothesis =>
      have order : platform.enterCorrelations (id :: rest) =
          (platform.enterCorrelations [id]).enterCorrelations rest := by
        simp [enterCorrelations]
      rw [order] at inside kept
      exact runWith_withCorrelation id (within rest program)
        (inductionHypothesis inside kept)

end Platform

end PolicyReconciler

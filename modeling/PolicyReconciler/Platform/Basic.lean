import PolicyReconciler.Json.Table
import PolicyReconciler.Observation.Span

namespace PolicyReconciler

/-!
# An in-memory platform

The platform holds everything that the reconciler meets: a clock, the records, the
listings, the auth state of the resources, and scripted delays and faults.  It
keeps notes of what was done in it.
-/

/--
What a call asks for, apart from its arguments. Faults and latencies are planned
by it.
-/
inductive Method where
  | operation (operation : Operation)
  | loadClusterConfiguration
  | loadUserConfiguration
  deriving Repr, DecidableEq

/-- The method of a call. -/
def Call.method : Call → Method
  | .readRecord .. => .operation .readPolicy
  | .replaceRecord .. => .operation .updatePolicy
  | .listPage kind _ => .operation (.list kind)
  | .setAuthType kind .. => .operation (.setAuthType kind)
  | .putAuthPolicy .. => .operation .putAuthPolicy
  | .deleteAuthPolicy _ => .operation .deleteAuthPolicy
  | .loadClusterConfiguration => .loadClusterConfiguration
  | .loadUserConfiguration => .loadUserConfiguration

/-- Something a run leaves behind, in the order in which it happens. -/
inductive Note where
  | called (call : Call)
  | paused (length : Pause Float)
  | emitted (event : Event)
  | logged (record : LogRecord)
  | ended (span : Span)
  | counted (counter : Counter)
  | timed (histogram : Histogram) (duration : Float)

/-- A platform, with double-precision seconds and a library that keeps spans. -/
structure Platform (Spans : Type) where
  clock : Float
  /-- Whether pauses leave the clock where it is. -/
  frozen : Bool
  lastKubernetes : Float
  lastLattice : Float
  records : Members
  networkPages : Members
  servicePages : Members
  policies : Table
  authTypes : Table
  /--
  The faults that the next calls of each method meet; an empty place is a call
  without one.
  -/
  faults : List (Method × List (Option Fault))
  /-- How long the calls of each method take, in seconds as they were given. -/
  latencies : List (Method × Json)
  tracer : TracerMode
  spans : Spans
  correlations : List Json
  notes : List Note

namespace Platform

variable {Spans : Type}

/-- A platform in which nothing exists and nothing has happened. -/
def empty
    [SpanLibrary Spans]
    (tracer : TracerMode)
    (clock : Float) :
    Platform Spans where
  clock := clock
  frozen := false
  lastKubernetes := 0
  lastLattice := 0
  records := []
  networkPages := []
  servicePages := []
  policies := []
  authTypes := []
  faults := []
  latencies := []
  tracer := tracer
  spans := SpanLibrary.empty
  correlations := []
  notes := []

/-- A platform with one more note. -/
def note (platform : Platform Spans) (entry : Note) : Platform Spans :=
  { platform with notes := platform.notes ++ [entry] }

/-- A platform whose clock has moved on. -/
def elapse (platform : Platform Spans) (duration : Float) : Platform Spans :=
  { platform with clock := platform.clock + duration }

/-- When an interface was last called. -/
def lastCall (platform : Platform Spans) : Api → Float
  | .kubernetes => platform.lastKubernetes
  | .lattice => platform.lastLattice

/-- A platform that remembers a call to an interface. -/
def noteCall
    (platform : Platform Spans)
    (api : Api)
    (time : Float) :
    Platform Spans :=
  match api with
  | .kubernetes => { platform with lastKubernetes := time }
  | .lattice => { platform with lastLattice := time }

/-- The length of a pause in seconds. -/
def pauseLength : Pause Float → Float
  | .seconds count => Float.ofNat count
  | .span length => length

/-- A pause noted, and waited for unless the clock stands still. -/
def pause (platform : Platform Spans) (length : Pause Float) : Platform Spans :=
  let noted := platform.note (.paused length)
  if platform.frozen then noted else noted.elapse (pauseLength length)

/-- The listing of the resources of a kind, page by page. -/
def pagesOf (platform : Platform Spans) : ResourceKind → Members
  | .serviceNetwork => platform.networkPages
  | .service => platform.servicePages

/-- The place at which a line is written: the correlation and the innermost span. -/
def context [SpanLibrary Spans] (platform : Platform Spans) : AmbientContext where
  correlation := platform.correlations.head?.getD .null
  span := match platform.tracer with
    | .recording => SpanLibrary.current? platform.spans
    | _ => none

/--
More pages than a listing has that ends: it meets each page, or else a scripted
answer, once.
-/
def pageBound (platform : Platform Spans) : Nat :=
  let scripted :=
    platform.faults.foldl (fun total entry => total + entry.2.length) 0
  platform.networkPages.length + platform.servicePages.length + scripted + 2

/-- The next planned fault of a method, which is then used up. -/
def takeFault
    (platform : Platform Spans)
    (method : Method) :
    Option Fault × Platform Spans :=
  match platform.faults.lookup method with
  | some (next :: rest) =>
      (next, { platform with
        faults := (method, rest) :: platform.faults.filter (·.1 != method) })
  | _ => (none, platform)

end Platform

end PolicyReconciler

import PolicyReconciler.Proofs.Reconcile.Stages
import PolicyReconciler.Proofs.Tracing.SpanBlind

namespace PolicyReconciler

/-!
# Runs with and without tracing

A sequence of reconciles does the same whether its spans are recorded, are opened by
a tracer that records nothing, or are not opened at all.  Only the lines about
resources tell the recorded span around them.
-/

open Program Reconcile

/-- A reconcile that is asked for. -/
structure ReconcileRequest where
  operator : Operator Float
  correlation : Json
  record : Json
  address : Address

/-- The program that answers a request. -/
def ReconcileRequest.program (request : ReconcileRequest) : Program Float Unit :=
  runReconcile request.operator request.correlation request.record request.address

/-- What the in-memory platform notes of an effect, other than the end of a span. -/
def Effect.note? : Effect Float → Option Note
  | .call request => some (.called request)
  | .pause length => some (.paused length)
  | .count counter => some (.counted counter)
  | .observe histogram duration => some (.timed histogram duration)
  | .log record =>
      if Platform.leastLevel ≤ record.level.value then
        some (.logged record)
      else
        none
  | .emit event => some (.emitted event)
  | _ => none

/-- Is this note about a span that ended? -/
def Note.isSpan : Note → Bool
  | .ended _ => true
  | _ => false

namespace Platform

variable {Spans : Type}

/-! ## The in-memory services -/

/-- A platform with other spans and notes, under another tracer. -/
def traced (platform : Platform Spans) (tracer : TracerMode) (spans : Spans)
    (notes : List Note) : Platform Spans :=
  { platform with tracer := tracer, spans := spans, notes := notes }

variable {tracer : TracerMode}
variable {spans : Spans}
variable {notes : List Note}

/-- The planned faults do not depend on the tracer. -/
theorem takeFault_traced (platform : Platform Spans) (method : Method) :
    (platform.traced tracer spans notes).takeFault method =
      ((platform.takeFault method).1,
        (platform.takeFault method).2.traced tracer spans notes) := by
  simp only [takeFault, traced]
  split <;> rfl

/-- What a call is served does not depend on the tracer. -/
theorem serve_traced (platform : Platform Spans) (call : Call) :
    (platform.traced tracer spans notes).serve call =
      ((platform.serve call).1,
        (platform.serve call).2.traced tracer spans notes) := by
  cases call with
  | readRecord address timeout =>
      simp only [serve, readRecord, traced]
      split <;> rfl
  | listPage kind token =>
      cases kind <;> simp only [serve, readPage, traced, pagesOf] <;> split <;> rfl
  | putAuthPolicy identifier document =>
      simp only [serve, putAuthPolicy, traced]
      split <;> rfl
  | deleteAuthPolicy identifier =>
      simp only [serve, deleteAuthPolicy, traced]
      cases identifier.key with
      | error fault =>
          rfl
      | ok key =>
          by_cases attached : Table.has platform.policies key <;>
            simp only [attached] <;> rfl
  | _ =>
      rfl

/--
The in-memory services note a call, and pay no attention to tracing or to earlier
notes.
-/
theorem answer_traced (platform : Platform Spans) (call : Call) :
    answer call (platform.traced tracer spans notes) =
      ((answer call platform).1,
        (answer call platform).2.traced tracer spans
          (notes ++ [.called call])) := by
  have noted : ∀ latency,
      ((platform.traced tracer spans notes).note (.called call)).elapse latency =
        ((platform.note (.called call)).elapse latency).traced tracer spans
          (notes ++ [.called call]) :=
    fun _ => rfl
  have latencies :
      (platform.traced tracer spans notes).latencies = platform.latencies := rfl
  simp only [answer, latencies]
  cases ((platform.latencies.lookup call.method).getD (.int 0)).real with
  | error fault =>
      rfl
  | ok latency =>
      simp only [noted, takeFault_traced]
      cases ((platform.note (.called call)).elapse latency).takeFault call.method
        with
      | mk fault next =>
          cases fault with
          | none =>
              exact serve_traced next call
          | some fault =>
              rfl

/-- Answering a call notes it and leaves tracer and spans. -/
theorem answer_leaves (call : Call) (platform : Platform Spans) :
    (answer call platform).2 =
      (answer call platform).2.traced platform.tracer platform.spans
        (platform.notes ++ [.called call]) := by
  have told :
      answer call (platform.traced platform.tracer platform.spans platform.notes) =
      _ :=
    answer_traced platform call
  exact congrArg Prod.snd told

variable [SpanLibrary Spans]

/-- The simulated cluster and service do not look at the tracer. -/
theorem answer_blind : Backend.Blind (answer : Backend Spans) where
  keepsTracer call platform := by
    rw [answer_leaves]
    rfl
  answers call first second same := by
    obtain ⟨tracer, spans, notes, isFirst⟩ := exists_of_untraced_eq same
    rw [show first = second.traced tracer spans notes from isFirst, answer_traced]
  leaves call first second same := by
    obtain ⟨tracer, spans, notes, isFirst⟩ := exists_of_untraced_eq same
    rw [show first = second.traced tracer spans notes from isFirst, answer_traced]
    rfl

/-! ## Sequences of reconciles -/

/--
What came of a sequence of reconciles: how each ended, all deeds, the platform
afterwards.
-/
structure Sequel (Spans : Type) where
  outcomes : List (Except Fault Unit)
  deeds : List Deed
  platform : Platform Spans

/--
Perform reconciles one after the other, whether or not the earlier ones failed.
-/
def reconcileAll (backend : Backend Spans) :
    List ReconcileRequest → Platform Spans → Sequel Spans
  | [], platform => ⟨[], [], platform⟩
  | request :: rest, platform =>
      let (outcome, next) := runWith backend request.program platform
      let later := reconcileAll backend rest next
      { later with
        outcomes := outcome :: later.outcomes
        deeds := trail backend request.program platform ++ later.deeds }

/-- Sequels that differ in the spans that lines tell and in nothing else. -/
structure Sequel.Retold (first second : Sequel Spans) : Prop where
  outcomes : first.outcomes = second.outcomes
  deeds : List.Forall₂ Deed.Retold first.deeds second.deeds
  platform : first.platform.untraced = second.platform.untraced

variable {backend : Backend Spans}
variable {first second : Platform Spans}

/-- Several deliveries are retold without spans. -/
theorem Shaded.reconcileAll_retold
    (blind : backend.Blind)
    (requests : List ReconcileRequest)
    (shaded : Shaded first second) :
    (reconcileAll backend requests first).Retold
      (reconcileAll backend requests second) := by
  induction requests generalizing first second with
  | nil =>
      exact ⟨rfl, .nil, shaded.same⟩
  | cons request rest inductionHypothesis =>
      have oblivious : request.program.SpanBlind :=
        .ofComposed (Composed.runReconcile_ofTurns request.operator
          request.correlation
          request.record request.address).ofBareCalls
      obtain ⟨ended, onward, trails⟩ := oblivious.run_shaded blind shaded
      obtain ⟨outcomes, deeds, platform⟩ := inductionHypothesis onward
      refine ⟨?_, List.rel_append trails deeds, platform⟩
      simp only [reconcileAll, ended, outcomes]

/--
The notes of an effect are added to the notes of a platform, the ends of spans
aside.
-/
theorem notes_handleWith (effect : Effect Float) (platform : Platform Spans) :
    (handleWith answer effect platform).2.notes.filter (!·.isSpan) =
      platform.notes.filter (!·.isSpan) ++ effect.note?.toList := by
  cases effect with
  | call request =>
      have answered : (handleWith answer (.call request) platform).2 =
          (answer request platform).2 := rfl
      rw [answered, answer_leaves]
      exact List.filter_append ..
  | pause length =>
      simp only [handleWith, pause]
      split <;> exact List.filter_append ..
  | noteCall api time =>
      cases api <;> exact (List.append_nil _).symm
  | log record =>
      simp only [handleWith, keepLine, Effect.note?]
      split
      · exact List.filter_append ..
      · exact (List.append_nil _).symm
  | count | observe | emit =>
      exact List.filter_append ..
  | openSpan name attributes =>
      simp only [handleWith, openSpan]
      split <;> exact (List.append_nil _).symm
  | annotateSpan key value =>
      simp only [handleWith, annotateSpan]
      split <;> exact (List.append_nil _).symm
  | closeSpan fault =>
      simp only [handleWith, closeSpan]
      split
      · split
        · exact List.filter_append ..
        · exact (List.append_nil _).symm
      · exact (List.append_nil _).symm
  | _ =>
      exact (List.append_nil _).symm

/-- The notes of a run but for its spans are its trail. -/
theorem notes_runWith
    {Result : Type}
    (program : Program Float Result)
    (platform : Platform Spans) :
    (runWith answer program platform).2.notes.filter (!·.isSpan) =
      platform.notes.filter (!·.isSpan) ++
        (trail answer program platform).filterMap (·.effect.note?) := by
  induction program generalizing platform with
  | done outcome =>
      exact (List.append_nil _).symm
  | perform effect resume inductionHypothesis =>
      have later := inductionHypothesis (handleWith answer effect platform).1
        (handleWith answer effect platform).2
      rw [notes_handleWith, List.append_assoc] at later
      refine later.trans (congrArg _ ?_)
      cases noted : effect.note? <;> simp [trail, noted]

/--
The deeds of a sequence are what the in-memory platform notes, the ends of spans
aside.
-/
theorem notes_reconcileAll
    (requests : List ReconcileRequest)
    (platform : Platform Spans) :
    (reconcileAll answer requests platform).platform.notes.filter (!·.isSpan) =
      platform.notes.filter (!·.isSpan) ++
        (reconcileAll answer requests platform).deeds.filterMap
          (·.effect.note?) := by
  induction requests generalizing platform with
  | nil =>
      exact (List.append_nil _).symm
  | cons request rest inductionHypothesis =>
      have later := inductionHypothesis (runWith answer request.program platform).2
      rw [notes_runWith, List.append_assoc, ← List.filterMap_append] at later
      exact later

/-- Without recorded spans, there is nothing that could be told differently. -/
theorem Shaded.deeds_eq
    (blind : backend.Blind)
    (requests : List ReconcileRequest)
    (shaded : Shaded first second)
    (unrecorded : first.tracer ≠ .recording) :
    (reconcileAll backend requests first).deeds =
      (reconcileAll backend requests second).deeds := by
  have itself : Shaded first first := ⟨rfl, unrecorded⟩
  have alone := (itself.reconcileAll_retold blind requests).deeds
  have retold := (shaded.reconcileAll_retold blind requests).deeds
  generalize (reconcileAll backend requests first).deeds = deeds at alone retold ⊢
  generalize (reconcileAll backend requests second).deeds = others at retold ⊢
  induction retold with
  | nil =>
      rfl
  | cons told _ inductionHypothesis =>
      obtain ⟨itself, rest⟩ := List.forall₂_cons.mp alone
      rw [told.eq_of_withoutSpan itself.context_eq.symm, inductionHypothesis rest]

/--
Reconciles end in the same way and do the same things in the same order, the same
calls, pauses, events, counters, durations and lines among them, with a recording
tracer, with a tracer that records nothing and without one.  Lines about resources
that are written inside a recorded span additionally identify it.
-/
theorem tracing_transparent
    (blind : backend.Blind)
    (requests : List ReconcileRequest)
    (platform : Platform Spans) :
    (reconcileAll backend requests (platform.under .recording)).Retold
        (reconcileAll backend requests (platform.under .silent)) ∧
      (reconcileAll backend requests (platform.under .recording)).Retold
        (reconcileAll backend requests (platform.under .absent)) ∧
      (reconcileAll backend requests (platform.under .silent)).outcomes =
        (reconcileAll backend requests (platform.under .absent)).outcomes ∧
      (reconcileAll backend requests (platform.under .silent)).deeds =
        (reconcileAll backend requests (platform.under .absent)).deeds := by
  have shaded : ∀ mode other, other ≠ TracerMode.recording →
      Shaded (platform.under mode) (platform.under other) :=
    fun _ _ unrecorded => ⟨rfl, unrecorded⟩
  refine ⟨?_, ?_, ?_, ?_⟩
  · exact (shaded .recording .silent (by decide)).reconcileAll_retold blind requests
  · exact (shaded .recording .absent (by decide)).reconcileAll_retold blind requests
  · exact ((shaded .silent .absent (by decide)).reconcileAll_retold blind
      requests).outcomes
  · exact (shaded .silent .absent (by decide)).deeds_eq blind requests
      TracerMode.noConfusion

/--
A platform with a policy of a gateway; the first attempt to attach it is refused.
-/
def refusingPlatform : Platform SpanStack :=
  { Platform.empty .absent 1000 with
    records := [(gatewayAddress.text, .obj (gatewayRecord "1" []))]
    networkPages :=
      [("", .obj [("items", .arr
        [.obj [("name", .str "front"), ("id", gatewayNetwork)]])])]
    faults := [(.operation .putAuthPolicy, [some notFound])] }

/-- The delivery of the gateway's record. -/
def gatewayRequest : ReconcileRequest where
  operator := ⟨⟨8, 4⟩, .int 30, 8, .listed⟩
  correlation := .str "c"
  record := .obj (gatewayRecord "1" [])
  address := gatewayAddress

/-- The reconcile of the policy and its repetition. -/
def gatewayRequests : List ReconcileRequest :=
  [gatewayRequest, gatewayRequest]

theorem tracing_transparent_refused :
    Backend.Blind (answer : Backend SpanStack) ∧
      (reconcileAll answer gatewayRequests
        (refusingPlatform.under .recording)).Retold
        (reconcileAll answer gatewayRequests (refusingPlatform.under .silent)) ∧
      (reconcileAll answer gatewayRequests
        (refusingPlatform.under .recording)).Retold
        (reconcileAll answer gatewayRequests (refusingPlatform.under .absent)) ∧
      (reconcileAll answer gatewayRequests
        (refusingPlatform.under .silent)).outcomes =
        (reconcileAll answer gatewayRequests
          (refusingPlatform.under .absent)).outcomes ∧
      (reconcileAll answer gatewayRequests (refusingPlatform.under .silent)).deeds =
        (reconcileAll answer gatewayRequests
          (refusingPlatform.under .absent)).deeds :=
  ⟨answer_blind, tracing_transparent answer_blind gatewayRequests refusingPlatform⟩

end Platform

end PolicyReconciler

import PolicyReconciler.Json.Use
import PolicyReconciler.Platform.Basic

namespace PolicyReconciler.Platform

/-!
# The services of the in-memory platform

A call is noted, takes its time, and meets the next scripted fault of its
method.  If there is none it does its work on the platform.
-/

variable {Spans : Type}

/-- The cluster's answer about a record that it does not store. -/
def notFound : Fault :=
  .api ⟨.int 404, .str "Not Found", .null, .null⟩

/-- The cluster's answer to a read. -/
def readRecord
    (platform : Platform Spans)
    (address : Address) :
    Except Fault Json × Platform Spans :=
  match platform.records.find? address.text with
  | some record => (.ok record, platform)
  | none => (.error notFound, platform)

/-- Replace a record, or create it. -/
def replaceRecord (platform : Platform Spans) (address : Address) (record : Json) :
    Except Fault Json × Platform Spans :=
  (.ok record,
    { platform with records := platform.records.set address.text record })

/-- Read a page of a listing; a page that does not exist is empty. -/
def readPage
    (platform : Platform Spans)
    (kind : ResourceKind)
    (token : Option Json) :
    Except Fault Json × Platform Spans :=
  match token with
  | none => (.ok ((platform.pagesOf kind).getD "" (.obj [])), platform)
  | some (.str text) =>
      (.ok ((platform.pagesOf kind).getD text (.obj [])), platform)
  | some other => (other.key.map fun _ => .obj [], platform)

/-- The service's answer to a change of the authentication type. -/
def setAuthType (platform : Platform Spans) (identifier authType : Json) :
    Except Fault Json × Platform Spans :=
  (.ok (.obj []),
    { platform with authTypes := Table.set platform.authTypes identifier authType })

/-- The service's answer to a new policy for a resource. -/
def putAuthPolicy (platform : Platform Spans) (identifier document : Json) :
    Except Fault Json × Platform Spans :=
  match identifier.key with
  | .error fault => (.error fault, platform)
  | .ok key =>
      (.ok (.obj [("policy", document), ("state", .str "Active")]),
        { platform with policies := Table.set platform.policies key document })

/-- The error answer for a resource that no policy is attached to. -/
def noPolicyOn (identifier : Json) : Fault :=
  .service
    ⟨.str "ResourceNotFoundException", .str ("no policy on " ++ identifier.display),
      .str "DeleteAuthPolicy", none⟩

/--
The service's answer to the removal of a policy. Without a policy it is a fault.
-/
def deleteAuthPolicy
    (platform : Platform Spans)
    (identifier : Json) :
    Except Fault Json × Platform Spans :=
  match identifier.key with
  | .error fault => (.error fault, platform)
  | .ok key =>
      if Table.has platform.policies key then
        (.ok (.obj []),
          { platform with policies := Table.erase platform.policies key })
      else
        (.error (noPolicyOn identifier), platform)

/-- What a call does and answers when it is not made to fail. -/
def serve (platform : Platform Spans) : Call → Except Fault Json × Platform Spans
  | .readRecord address _ => platform.readRecord address
  | .replaceRecord address record _ => platform.replaceRecord address record
  | .listPage kind token => platform.readPage kind token
  | .setAuthType _ identifier authType => platform.setAuthType identifier authType
  | .putAuthPolicy identifier document => platform.putAuthPolicy identifier document
  | .deleteAuthPolicy identifier => platform.deleteAuthPolicy identifier
  | .loadClusterConfiguration => (.ok .null, platform)
  | .loadUserConfiguration => (.ok .null, platform)

/--
A call's whole effect: it takes its time, then meets the next planned fault or is
served.
-/
def answer
    (call : Call)
    (platform : Platform Spans) :
    Except Fault Json × Platform Spans :=
  let method := call.method
  let noted := platform.note (.called call)
  match ((platform.latencies.lookup method).getD (.int 0)).real with
  | .error fault => (.error fault, noted)
  | .ok latency =>
      match (noted.elapse latency).takeFault method with
      | (some fault, next) => (.error fault, next)
      | (none, next) => next.serve call

/-- What answers the calls of a program. -/
abbrev Backend
    (Spans : Type) :=
  Call → Platform Spans → Except Fault Json × Platform Spans

variable [SpanLibrary Spans]

/-- A span opened, where a tracer records. -/
def openSpan
    (platform : Platform Spans)
    (name : Json)
    (attributes : Members) :
    Platform Spans :=
  match platform.tracer with
  | .recording =>
      { platform with spans := SpanLibrary.push platform.spans name attributes }
  | _ => platform

/-- An attribute of the innermost span, where a tracer records. -/
def annotateSpan
    (platform : Platform Spans)
    (key : String)
    (value : Json) :
    Platform Spans :=
  match platform.tracer with
  | .recording =>
      { platform with spans := SpanLibrary.annotate platform.spans key value }
  | _ => platform

/-- The innermost span closed and handed out, where a tracer records. -/
def closeSpan (platform : Platform Spans) (fault : Option Fault) : Platform Spans :=
  match platform.tracer with
  | .recording =>
      match SpanLibrary.pop platform.spans fault with
      | (some span, spans) => { platform with spans := spans }.note (.ended span)
      | (none, spans) => { platform with spans := spans }
  | _ => platform

/-- The lowest level at which a line is kept. -/
def leastLevel : Int := 1

/-- A line kept, if its level is high enough. -/
def keepLine (platform : Platform Spans) (record : LogRecord) : Platform Spans :=
  if leastLevel ≤ record.level.value then
    platform.note (.logged record)
  else
    platform

/-- Answer an effect, where calls are answered in a given way. -/
def handleWith
    (backend : Backend Spans)
    (effect : Effect Float)
    (platform : Platform Spans) :
    effect.Reply × Platform Spans :=
  match effect with
  | .call call => backend call platform
  | .readClock => (platform.clock, platform)
  | .pause length => ((), platform.pause length)
  | .lastCall api => (platform.lastCall api, platform)
  | .noteCall api time => ((), platform.noteCall api time)
  | .count counter => ((), platform.note (.counted counter))
  | .observe histogram duration => ((), platform.note (.timed histogram duration))
  | .log record => ((), platform.keepLine record)
  | .emit event => ((), platform.note (.emitted event))
  | .readContext => (platform.context, platform)
  | .enterCorrelation correlation =>
      ((), { platform with correlations := correlation :: platform.correlations })
  | .leaveCorrelation =>
      ((), { platform with correlations := platform.correlations.tail })
  | .openSpan name attributes => ((), platform.openSpan name attributes)
  | .annotateSpan key value => ((), platform.annotateSpan key value)
  | .closeSpan fault => ((), platform.closeSpan fault)

/-- The run of a program against a backend. -/
def runWith
    {Result : Type}
    (backend : Backend Spans)
    (program : Program Float Result)
    (platform : Platform Spans) : Except Fault Result × Platform Spans :=
  program.run (handleWith backend) platform

/-- The run of a program against the simulated cluster and service. -/
def run
    {Result : Type}
    (program : Program Float Result)
    (platform : Platform Spans) :
    Except Fault Result × Platform Spans :=
  runWith answer program platform

end PolicyReconciler.Platform

import PolicyReconciler.Program.Basic
import PolicyReconciler.Redaction.Members

namespace PolicyReconciler

/-!
# Log lines about resources

A line about a resource is one JSON object.  It holds eight fixed fields, the
correlation id and the span that surround the code, and extra fields, of which
the last to define a key wins.
-/

/-- The fields of a line about a resource. -/
structure LogEntry where
  controller : Json
  resourceKind : Json
  resourceName : Json
  resourceNamespace : Json
  uid : Json
  event : Json
  reason : Json
  message : Json
  /-- The level of the line, where it is given apart from the extra fields. -/
  level : Option Json
  extra : Members
  deriving Repr

namespace LogEntry

open Program

variable {Time : Type}

/-- The names under which the fields of a line are given. -/
def fieldNames : List String :=
  ["controller", "resource_kind", "resource_name", "namespace", "uid",
    "event", "reason", "message"]

/--
The names that no extra field may have: those of the fields and that of the log.
-/
def reservedNames : List String :=
  "logger" :: fieldNames

/-- Whether an extra field has a reserved name, or sets the level once more. -/
def clashes (entry : LogEntry) : Bool :=
  entry.extra.any fun field =>
    reservedNames.contains field.1 || (field.1 == "level" && entry.level.isSome)

/-- The fault of a line whose extra fields clash: it names the first that does. -/
def clash (entry : LogEntry) : Fault :=
  let given := (entry.extra.map Prod.fst).find? fun key =>
    fieldNames.contains key || (key == "level" && entry.level.isSome)
  match given with
  | some key =>
      .repeatedKeyword "lattice_auth_operator.logging.log_resource_event()" key
  | none => .repeated "log_resource_event()" "logger"

/-- The eight fields of every line, in their order. -/
def fixedFields (entry : LogEntry) : Members :=
  [("controller", entry.controller), ("resource", entry.resourceKind),
    ("name", entry.resourceName), ("namespace", entry.resourceNamespace),
      ("uid", entry.uid),
    ("event", entry.event), ("reason", entry.reason), ("message", entry.message)]

/-- The extra fields that are written; a level given among them is not. -/
def writtenExtra (entry : LogEntry) : Members :=
  entry.extra.filter (·.1 != "level")

/--
The members of a line: its own fields, then those of the place it is written at,
then the extra ones. A later member overrides an earlier one of its name.
-/
def fields (entry : LogEntry) (context : AmbientContext) : Members :=
  let described := Members.update entry.fixedFields (context.describe [])
  let located := Members.update described (context.spanMembers?.getD [])
  Members.update located entry.writtenExtra

/-- The line as it is written, a JSON document. -/
def text (entry : LogEntry) (context : AmbientContext) : String :=
  (Json.obj (entry.fields context)).document

/-- The level asked for, by the argument or else by an extra field. -/
def givenLevel (entry : LogEntry) : Json :=
  match entry.level with
  | some level => level
  | none => Members.getD entry.extra "level" LogLevel.info.json

/-- Log a line about a resource; a line whose level is none is left out. -/
def write (entry : LogEntry) (source : LogSource) : Program Time Unit :=
  if entry.clashes then
    fail entry.clash
  else do
    let context ← readContext
    match LogLevel.ofJson? entry.givenLevel with
    | some level => log level source (entry.text context)
    | none => finish ()

end LogEntry

/-- What a handler of a kind of resources logs about one of them. -/
structure HandlerNote where
  metadata : Json
  message : Json
  /-- The event and the reason, where they are given apart from the extra fields. -/
  event : Option Json
  reason : Option Json
  extra : Members
  deriving Repr

namespace HandlerNote

open Program

variable {Time : Type}

/-- The controller that every line names. -/
def controllerName : Json := .str "lattice-auth-operator"

/-- The name, the namespace and the uid in the metadata of a record. -/
def resourceContext : Json → Except Fault Members
  | .obj metadata =>
      .ok
        [("name", Members.getD metadata "name" (.str "unknown")),
          ("namespace", Members.getD metadata "namespace" (.str "default")),
          ("uid", Members.getD metadata "uid" (.str "unknown"))]
  | other => .error (.lacking other "get")

def reservedNames : List String :=
  ["self", "meta", "message", "level"]

/--
Whether an extra field has a reserved name, or repeats the event or the reason.
-/
def clashes (note : HandlerNote) : Bool :=
  note.extra.any fun field =>
    reservedNames.contains field.1 || (field.1 == "event" && note.event.isSome) ||
      (field.1 == "reason" && note.reason.isSome)

/--
The fault of a note that is given to a caller with a field that it has already.
-/
def clash (note : HandlerNote) (caller : String) (keywords : List String) : Fault :=
  let keys := note.extra.map Prod.fst
  match keys.find? keywords.contains,
    keys.find? ["self", "meta", "message"].contains with
  | some key, _ =>
      .repeatedKeyword ("lattice_auth_operator.handlers.base." ++ caller) key
  | none, some key => .repeated caller key
  | none, none => .repeated "BaseHandler._log()" "level"

/-- The names by which the event and the reason of a note are given apart. -/
def keywords (note : HandlerNote) : List String :=
  (note.event.map fun _ => "event").toList ++
    (note.reason.map fun _ => "reason").toList

/--
The event or reason of a note: given apart, among the extra fields, or by default.
-/
def named
    (note : HandlerNote)
    (given : Option Json)
    (key default : String) :
    Json :=
  match given with
  | some value => value
  | none => Members.getD note.extra key (.str default)

/-- The extra fields besides the event and the reason. -/
def otherFields (note : HandlerNote) : Members :=
  note.extra.filter fun field => field.1 != "event" && field.1 != "reason"

/-- Log a note with some fields about a resource of a kind. -/
def writeWith (note : HandlerNote) (kind : Json) (level : LogLevel)
    (defaultEvent defaultReason : String) (fields : Members) : Program Time Unit :=
  match resourceContext note.metadata with
  | .error fault => fail fault
  | .ok context =>
      LogEntry.write
        { controller := controllerName
          resourceKind := kind
          resourceName := context.getD "name" .null
          resourceNamespace := context.getD "namespace" .null
          uid := context.getD "uid" .null
          event := note.named note.event "event" defaultEvent
          reason := note.named note.reason "reason" defaultReason
          message := note.message
          level := some level.json
          extra := fields }
        .handler

/-- A line at the information level, unless an extra field repeats a parameter. -/
def inform (note : HandlerNote) (kind : Json) : Program Time Unit :=
  if note.clashes then
    fail (note.clash "BaseHandler.log_info()" note.keywords)
  else
    note.writeWith kind .info "info" "Info" note.otherFields

/-- The fields of a note about an error: the redacted extra fields and the fault. -/
def errorFields
    (note : HandlerNote)
    (order : Redaction.FieldOrder)
    (fault : Option Fault) :
    Members :=
  let redacted := Redaction.redactMembers order [] note.otherFields
  match fault with
  | none => redacted
  | some fault =>
      (Members.set redacted "error" (.str (fault.redactedMessage order))).set
        "error_type"
        (.str fault.kind)

/--
A line at the error level with the fields of the fault, under the same condition.
-/
def report (note : HandlerNote) (order : Redaction.FieldOrder) (kind : Json)
    (fault : Option Fault) : Program Time Unit :=
  if note.clashes || Members.has note.extra "error" then
    fail (note.clash "BaseHandler.log_error()" ("error" :: note.keywords))
  else
    note.writeWith kind .error "error" "Error" (note.errorFields order fault)

end HandlerNote

end PolicyReconciler

import PolicyReconciler.Json.Use
import PolicyReconciler.Policy.Target

namespace PolicyReconciler

/-!
# Declared policies

A declared policy is a view of a stored record.  Its finalizers, annotations
and version may be changed; everything else shows the record as it was read.
Folding the view back into its record keeps whatever the view does not know.
-/

/-- A declared policy together with the record that it was read from. -/
structure Policy where
  name : Json
  recordNamespace : Json
  target : TargetRef
  /-- The policy text, or the written form of a structured policy. -/
  document : String
  deletionRequested : Bool
  finalizers : List Json
  annotations : Members
  uid : Json
  /-- The version of the record, null if it has none. -/
  version : Json
  record : Members
  deriving Repr

namespace Policy

/-- A member that has to be an object; an absent one is empty. -/
def section? (record : Members) (key : String) : Except Fault Members :=
  match record.getD key (.obj []) with
  | .obj members => .ok members
  | other => .error (.lacking other "get")

/-- The text of a policy: a string as it is, any other value in its written form. -/
def documentOf : Json → String
  | .str text => text
  | value => value.document

/--
The policy that a record's members describe. A section of the wrong shape is a
fault.
-/
def ofMembers (record : Members) : Except Fault Policy := do
  let spec ← section? record "spec"
  let metadata ← section? record "metadata"
  let target ← TargetRef.ofJson (spec.getD "targetRef" (.obj []))
  let finalizers ← (metadata.getD "finalizers" .null).optionalEntries
  let annotations ← (metadata.getD "annotations" .null).optionalMembers
  return {
    name := metadata.getD "name" (.str "")
    recordNamespace := metadata.getD "namespace" (.str "default")
    target := target
    document := documentOf (spec.getD "policy" (.str ""))
    deletionRequested := (metadata.getD "deletionTimestamp" .null).truthy
    finalizers := finalizers
    annotations := annotations
    uid := metadata.getD "uid" (.str "unknown")
    version := metadata.getD "resourceVersion" .null
    record := record
  }

/-- The policy that a record describes. What is no object has no members to read. -/
def ofRecord : Json → Except Fault Policy
  | .obj record => ofMembers record
  | other => .error (.lacking other "get")

/-- The members that name a policy in a log line. -/
def identity (policy : Policy) : Members :=
  [("name", policy.name), ("namespace", policy.recordNamespace),
    ("uid", policy.uid)]

/--
The metadata of a record with the finalizers, annotations and version of its policy.
-/
def currentMetadata (policy : Policy) (metadata : Members) : Members :=
  let listed := metadata.set "finalizers" (.arr policy.finalizers)
  let annotated := listed.set "annotations" (.obj policy.annotations)
  match policy.version with
  | .null => annotated
  | version => annotated.set "resourceVersion" version

/-- The members of a record's metadata, empty if it has none. -/
def metadataOf (record : Members) : Members :=
  match record.find? "metadata" with
  | some (.obj metadata) => metadata
  | _ => []

/-- The record of a policy with its current finalizers, annotations and version. -/
def toRecord (policy : Policy) : Json :=
  .obj (policy.record.set "metadata"
    (.obj (policy.currentMetadata (metadataOf policy.record))))

/-- A policy with one annotation set. -/
def annotate (policy : Policy) (key : String) (value : Json) : Policy :=
  { policy with annotations := policy.annotations.set key value }

end Policy

end PolicyReconciler

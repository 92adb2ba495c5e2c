import Mathlib.Logic.Function.Basic
import PolicyReconciler.Proofs.Reconcile.Calls

namespace PolicyReconciler

/-!
# Clusters

In a cluster any number of reconciles are underway at once.  Their effects
interleave in any order, with each other and with the writes of others, and each
of their calls may fail.  Every write of a record gives it a version that it never
had before, and a replacement takes effect only where it carries the version that
is stored.  A replacement that takes effect may still be answered by a failure.

What the Lattice service does is left open: it is any relation between a state of
the service, a call, its answer and the next state.
-/

open Program Policy Reconcile

/-- A reconcile that has begun: what it has exchanged, and what is left of it. -/
structure Ongoing (Time : Type) where
  address : Address
  history : History
  rest : Program Time (ReconcileResult Nat)

/-- A run that has gone through some more exchanges. -/
def Ongoing.advance {Time : Type}
    (run : Ongoing Time)
    (exchanges : History)
    (rest : Program Time (ReconcileResult Nat)) : Ongoing Time where
  address := run.address
  history := run.history ++ exchanges
  rest := rest

/-- The stored records, the Lattice service and the reconciles of a cluster. -/
structure Cluster (Time Cloud : Type) where
  records : Address → Option Members
  /-- Every record that was ever stored at an address, the last one first. -/
  past : Address → List Members
  cloud : Cloud
  runs : List (Ongoing Time)

/-- How the service may answer a call, and what becomes of it then. -/
abbrev Service (Cloud : Type) := Cloud → Call → Except Fault Json → Cloud → Prop

/-- A replacement of a record that takes effect. -/
structure Replacement where
  address : Address
  body : Members
  timeout : Json
  answer : Except Fault Json
  old : Members
  version : Json

/-- The exchange by which a replacement was made. -/
def Replacement.exchange (replacement : Replacement) : Exchange where
  call :=
    .replaceRecord replacement.address (.obj replacement.body) replacement.timeout
  answer := replacement.answer

/-- The record that a replacement left in the cluster. -/
def Replacement.new (replacement : Replacement) : Members :=
  restamp replacement.body replacement.version

namespace Cluster

variable {Time Cloud : Type}

/--
What may happen in a cluster; a reconcile is named by its place in the list of runs.
-/
inductive Move where
  | began (address : Address)
  /-- A reconcile does something that is no call. -/
  | passed (index : Nat)
  /-- A reconcile makes a call that changes no record. -/
  | exchanged (index : Nat) (exchange : Exchange)
  | replaced (index : Nat) (replacement : Replacement)
  /-- Somebody else stores a record. -/
  | stored (address : Address) (record : Members)
  /-- Somebody else removes a record. -/
  | removed (address : Address)

section Changes

variable (cluster : Cluster Time Cloud)

open scoped Classical in
/-- A cluster in which a record was stored. -/
noncomputable def store
    (address : Address)
    (record : Members) :
    Cluster Time Cloud :=
  { cluster with
    records := Function.update cluster.records address (some record)
    past := Function.update cluster.past address (record :: cluster.past address) }

open scoped Classical in
/-- A cluster from which a record was removed. -/
noncomputable def remove (address : Address) : Cluster Time Cloud :=
  { cluster with records := Function.update cluster.records address none }

/-- A cluster in which one run has moved on. -/
def resume (index : Nat) (run : Ongoing Time) : Cluster Time Cloud :=
  { cluster with runs := cluster.runs.set index run }

/-- Whether no record at an address ever had a version. -/
def Fresh (address : Address) (version : Json) : Prop :=
  ∀ record ∈ cluster.past address, versionOf record ≠ version

end Changes

/--
The answers to a call that changes no record, with the state of the service after
it.  A record is read as it is stored, or the read fails.
-/
def Answers (serves : Service Cloud) (cluster : Cluster Time Cloud) :
    Call → Except Fault Json → Cloud → Prop
  | .readRecord address _, answer, cloud =>
      cloud = cluster.cloud ∧
        ∀ body, answer = .ok body →
          (cluster.records address).map Json.obj = some body
  | .replaceRecord .., answer, cloud =>
      cloud = cluster.cloud ∧ ∃ fault, answer = .error fault
  | call, answer, cloud => serves cluster.cloud call answer cloud

variable [TimeScale Time]

/-- One move in a cluster. -/
inductive Step (operator : Operator Time) (serves : Service Cloud) :
    Cluster Time Cloud → Move → Cluster Time Cloud → Prop where
  | began {cluster : Cluster Time Cloud} (address : Address) :
      Step operator serves cluster (.began address)
        { cluster with
          runs := cluster.runs ++ [⟨address, [], reconcile operator address⟩] }
  | passed {cluster : Cluster Time Cloud} {index : Nat} {run : Ongoing Time}
      {effect : Effect Time}
      {next : effect.Reply → Program Time (ReconcileResult Nat)}
      (ongoing : cluster.runs[index]? = some run)
      (performs : run.rest = .perform effect next)
      (silent : effect.Silent)
      (reply : effect.Reply) :
      Step operator serves cluster (.passed index)
        (cluster.resume index (run.advance [] (next reply)))
  | exchanged {cluster : Cluster Time Cloud} {index : Nat} {run : Ongoing Time}
      {request : Call} {answer : Except Fault Json} {cloud : Cloud}
      {next : Except Fault Json → Program Time (ReconcileResult Nat)}
      (ongoing : cluster.runs[index]? = some run)
      (performs : run.rest = .perform (.call request) next)
      (answered : cluster.Answers serves request answer cloud) :
      Step operator serves cluster (.exchanged index ⟨request, answer⟩)
        ({ cluster with cloud := cloud }.resume index
          (run.advance [⟨request, answer⟩] (next answer)))
  | replaced {cluster : Cluster Time Cloud} {index : Nat} {run : Ongoing Time}
      {replacement : Replacement}
      {next : Except Fault Json → Program Time (ReconcileResult Nat)}
      (ongoing : cluster.runs[index]? = some run)
      (performs : run.rest = .perform (.call replacement.exchange.call) next)
      (stored : cluster.records replacement.address = some replacement.old)
      (current : versionOf replacement.body = versionOf replacement.old)
      (fresh : cluster.Fresh replacement.address replacement.version) :
      Step operator serves cluster (.replaced index replacement)
        ((cluster.store replacement.address replacement.new).resume index
          (run.advance [replacement.exchange] (next replacement.answer)))
  | stored {cluster : Cluster Time Cloud} {address : Address} {record : Members}
      (own : addressOf record = address)
      (fresh : cluster.Fresh address (versionOf record)) :
      Step operator serves cluster (.stored address record)
        (cluster.store address record)
  | removed {cluster : Cluster Time Cloud} (address : Address) :
      Step operator serves cluster (.removed address) (cluster.remove address)

/-- Whether a cluster is one in which nothing has happened yet. -/
structure Initial (cluster : Cluster Time Cloud) : Prop where
  idle : cluster.runs = []
  unchanged : ∀ address, cluster.past address = (cluster.records address).toList
  own : ∀ address record, cluster.records address = some record →
    addressOf record = address

/-- The clusters that moves lead to, each of them allowed where it was made. -/
inductive Reached (operator : Operator Time) (serves : Service Cloud)
    (allows : Cluster Time Cloud → Move → Prop) :
    List Move → Cluster Time Cloud → Prop where
  | initial {cluster : Cluster Time Cloud} (fresh : cluster.Initial) :
      Reached operator serves allows [] cluster
  | step {moves : List Move} {cluster next : Cluster Time Cloud} {move : Move}
      (before : Reached operator serves allows moves cluster)
      (allowed : allows cluster move)
      (step : Step operator serves cluster move next) :
      Reached operator serves allows (moves ++ [move]) next

/--
The clusters that moves lead to from a given one, each of them allowed where it was
made.
-/
inductive Continued (operator : Operator Time) (serves : Service Cloud)
    (allows : Cluster Time Cloud → Move → Prop) (start : Cluster Time Cloud) :
    List Move → Cluster Time Cloud → Prop where
  | refl :
      Continued operator serves allows start [] start
  | step {moves : List Move} {cluster next : Cluster Time Cloud} {move : Move}
      (before : Continued operator serves allows start moves cluster)
      (allowed : allows cluster move)
      (step : Step operator serves cluster move next) :
      Continued operator serves allows start (moves ++ [move]) next

end Cluster

end PolicyReconciler

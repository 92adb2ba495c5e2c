import PolicyReconciler.Program.Basic
import PolicyReconciler.Settings.Environment

namespace PolicyReconciler

/-!
# Connecting to the services

The Lattice service is reached through a client for one region.  The cluster is
reached with the configuration that it gives to programs running in it, and
with the user's where there is none.  An operator is connected once, on first
use; a failed attempt leaves nothing behind but the client it opened.
-/

/-- How the Lattice service is called. -/
structure ClientSettings where
  region : String
  /-- The address of the service, where it is not the usual one of the region. -/
  endpoint : Option String
  /-- The seconds after which connecting or reading is given up. -/
  timeout : Float
  maxAttempts : Int
  deriving Repr

namespace ClientSettings

/-- The region to connect to. The first of two variables that is filled decides. -/
def regionOf (environment : Environment) : Except Fault String :=
  match environment.findFilled? "AWS_REGION" with
  | some region => .ok region
  | none =>
      match environment.findFilled? "AWS_DEFAULT_REGION" with
      | some region => .ok region
      | none => .error (.badValue "AWS_REGION or AWS_DEFAULT_REGION is required")

/-- A number of attempts that the service's library accepts. -/
def checkAttempts (attempts : Int) : Except Fault Int :=
  if attempts < 0 then .error (.attemptLimit attempts) else .ok attempts

/-- The settings of the client that an environment describes. -/
def ofEnvironment (environment : Environment) : Except Fault ClientSettings := do
  let region ← regionOf environment
  let timeout ← environment.number "AWS_API_TIMEOUT_SECONDS" "30"
  let attempts ← environment.wholeNumber "AWS_MAX_ATTEMPTS" "3"
  let maxAttempts ← checkAttempts attempts
  return {
    region := region
    endpoint := environment.findFilled? "LATTICE_ENDPOINT_URL"
    timeout := timeout
    maxAttempts := maxAttempts
  }

end ClientSettings

open Program

variable {Time : Type}

/--
The connection to the cluster, from inside it or else as the user configured it.
-/
def connectCluster : Program Time Unit :=
  let fromCluster : Program Time Unit := do
    let _ ← call .loadClusterConfiguration
    finish ()
  fromCluster.recover fun fault =>
    match fault with
    | .configuration _ => do
        let _ ← call .loadUserConfiguration
        finish ()
    | _ => fail fault

/-- The connections that a process has made. -/
structure Connections where
  /-- Whether an operator is connected. -/
  ready : Bool
  /-- The clients that were opened, the latest first. -/
  clients : List ClientSettings

namespace Connections

/-- Before anything is connected. -/
def none : Connections := ⟨false, []⟩

/-- Use the connected operator, connecting it first if there is none. -/
def obtain (connections : Connections) (environment : Environment) :
    Program Time (Except Fault Unit × Connections) :=
  if connections.ready then
    finish (.ok (), connections)
  else
    match ClientSettings.ofEnvironment environment with
    | .error fault => finish (.error fault, connections)
    | .ok settings =>
        let clients := settings :: connections.clients
        connectCluster.followedBy fun
          | .ok _ => finish (.ok (), ⟨true, clients⟩)
          | .error fault => finish (.error fault, ⟨false, clients⟩)

end Connections

end PolicyReconciler

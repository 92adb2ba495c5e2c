import PolicyReconciler.Settings.Connection
import PolicyReconciler.Settings.Startup
import PolicyReconciler.Settings.Watch

namespace PolicyReconciler.CommandLine

/-!
# Command line

The arguments are the variables of an environment, each written as its name, an
equals sign and its value.  The program prints what an operator started in that
environment watches, and how it is set up, as one JSON document.
-/

/-- A variable written as its name, an equals sign and its value. -/
def variableOf (argument : String) : String × String :=
  let name := argument.toList.takeWhile (· != '=')
  (String.ofList name, String.ofList (argument.toList.drop (name.length + 1)))

/-- The environment that arguments describe; the last value of a variable counts. -/
def environmentOf (arguments : List String) : Environment :=
  ⟨(arguments.map variableOf).reverse⟩

/-- The watch scope of an environment, as the members of a document. -/
def watchMembers (environment : Environment) : Members :=
  let scope := WatchScope.ofEnvironment environment
  [("clusterwide", .bool scope.isClusterwide),
    ("namespaces", .arr (scope.namespaces.map .str))]

/-- The settings of the framework, as the members of a document. -/
def settingsMembers (settings : OperatorSettings) : Members :=
  [("request_timeout",
      (settings.requestTimeout.map .float).getD
        (.int OperatorSettings.usualRequestTimeout)),
    ("max_workers", (settings.maxWorkers.map .int).getD .null),
    ("listener",
      (settings.listener.map fun listener => .int listener.number).getD .null)]

/-- The document that describes an operator started in an environment. -/
def describe (environment : Environment) : Except Fault String :=
  match OperatorSettings.configure environment with
  | (.ok _, settings) =>
      .ok (Json.obj (watchMembers environment ++ settingsMembers settings)).document
  | (.error fault, _) => .error fault

end PolicyReconciler.CommandLine

open PolicyReconciler in
/-- The operator's command line: it prints what the given environment configures. -/
def main (arguments : List String) : IO UInt32 := do
  match CommandLine.describe (CommandLine.environmentOf arguments) with
  | .ok document =>
      IO.println document
      return 0
  | .error fault =>
      IO.eprintln (fault.kind ++ ": " ++ fault.message)
      return 1

import EntityQuery.CommandLine

/-!
# The program

Reads the command line and the environment, and says where the gateway listens.
-/

namespace EntityQuery

/-- The variables that the program reads. -/
def variableNames : List String :=
  ["URLQUERY_HOST", "URLQUERY_PORT", "URLQUERY_MAX_LIMIT", "URLQUERY_RELOAD", "URLQUERY_LOG_LEVEL"]

/-- What the flags are. -/
def usage : String :=
  "usage: [-h] [--host HOST] [--port PORT] [--max-limit N] [--reload] [--log-level LEVEL]"

/-- The part of the environment that the program reads. -/
def readEnvironment : IO Environment := do
  let values ← variableNames.mapM fun name => do return (name, ← IO.getEnv name)
  return values.filterMap fun (name, value) => value.map (name, ·)

end EntityQuery

open EntityQuery in
/-- Runs the program. -/
def main (arguments : List String) : IO UInt32 := do
  match Invocation.read arguments (← readEnvironment) with
  | .ok (.launch l) =>
    IO.println l.greeting
    return 0
  | .ok .help =>
    IO.println usage
    return 0
  | .error _ =>
    IO.eprintln usage
    return 2

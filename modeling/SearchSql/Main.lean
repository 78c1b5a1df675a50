import SearchSql.CommandLine.Run

/-!
# The command

Hands the arguments, the environment and the file of settings over to `CommandLine.run`, prints what
it has to print, and ends with its status. No connection is ever made from here: every server is one
that no request reaches.
-/

open SearchSql

/-- The text of a file, unless there is no such file. -/
def readIfThere (path : String) : IO (Option String) := do
  try
    return some (← IO.FS.readFile path)
  catch
    | .noFileOrDirectory .. => return none
    | failure => throw failure

def readEnvironment : IO (Table String) := do
  let values ← Config.variableNames.mapM fun name => return (← IO.getEnv name).map ((name, ·))
  return values.filterMap id

def main (arguments : List String) : IO UInt32 := do
  let values ← readEnvironment
  let environment : Environment := fun name => Table.get? values name
  let file ←
    match CommandLine.Invocation.ofArguments arguments with
    | .ok invocation => readIfThere (invocation.configFile environment)
    | .error _ => pure none
  let conclusion :=
    CommandLine.run arguments
      { environment, file := fun _ => file, server := Http.Server.unreachable }
  IO.print conclusion.output
  return conclusion.status.toUInt32

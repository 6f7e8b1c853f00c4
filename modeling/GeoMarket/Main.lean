import GeoMarket.Console.Program
import GeoMarket.Http.Wire

/-!
# The program

The outer layer of the command line: it fetches the environment and a file, and prints the end
of a run. It opens no connection, so that every request finds its server out of reach.
-/
namespace GeoMarket.Console

/-- The variables of the environment that concern the program. -/
def readEnvironment : IO ClientConfig.Environment := do
  let names := [ClientConfig.Environment.baseUrlVariable,
    ClientConfig.Environment.localeVariable, Invocation.usernameVariable,
    Invocation.passwordVariable]
  names.filterMapM fun name => do
    return (← IO.getEnv name).map fun value => (name, value)

/-- The content of a file. -/
def readFile (path : String) : IO FileContent := do
  try
    return .bytes (← IO.FS.readBinFile path)
  catch
    | .noFileOrDirectory .. => return .missing
    | error => return .unreadable (toString error)

/-- Print the end of a run. -/
def Ending.print (ending : Ending) : IO UInt32 := do
  (← IO.getStdout).putStr ending.printed
  (← IO.getStderr).putStr ending.notices
  return UInt32.ofNat ending.exit

end GeoMarket.Console

open GeoMarket GeoMarket.Console in
/-- Run the program. -/
def main (arguments : List String) : IO UInt32 := do
  let environment ← readEnvironment
  match Invocation.ofArguments environment arguments with
  | .error stop => (Ending.ofStop environment stop).print
  | .ok invocation =>
    let content ← match invocation.config with
      | some path => readFile path
      | none => pure .missing
    let wire := fun config : ClientConfig => Http.Wire.offline config.withCredentials
    (invocation.ending environment (fun _ => content) Http.Wire.transport wire).print

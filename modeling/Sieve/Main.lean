import Sieve.Command.Run

/-!
# Sieve.Main

The program: an action is played with files, the standard input and the environment. No database is
running anywhere as far as the program can tell.
-/

namespace Sieve

/-- The variables that settings come from. -/
def variableNames : List String :=
  ["KEEL_DATABASE_URL", "KEEL_DATABASE_MAX_CONNECTIONS", "KEEL_LOG_LEVEL", "KEEL_LOG_JSON",
    "KEEL_QUERY_DEFAULT_PAGE_SIZE", "KEEL_QUERY_MAX_PAGE_SIZE"]

def readEnvironment : IO Settings.Environment := do
  let values ← variableNames.mapM fun name => do return (name, ← IO.getEnv name)
  return .ofPairs (values.filterMap fun (name, value) => value.map fun s => (name, s))

def textOf (bytes : ByteArray) : Except FileFault String :=
  match String.fromUTF8? bytes with
  | some s => .ok s
  | none => .error .notText

def readFile (path : String) : IO (Except FileFault String) := do
  try
    return textOf (← IO.FS.readBinFile path)
  catch
    | .noFileOrDirectory .. => return .error .missing
    | _ => return .error .directory

def readInput : IO (Except FileFault String) := do
  return textOf (← (← IO.getStdin).readBinToEnd)

def finish (ending : Command.Ending) : IO UInt32 := do
  (← IO.getStdout).putStr ending.output
  (← IO.getStderr).putStr ending.report
  return ending.code

def play : Command.Action → IO UInt32
  | .finish ending => finish ending
  | .readFile path next => do play (next (← readFile path))
  | .readInput next => do play (next (← readInput))
  | .connect url connections next =>
    play (next (Location.connect (fun _ => false) url connections))
  | .send _ next => play (next .unscripted)

end Sieve

def main (words : List String) : IO UInt32 := do
  Sieve.play (Sieve.Command.start words (← Sieve.readEnvironment))

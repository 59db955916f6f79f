import Storekeeper.Cli
import Storekeeper.Json.Writer
import Storekeeper.Settings.EnvFile

/-!
# The program

Reads the variables of the process and the file `.env`, runs the program, and keeps the connection
until the standard input ends.
-/

namespace Storekeeper.Program

/-- The names of the variables that hold settings. -/
def variableNames : List String :=
  ["DATABASE_URL", "DATABASE_NAME", "ENVIRONMENT", "ENV", "DATABASE_ISOLATION_LEVEL",
    "DATABASE_TRANSACTION_TIMEOUT_MS", "DATABASE_HEALTH_CHECK_INTERVAL_MS",
    "DATABASE_HEALTH_CHECK_ENABLED", "DATABASE_HEALTH_THRESHOLD_MS", "DATABASE_MAX_RETRIES",
    "DATABASE_RETRY_DELAY_MS", "DATABASE_RETRY_JITTER", "DATABASE_CONNECT_TIMEOUT_MS",
    "DATABASE_LOG_QUERIES"]

/-- The variables of the process with the given names. -/
def processVariables (names : List String) : IO Lookup := do
  let pairs ← names.filterMapM fun name => do
    pure ((← IO.getEnv name).map fun value => (name, value))
  pure fun name => (pairs.find? fun p => p.1 == name).map (·.2)

/-- The text of the file of variables, or nothing if it cannot be read. -/
def variableFile : IO String :=
  try IO.FS.readFile ".env" catch _ => pure ""

/-- The words of a text, among which are the names of the variables that it inserts. -/
def words (text : String) : List String :=
  (String.ofList (text.toList.map fun c => if c.isAlphanum || c == '_' then c else ' ')).splitOn " "

/-- Runs the program. -/
def run : IO UInt32 := do
  let text ← variableFile
  let names := variableNames ++ (words text).filter fun w => !w.isEmpty
  let chance : Chance := { draw := fun _ => 0, name := toString }
  let result := Cli.run (EnvFile.load (← processVariables names) text) chance
  IO.eprint result.errorText
  if let some health := result.health then
    IO.println ("📊 Health: " ++ Json.write health.encode)
    (← IO.getStdout).flush
    discard (← IO.getStdin).getLine
  pure (UInt32.ofNat result.exitCode)

end Storekeeper.Program

/-- Runs the program. -/
def main : IO UInt32 := Storekeeper.Program.run

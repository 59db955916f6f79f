import Storekeeper.Mongo.Client
import Storekeeper.Session.Branch
import Storekeeper.Settings.Lookup

/-!
# The command line

The program reads its settings from variables, connects the store that they name and reports the
health of the connection, or says why it could not.  `Cli.run` is what it comes to.
-/

namespace Storekeeper.Cli

/-- What a run of the program comes to. -/
structure Result where
  exitCode : Nat
  /-- The health of the connection, if there is one. -/
  health : Option HealthMetrics := none
  /-- What is written to the standard error. -/
  errorText : String := ""

/-- A text with further lines indented like the first. -/
def indented (s : String) : String :=
  String.ofList ("    ".toList ++ s.toList.flatMap fun c =>
    if c == '\n' then "\n    ".toList else [c])

/-- The result of a run that failed at the given point. -/
def failed (context : String) (cause : Error) : Result where
  exitCode := 1
  errorText := "Error: " ++ context ++ "\n\nCaused by:\n" ++ indented cause.message ++ "\n"

/-- The point at which the settings are read. -/
def settingsContext : String := "Failed to load database settings"

/-- The point at which the manager is started. -/
def startContext : String := "Database connection manager failed to start"

/-- Starts a manager of the store in memory. -/
def startMemory (s : Settings) (chance : Chance) : Result :=
  let session : Session := { manager := { settings := s, chance := chance } }
  match session.run [.act .start, .act .metrics] with
  | some [(.call (.started (.ok ())), _), (.metrics health, _)] =>
    { exitCode := 0, health := some health }
  | some ((.call (.started (.error e)), _) :: _) => failed startContext e
  | _ => { exitCode := 1 }

/-- Starts a manager of a MongoDB deployment of which no member answers. -/
def startMongo (s : Settings) : Result :=
  match s.validate with
  | .error e => failed startContext e
  | .ok () =>
    let cause := (Mongo.Client.connectError? s.url).getD Mongo.Client.selectionFault.toError
    failed startContext (.connection (s.retryPolicy.attemptsAgainst cause))

/-- Runs the program with the given variables. -/
def run (get : Lookup) (chance : Chance) : Result :=
  match Settings.ofLookup get with
  | .error e => failed settingsContext e
  | .ok s => if s.usesMemoryStore then startMemory s chance else startMongo s

end Storekeeper.Cli

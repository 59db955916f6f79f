import Storekeeper.Settings.Basic
import Storekeeper.Text.Numeral

/-!
# Settings from variables

`Settings.ofLookup` reads the settings from named variables, of which only the URL is required.
A variable that is bound must be readable; the first fault is reported, in the order in which
the variables are read, and the faults that `Settings.validate` finds come last.
-/

namespace Storekeeper

/-- The values of the variables that are bound. -/
abbrev Lookup := String → Option String

namespace Settings

/-- The name of the database in the path of a URL. -/
def databaseOfUrl? (url : String) : Option String :=
  match Url.parse? url with
  | none => none
  | some u =>
    let name := u.path.dropWhile (· == '/')
    if name.isEmpty then none else some (String.ofList name)

/-- A number below `2 ^ 64` between blanks, or the default of a variable that is not bound. -/
def readNumber (get : Lookup) (name : String) (default : Nat) : Except Error Nat :=
  match get name with
  | none => .ok default
  | some text =>
    match Text.readWord 64 (Text.trim text.toList) with
    | some n => .ok n
    | none => .error (.config (name ++ " must be a non-negative integer"))

/-- The word that a yes or no is read from, in small letters. -/
def flag? (word : String) : Option Bool :=
  if ["1", "true", "yes", "on"].contains word then some true
  else if ["0", "false", "no", "off"].contains word then some false
  else none

/-- A yes or no, or the default of a variable that is not bound. -/
def readFlag (get : Lookup) (name : String) (default : Bool) : Except Error Bool :=
  match get name with
  | none => .ok default
  | some text =>
    match flag? (Text.lowered (Text.trimmed text)) with
    | some b => .ok b
    | none => .error (.config (name ++ " must be a boolean"))

/-- A number of 64 bits. -/
def readLong (get : Lookup) (name : String) (default : UInt64) : Except Error UInt64 :=
  (readNumber get name default.toNat).map UInt64.ofNat

/-- A number of 32 bits. -/
def readShort (get : Lookup) (name : String) (default : UInt32) : Except Error UInt32 :=
  match readNumber get name default.toNat with
  | .error e => .error e
  | .ok n =>
    if n < UInt32.size then .ok (UInt32.ofNat n) else .error (.config (name ++ " is out of range"))

/-- A value that is not blank. -/
def nonBlank? (get : Lookup) (name : String) : Option String :=
  (get name).filter fun text => !Text.isAllBlank text

/-- The environment, under either of its two names. -/
def readEnvironment (get : Lookup) : Except Error Environment :=
  match (get "ENVIRONMENT").or (get "ENV") with
  | none => .ok default
  | some text => Environment.parse text

/-- The isolation level. -/
def readIsolation (get : Lookup) (default : IsolationLevel) : Except Error IsolationLevel :=
  match get "DATABASE_ISOLATION_LEVEL" with
  | none => .ok default
  | some text => IsolationLevel.parse text

/-- The settings that the variables give, before they are checked. -/
def readLookup (get : Lookup) : Except Error Settings :=
  match nonBlank? get "DATABASE_URL" with
  | none => .error (.config "Required environment variable 'DATABASE_URL' is not set")
  | some url => do
    let d : Settings := { url := url }
    let environment ← readEnvironment get
    let databaseName :=
      ((nonBlank? get "DATABASE_NAME").or (databaseOfUrl? url)).getD d.databaseName
    let isolation ← readIsolation get d.isolation
    let transactionTimeout ← readLong get "DATABASE_TRANSACTION_TIMEOUT_MS" d.transactionTimeout
    let healthCheckInterval ←
      readLong get "DATABASE_HEALTH_CHECK_INTERVAL_MS" d.healthCheckInterval
    let healthCheckEnabled ← readFlag get "DATABASE_HEALTH_CHECK_ENABLED" d.healthCheckEnabled
    let healthyThreshold ← readLong get "DATABASE_HEALTH_THRESHOLD_MS" d.healthyThreshold
    let maxRetries ← readShort get "DATABASE_MAX_RETRIES" d.maxRetries
    let retryDelay ← readLong get "DATABASE_RETRY_DELAY_MS" d.retryDelay
    let retryJitter ← readFlag get "DATABASE_RETRY_JITTER" d.retryJitter
    let connectTimeout ← readLong get "DATABASE_CONNECT_TIMEOUT_MS" d.connectTimeout
    let logQueries ← readFlag get "DATABASE_LOG_QUERIES" d.logQueries
    pure { url, databaseName, environment, transactionTimeout, isolation, healthCheckInterval,
           healthCheckEnabled, healthyThreshold, maxRetries, retryDelay, retryJitter,
           connectTimeout, logQueries }

/-- The settings that the variables give, or the first fault in them. -/
def ofLookup (get : Lookup) : Except Error Settings := do
  let s ← readLookup get
  s.validate
  pure s

end Settings

end Storekeeper

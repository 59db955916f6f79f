import Storekeeper.Retry
import Storekeeper.Transaction.Options
import Storekeeper.Url.Basic

/-!
# Settings

What the store is connected with.  Durations are in milliseconds.  `Settings.describe` shows
all settings on one line with the URL redacted, and `Settings.validate` says what is wrong
with them, if anything is: the URL must be readable and of a supported scheme, certain numbers
must be positive, and the database must have a name.
-/

namespace Storekeeper

/-- The settings of one store connection. -/
structure Settings where
  /-- The URL of the store, which may hold credentials. -/
  url : String
  databaseName : String := "projects"
  environment : Environment := .development
  transactionTimeout : UInt64 := 10000
  isolation : IsolationLevel := .readCommitted
  healthCheckInterval : UInt64 := 30000
  healthCheckEnabled : Bool := true
  /-- A probe that takes this long or longer is reported as degraded. -/
  healthyThreshold : UInt64 := 5000
  maxRetries : UInt32 := 3
  retryDelay : UInt64 := 1000
  retryJitter : Bool := false
  connectTimeout : UInt64 := 10000
  logQueries : Bool := false
deriving DecidableEq, Repr

namespace Settings

/-- The schemes of the stores that can be connected with. -/
def supportedSchemes : List String := ["mongodb", "mongodb+srv", "memory"]

/-- All settings on one line, with the URL redacted. -/
def describe (s : Settings) : String :=
  String.join ["DatabaseSettings \x7b url: ", Text.quoted (Redaction.sanitize s.url),
    ", database_name: ", Text.quoted s.databaseName,
    ", environment: ", s.environment.title,
    ", transaction_timeout_ms: ", toString s.transactionTimeout.toNat,
    ", isolation_level: ", s.isolation.name,
    ", health_check_interval_ms: ", toString s.healthCheckInterval.toNat,
    ", health_check_enabled: ", toString s.healthCheckEnabled,
    ", healthy_threshold_ms: ", toString s.healthyThreshold.toNat,
    ", max_retries: ", toString s.maxRetries.toNat,
    ", retry_delay_ms: ", toString s.retryDelay.toNat,
    ", retry_jitter: ", toString s.retryJitter,
    ", connect_timeout_ms: ", toString s.connectTimeout.toNat,
    ", log_queries: ", toString s.logQueries, " \x7d"]

/-- The settings that must be positive, with the names of their variables, in the order in which
they are checked. -/
def positiveSettings (s : Settings) : List (String × Nat) :=
  [("DATABASE_TRANSACTION_TIMEOUT_MS", s.transactionTimeout.toNat),
    ("DATABASE_HEALTH_CHECK_INTERVAL_MS", s.healthCheckInterval.toNat),
    ("DATABASE_HEALTH_THRESHOLD_MS", s.healthyThreshold.toNat),
    ("DATABASE_MAX_RETRIES", s.maxRetries.toNat),
    ("DATABASE_CONNECT_TIMEOUT_MS", s.connectTimeout.toNat)]

/-- Checks the settings and reports the first fault. -/
def validate (s : Settings) : Except Error Unit :=
  match Url.parse? s.url with
  | none => .error (.config "DATABASE_URL is not a valid URL")
  | some url =>
    if !supportedSchemes.contains url.scheme then
      .error (.config ("Unsupported DATABASE_URL scheme '" ++ url.scheme ++ "'"))
    else
      match s.positiveSettings.find? (·.2 = 0) with
      | some (name, _) => .error (.config (name ++ " must be greater than 0"))
      | none =>
        if Text.isAllBlank s.databaseName then .error (.config "DATABASE_NAME cannot be empty")
        else .ok ()

/-- Settings are accepted if each of the checks finds nothing wrong with them. -/
theorem validate_eq_ok_iff {s : Settings} :
  s.validate = .ok ()
    ↔ (∃ url, Url.parse? s.url = some url ∧ url.scheme ∈ supportedSchemes)
      ∧ (∀ p ∈ s.positiveSettings, p.2 ≠ 0) ∧ Text.isAllBlank s.databaseName = false
  := by
  have hpositive : (∀ p ∈ s.positiveSettings, p.2 ≠ 0)
      ↔ s.positiveSettings.find? (·.2 = 0) = none := by
    simp [List.find?_eq_none]
  rw [hpositive]
  unfold validate
  cases Url.parse? s.url with
  | none => simp
  | some url =>
    by_cases hscheme : url.scheme ∈ supportedSchemes
    · cases s.positiveSettings.find? (·.2 = 0) with
      | some p => simp [hscheme]
      | none => simp [hscheme]
    · simp [hscheme]

/-- Whether the store in memory is meant, by the text of the URL. -/
def usesMemoryStore (s : Settings) : Bool := "memory:".toList.isPrefixOf s.url.toList

/-- The options of a transaction that overrides none. -/
def transactionDefaults (s : Settings) : Transaction.Options :=
  ⟨s.transactionTimeout.toNat, s.isolation⟩

/-- How a failed attempt to connect is repeated. -/
def retryPolicy (s : Settings) : RetryPolicy :=
  ⟨s.maxRetries.toNat, s.retryDelay, s.retryJitter⟩

/-- Whether the health of the connection is watched while it lasts. -/
def isMonitored (s : Settings) : Bool :=
  s.environment == .production && s.healthCheckEnabled

end Settings

end Storekeeper

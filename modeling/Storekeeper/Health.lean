import Storekeeper.Decode.Basic

/-!
# Health of a connection

What is known about the health of a connection: the outcome of the latest probe, the latency it
had, and the errors counted so far.  Each way in which the report changes is a function here:
`recordProbe` and `recordProbeFailure` for the two outcomes of a probe, `recordError` for a
failure that is no probe's and leaves the status alone, and `markUnhealthy`.
-/

namespace Storekeeper

/-- The lifecycle of a connection. -/
inductive ConnectionState where
  | disconnected
  | connecting
  | connected
  | degraded
  /-- Connecting was given up. -/
  | failed
deriving DecidableEq, Repr

namespace ConnectionState

/-- All states, in order. -/
def all : List ConnectionState := [disconnected, connecting, connected, degraded, failed]

/-- The name of a state. -/
def name : ConnectionState → String
  | disconnected => "disconnected"
  | connecting => "connecting"
  | connected => "connected"
  | degraded => "degraded"
  | failed => "failed"

/-- The capitalised name of a state. -/
def title : ConnectionState → String
  | disconnected => "Disconnected"
  | connecting => "Connecting"
  | connected => "Connected"
  | degraded => "Degraded"
  | failed => "Failed"

/-- Whether a connection is established. -/
def isUp : ConnectionState → Bool
  | connected | degraded => true
  | _ => false

/-- A state, by its name. -/
def decode : Decoder ConnectionState := Decode.choice all name

end ConnectionState

/-- The outcome of a probe. -/
inductive HealthStatus where
  | healthy
  | degraded
  | unhealthy
deriving DecidableEq, Repr

namespace HealthStatus

/-- All outcomes, in order. -/
def all : List HealthStatus := [healthy, degraded, unhealthy]

/-- The name of an outcome. -/
def name : HealthStatus → String
  | healthy => "healthy"
  | degraded => "degraded"
  | unhealthy => "unhealthy"

/-- The capitalised name of an outcome. -/
def title : HealthStatus → String
  | healthy => "Healthy"
  | degraded => "Degraded"
  | unhealthy => "Unhealthy"

/-- An outcome, by its name. -/
def decode : Decoder HealthStatus := Decode.choice all name

/-- The outcome of a successful probe that took `latency`. -/
def ofLatency (latency threshold : Nat) : HealthStatus :=
  if latency < threshold then healthy else degraded

/-- The state of an established connection after a probe with this outcome. -/
def connectionState : HealthStatus → ConnectionState
  | healthy => .connected
  | degraded | unhealthy => .degraded

end HealthStatus

/-- The health report of a connection. -/
structure HealthMetrics where
  status : HealthStatus := .unhealthy
  /-- The latency of the latest probe, in milliseconds. -/
  responseTime : Nat := 0
  lastSuccessfulProbe : Option Instant := none
  errorCount : Nat := 0
  lastError : Option String := none
  lastErrorAt : Option Instant := none
deriving DecidableEq

namespace HealthMetrics

/-- The report after a successful probe. -/
def recordProbe (m : HealthMetrics) (now : Instant) (latency threshold : Nat) : HealthMetrics :=
  { m with
    status := .ofLatency latency threshold
    responseTime := latency
    lastSuccessfulProbe := some now }

/-- The report after one more error, given in redacted form. -/
def recordError (m : HealthMetrics) (now : Instant) (text : String) : HealthMetrics :=
  { m with
    errorCount := m.errorCount + 1
    lastError := some text
    lastErrorAt := some now }

/-- The report after a failed probe. -/
def recordProbeFailure (m : HealthMetrics) (now : Instant) (latency : Nat) (text : String) :
    HealthMetrics :=
  { m with status := .unhealthy, responseTime := latency }.recordError now text

/-- The report of a connection that is known to be down. -/
def markUnhealthy (m : HealthMetrics) : HealthMetrics := { m with status := .unhealthy }

/-- The report as a document. -/
def encode (m : HealthMetrics) : Json :=
  .obj [("status", .str m.status.name), ("response_time_ms", .ofNat m.responseTime),
    ("last_successful_probe", .ofInstant? m.lastSuccessfulProbe),
    ("error_count", .ofNat m.errorCount), ("last_error", .ofText? m.lastError),
    ("last_error_at", .ofInstant? m.lastErrorAt)]

open Decode in
/-- The fields of a health report. -/
def fields : List Field :=
  [field "status" HealthStatus.decode, field "response_time_ms" natural,
    field "last_successful_probe" (optional instant), field "error_count" natural,
    field "last_error" (optional text), field "last_error_at" (optional instant)]

open Decode in
/-- A health report, from its document. -/
def decode : Decoder HealthMetrics := fun j => do
  let ms ← members "HealthMetrics" fields j
  pure { status := ← required ms "status" HealthStatus.decode
         responseTime := ← required ms "response_time_ms" natural
         lastSuccessfulProbe := ← possible ms "last_successful_probe" instant
         errorCount := ← required ms "error_count" natural
         lastError := ← possible ms "last_error" text
         lastErrorAt := ← possible ms "last_error_at" instant }

end HealthMetrics

/-- The answer to the question whether a connection is alive. -/
structure ConnectionStatus where
  isConnected : Bool
  /-- The latency of the probe, in milliseconds. -/
  responseTime : Nat
  lastCheck : Instant
  /-- The error of the probe in redacted form. -/
  error : Option String
deriving DecidableEq

namespace ConnectionStatus

/-- The answer as a document. -/
def encode (s : ConnectionStatus) : Json :=
  .obj [("is_connected", .bool s.isConnected), ("response_time_ms", .ofNat s.responseTime),
    ("last_check", .str s.lastCheck.text), ("error", .ofText? s.error)]

open Decode in
/-- The fields of an answer. -/
def fields : List Field :=
  [field "is_connected" flag, field "response_time_ms" natural, field "last_check" instant,
    field "error" (optional text)]

open Decode in
/-- An answer, from its document. -/
def decode : Decoder ConnectionStatus := fun j => do
  let ms ← members "ConnectionStatus" fields j
  pure { isConnected := ← required ms "is_connected" flag
         responseTime := ← required ms "response_time_ms" natural
         lastCheck := ← required ms "last_check" instant
         error := ← possible ms "error" text }

end ConnectionStatus

end Storekeeper

import Storekeeper.Manager.Connect
import Storekeeper.Manager.Disconnect
import Storekeeper.Manager.Maintenance

/-!
# Calls

All calls on a manager that take several steps.  `Call.isReady` says whether a call can go on,
`Call.alarm` when one can that waits for time to pass, and `Call.advance` goes on with it for one
step.  Nothing here decides which of several calls goes on: any interleaving of their steps
is possible.
-/

namespace Storekeeper

/-- A call in progress. -/
inductive Call where
  /-- Checks the settings and connects. -/
  | start
  /-- Connects; `announced` says whether the manager is started by it. -/
  | connect (announced : Bool) (phase : Connect)
  /-- Disconnects and says so before and after. -/
  | stop
  /-- Disconnects; `announced` says whether the manager is stopped by it. -/
  | disconnect (announced : Bool) (phase : Disconnect)
  | stopMonitor (phase : StopMonitor)
  /-- Probes the store and reports its health. -/
  | checkHealth (phase : Check)
  /-- Probes the store without a trace in the health report. -/
  | askStatus (phase : Probe)
  /-- Probes the store behind the back of the manager. -/
  | ping (phase : Probe)
  | run (phase : Run Nat)
  | maintain (task : Maintenance)
  | maintaining (task : Maintenance) (phase : Run Nat)
  | sleep (due : Nat)

/-- The result of a call. -/
inductive Outcome where
  | started (result : Except Error Unit)
  | connected (result : Except Error Unit)
  | disconnected
  | healthy (value : Bool)
  | status (status : ConnectionStatus)
  | ponged (result : Except Error Unit)
  | ran (result : RunResult Nat)
  | maintained (result : Except Failure Nat)
  | slept

namespace Call

/-- The call that runs a unit of work with the given overrides. -/
def ofWork (m : Manager) (overrides : Transaction.Overrides) (work : Work Nat) : Call :=
  .run (.beginning (overrides.merge m.settings.transactionDefaults) work)

/-- Whether a call ended without a result. -/
def hasCrashed : Call → Bool
  | connect _ .crashed => true
  | _ => false

/-- Whether a call can go on. -/
def isReady (m : Manager) : Call → Bool
  | connect _ phase => phase.isReady m
  | disconnect _ phase => phase.isReady m
  | stopMonitor phase => phase.isReady m
  | checkHealth phase => phase.isReady m.now
  | askStatus phase | ping phase => phase.isReady m.now
  | run phase | maintaining _ phase => phase.isReady m.now
  | sleep due => due ≤ m.now
  | start | stop | maintain _ => true

/-- When a call that waits for time to pass can go on. -/
def alarm : Call → Option Nat
  | connect _ phase => phase.alarm
  | checkHealth phase => phase.alarm
  | askStatus phase | ping phase => phase.alarm
  | run phase | maintaining _ phase => phase.alarm
  | sleep due => some due
  | disconnect _ _ | stopMonitor _ | start | stop | maintain _ => none

/-- What has come of a call. -/
abbrev Step := Manager × Progress Call Outcome

/-- A step of a part of a call as a step of the call. -/
def lift {φ ρ : Type} (phase : φ → Call) (result : Manager → ρ → Manager × Outcome) :
    Manager × Progress φ ρ → Step
  | (m, .going p) => (m, .going (phase p))
  | (m, .done r) =>
    let (m, outcome) := result m r
    (m, .done outcome)

/-- Checks the settings before the manager is started. -/
def advanceStart (m : Manager) : Step :=
  match m.settings.validate with
  | .error e => (m, .done (.started (.error e)))
  | .ok () =>
    (m.log .info "🚀 Starting database connection manager..."
        [("environment", .str m.settings.environment.name), ("store", .str MemoryStore.name)],
      .going (.connect true .arriving))

/-- The result of a call that connected. -/
def connectResult (announced : Bool) (m : Manager) (r : Except Error Unit) : Manager × Outcome :=
  if announced then
    match r with
    | .ok () => (m.log .info "✅ Database connection manager started", .started (.ok ()))
    | .error e => (m, .started (.error e))
  else (m, .connected r)

/-- The result of a call that disconnected. -/
def disconnectResult (announced : Bool) (m : Manager) : Manager × Outcome :=
  (if announced then m.log .info "✅ Database connection manager stopped" else m, .disconnected)

/-- The result of a health check. -/
def healthResult (m : Manager) (status : HealthStatus) : Manager × Outcome :=
  (m, .healthy (status == .healthy))

/-- The result of a question for the status. -/
def statusResult (m : Manager) (probed : Probed) : Manager × Outcome :=
  (m, .status
    { isConnected := probed.outcome.isOk
      responseTime := probed.latency
      lastCheck := m.instant
      error :=
        match probed.outcome with
        | .ok () => none
        | .error e => some (Redaction.sanitize e.message) })

/-- The result of a maintenance task. -/
def maintenanceResult (task : Maintenance) (m : Manager) (r : RunResult Nat) : Manager × Outcome :=
  (task.finish m r.outcome, .maintained r.outcome)

/-- Goes on with a call that is ready. -/
def advance (m : Manager) : Call → Step
  | start => advanceStart m
  | connect announced phase =>
    lift (connect announced) (connectResult announced) (phase.advance m)
  | stop =>
    (m.log .info "🛑 Stopping database connection manager...",
      .going (.disconnect true (.stopping .asked)))
  | disconnect announced phase =>
    lift (disconnect announced) (fun m _ => disconnectResult announced m) (phase.advance m)
  | stopMonitor phase => lift stopMonitor (fun m _ => (m, .disconnected)) (phase.advance m)
  | checkHealth phase => lift checkHealth healthResult (phase.advance m)
  | askStatus phase => lift askStatus statusResult (phase.advance m)
  | ping phase => lift ping (fun m probed => (m, .ponged probed.outcome)) (phase.advance m)
  | run phase => lift run (fun m r => (m, .ran r)) (phase.advance m)
  | maintain task => lift (maintaining task) (maintenanceResult task) (task.start m)
  | maintaining task phase => lift (maintaining task) (maintenanceResult task) (phase.advance m)
  | sleep _ => (m, .done .slept)

end Call

end Storekeeper

import Storekeeper.Manager.Basic

/-!
# Watching a connection

While a connection is watched, a loop checks its health at regular ticks.  A loop that is told to
stop ends when it waits for its next tick; a check in progress is brought to its end first, and if
the tick has come by then chance decides whether it is taken before the loop ends.  After a check
that took longer than until the next tick, that tick follows at once and the ticks are counted from
there.
-/

namespace Storekeeper

namespace MonitorLoop

/-- Whether a loop can go on at the given time. -/
def isReady (now : Nat) (l : MonitorLoop) : Bool :=
  match l.phase with
  | .starting => true
  | .waiting tick => l.stopping || tick ≤ now
  | .checking _ check => check.isReady now
  | .reporting _ _ => true

/-- When a loop that waits can go on. -/
def alarm (l : MonitorLoop) : Option Nat :=
  match l.phase with
  | .starting => none
  | .waiting tick => some tick
  | .checking _ check => check.alarm
  | .reporting _ _ => none

/-- How late a tick may be while the following one still keeps its place, in milliseconds. -/
def tolerance : Nat := 5

/-- The tick after one that was due at `tick` and came at `now`. -/
def nextTick (period tick now : Nat) : Nat :=
  if tick + tolerance < now then now + period else tick + period

end MonitorLoop

namespace Manager

/-- The time between two ticks. -/
def period (m : Manager) : Nat := m.settings.healthCheckInterval.toNat

/-- Whether the loop with the given number has not ended yet. -/
def hasLoop (m : Manager) (id : Nat) : Bool := m.loops.any fun l => l.id == id

/-- Whether the connection is watched. -/
def isMonitored (m : Manager) : Bool := m.monitor.any m.hasLoop

/-- Changes the loop with the given number. -/
def modifyLoop (m : Manager) (id : Nat) (f : MonitorLoop → MonitorLoop) : Manager :=
  { m with loops := m.loops.map fun l => if l.id = id then f l else l }

/-- Ends the loop with the given number. -/
def endLoop (m : Manager) (id : Nat) : Manager :=
  { m with loops := m.loops.filter fun l => l.id != id }

/-- Lets the loop with the given number enter a phase. -/
def enter (m : Manager) (id : Nat) (phase : MonitorPhase) : Manager :=
  m.modifyLoop id fun l => { l with phase := phase }

/-- Starts to watch the connection, unless it is watched already. -/
def startMonitor (m : Manager) : Manager :=
  if m.isMonitored then m.log .warning "Database health monitoring is already running"
  else
    let m := m.log .info "🚀 Starting database health monitoring..."
      [("interval_ms", .ofNat m.period)]
    { m with
      loops := m.loops ++ [{ id := m.fresh }]
      monitor := some m.fresh
      fresh := m.fresh + 1 }

/-- Writes the outcome of a regular check to the log. -/
def reportHealth (m : Manager) : HealthStatus → Manager
  | .healthy => m.log .info "Database health check: healthy"
      [("response_time_ms", .ofNat m.metrics.responseTime),
        ("error_count", .ofNat m.metrics.errorCount)]
  | .degraded => m.log .warning "Database health check: degraded"
      [("response_time_ms", .ofNat m.metrics.responseTime), ("threshold_ms", .ofNat m.threshold)]
  | .unhealthy => m.log .error "Database health check: unhealthy"
      [("error_count", .ofNat m.metrics.errorCount),
        ("last_error", .str (m.metrics.lastError.getD "-"))]

/-- Goes on with a regular check. -/
def advanceRegularCheck (m : Manager) (id next : Nat) (check : Check) : Manager :=
  match check.advance m with
  | (m, .going check) => m.enter id (.checking next check)
  | (m, .done status) => m.enter id (.reporting next status)

/-- Whether a loop that waits for a tick ends instead of taking it. -/
def endsAt (m : Manager) (l : MonitorLoop) (tick : Nat) : Bool :=
  l.stopping && !(decide (tick ≤ m.now) && m.chance.tick l.id tick)

/-- Goes on with a loop.  A loop without a period cannot tick and ends. -/
def advanceLoop (m : Manager) (l : MonitorLoop) : Manager :=
  match l.phase with
  | .starting =>
    if m.period = 0 then m.endLoop l.id else m.enter l.id (.waiting (m.now + m.period))
  | .waiting tick =>
    if m.endsAt l tick then m.endLoop l.id
    else m.enter l.id (.checking (MonitorLoop.nextTick m.period tick m.now) (.probing .ready))
  | .checking next check => m.advanceRegularCheck l.id next check
  | .reporting next status => (m.reportHealth status).enter l.id (.waiting next)

end Manager

/-- A call that stops to watch the connection. -/
inductive StopMonitor where
  | asked
  /-- Waits for the end of a loop. -/
  | awaiting (loop : Nat)
deriving DecidableEq, Repr

/-- Writes to the log that a loop has ended.  One without a period ended abnormally. -/
def Manager.logEnd (m : Manager) (loop : Nat) : Manager :=
  let m :=
    if m.period = 0 then
      m.log .error ("Health monitor task ended abnormally: task " ++ toString loop ++
        " panicked with message \"`period` must be non-zero.\"")
    else m
  m.log .info "✅ Database health monitoring stopped"

namespace StopMonitor

/-- Whether the call can go on. -/
def isReady (m : Manager) : StopMonitor → Bool
  | asked => true
  | awaiting loop => !m.hasLoop loop

/-- Goes on with the call. -/
def advance (m : Manager) : StopMonitor → Manager × Progress StopMonitor Unit
  | asked =>
    match m.monitor with
    | none => (m, .done ())
    | some id =>
      let m := { m with monitor := none }.log .info "🛑 Stopping database health monitoring..."
      (m.modifyLoop id fun l => { l with stopping := true }, .going (.awaiting id))
  | awaiting loop => (m.logEnd loop, .done ())

end StopMonitor

end Storekeeper

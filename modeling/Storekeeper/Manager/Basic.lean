import Storekeeper.Health
import Storekeeper.Journal
import Storekeeper.Settings.Basic
import Storekeeper.Store.Memory
import Storekeeper.Transaction.Options

/-!
# The manager of a connection

A manager owns the connection to a store.  Many calls may be in progress on it at once, and the
loop that watches the health of the connection runs beside them; `Manager` is what they share.
Time is counted in milliseconds and passes only between their steps.

The functions of this module are the operations on the store, with the observations that they
leave in the journal, and the changes of the health report.
-/

namespace Storekeeper

/-- What a call has come to: a further phase, or its result. -/
inductive Progress (φ ρ : Type) where
  | going (phase : φ)
  | done (result : ρ)

/-- A probe of the store: it is about to start, or it waits for its latency to be over. -/
inductive Probe where
  | ready
  | waiting (ping : Ping)
deriving DecidableEq, Repr

/-- What a probe found out. -/
structure Probed where
  outcome : Except Error Unit
  /-- How long the probe took, in milliseconds. -/
  latency : Nat

/-- A check of the health: it probes the store and writes the outcome into the health report, and
into the state of the connection then. -/
inductive Check where
  | probing (probe : Probe)
  /-- About to write what was reported into the state of the connection. -/
  | settling (status : HealthStatus)
deriving DecidableEq, Repr

/-- What the loop that watches the health of a connection is doing. -/
inductive MonitorPhase where
  | starting
  /-- Waits for its next tick. -/
  | waiting (tick : Nat)
  /-- Checks the health, and will wait for the tick `next` then. -/
  | checking (next : Nat) (check : Check)
  /-- About to write the outcome of a check to the log. -/
  | reporting (next : Nat) (status : HealthStatus)
deriving DecidableEq, Repr

/-- A loop that watches the health of a connection. -/
structure MonitorLoop where
  id : Nat
  /-- Whether the loop was told to stop. -/
  stopping : Bool := false
  phase : MonitorPhase := .starting
deriving DecidableEq, Repr

/-- What is left to chance. -/
structure Chance where
  /-- The random word for the jitter after the given number of attempts to connect. -/
  draw : Nat → UInt64
  /-- The name of the transaction with the given number. -/
  name : Nat → String
  /-- Whether a loop with the given number that was told to stop takes the given tick before it
  ends, if that tick has come. -/
  tick : Nat → Nat → Bool := fun _ _ => false

/-- The state that the calls on a manager share. -/
structure Manager where
  settings : Settings
  chance : Chance
  /-- The time, in milliseconds since the start of the year 2024. -/
  now : Nat := 0
  store : MemoryStore := {}
  state : ConnectionState := .disconnected
  metrics : HealthMetrics := {}
  /-- The failed attempts of the sequence that ended last. -/
  attempts : List FailedAttempt := []
  /-- The tickets of the callers that connect, in the order of their arrival.  The first of them
  has its turn. -/
  queue : List Nat := []
  /-- The loops that have not ended yet. -/
  loops : List MonitorLoop := []
  /-- The loop that watches the connection, unless it was told to stop. -/
  monitor : Option Nat := none
  /-- The least number that no ticket and no loop has had yet. -/
  fresh : Nat := 0
  /-- What was observed, the latest first. -/
  journal : List Notice := []

namespace Manager

/-- The time as an instant. -/
def instant (m : Manager) : Instant := .afterStart m.now

/-- From which latency on a connection is degraded. -/
def threshold (m : Manager) : Nat := m.settings.healthyThreshold.toNat

/-- Adds a line to the log. -/
def write (m : Manager) (line : LogLine) : Manager :=
  { m with journal := .line line :: m.journal }

/-- Adds a message with named values to the log. -/
def log (m : Manager) (level : Level) (message : String) (fields : List (String × Json) := []) :
    Manager :=
  m.write ⟨level, message, fields⟩

/-- Adds an event of the store to the journal. -/
def emit (m : Manager) (event : StoreEvent) : Manager :=
  { m with journal := .event event :: m.journal }

/-- Adds the event of an operation on the store itself to the journal. -/
def emitCall (m : Manager) (operation : String) (elapsed : Nat) (reply : Except Error Unit) :
    Manager :=
  m.emit {
    store := MemoryStore.name
    operation := operation
    elapsed := elapsed
    success := reply.isOk }

/-- Counts an error, given in redacted form. -/
def recordError (m : Manager) (text : String) : Manager :=
  { m with metrics := m.metrics.recordError m.instant text }

/-- Reports the connection as down. -/
def markUnhealthy (m : Manager) : Manager := { m with metrics := m.metrics.markUnhealthy }

/-! ### Operations on the store -/

/-- Connects the store. -/
def openStore (m : Manager) : Except Error Unit × Manager :=
  let (reply, store) := m.store.connect
  (reply, { m with store := store }.emitCall "connect" 0 reply)

/-- Disconnects the store. -/
def closeStore (m : Manager) : Except Error Unit × Manager :=
  let (reply, store) := m.store.disconnect
  (reply, { m with store := store }.emitCall "disconnect" 0 reply)

/-- Starts a probe of the store. -/
def startPing (m : Manager) : Ping × Manager :=
  let (ping, store) := m.store.startPing m.now
  (ping, { m with store := store })

/-- Ends a probe of the store. -/
def endPing (m : Manager) (ping : Ping) : Probed × Manager :=
  let latency := m.now - ping.started
  let outcome := ping.outcome m.store.connected
  (⟨outcome, latency⟩, m.emitCall "ping" latency outcome)

/-- Begins a transaction on the store. -/
def begin (m : Manager) (options : Transaction.Options) : Except Error Transaction × Manager :=
  let (reply, store) := m.store.begin (m.chance.name m.store.transactions)
  let m := { m with store := store }
  match reply with
  | .ok tx =>
    let m := m.log .debug "Started in-memory transaction"
      [("transaction_id", .str tx.name), ("isolation_level", .str options.isolation.name)]
    (.ok tx, m.emitCall "begin_transaction" 0 (.ok ()))
  | .error e => (.error e, m.emitCall "begin_transaction" 0 (.error e))

/-- Performs an operation on a transaction on the store. -/
def perform (m : Manager) (tx : Transaction) (op : Transaction.Operation) :
    Except Error op.Reply × Transaction × Manager :=
  let answer := tx.perform m.store.tables op
  let m := { m with store := { m.store with tables := answer.tables } }
  let m :=
    if tx.finished then m
    else m.emit {
      store := MemoryStore.name
      operation := op.name
      collection := op.collection?
      transaction := some tx.name
      success := answer.reply.isOk }
  (answer.reply, answer.transaction, m)

end Manager

namespace Probe

/-- Whether a probe can go on at the given time. -/
def isReady (now : Nat) : Probe → Bool
  | ready => true
  | waiting ping => ping.due ≤ now

/-- When a probe that waits can go on. -/
def alarm : Probe → Option Nat
  | ready => none
  | waiting ping => some ping.due

/-- Goes on with a probe.  One without latency ends as soon as it starts. -/
def advance (m : Manager) : Probe → Manager × Progress Probe Probed
  | ready =>
    let (ping, m) := m.startPing
    if ping.due ≤ m.now then
      let (probed, m) := m.endPing ping
      (m, .done probed)
    else (m, .going (.waiting ping))
  | waiting ping =>
    let (probed, m) := m.endPing ping
    (m, .done probed)

end Probe

namespace Manager

/-- Writes the outcome of a probe into the health report. -/
def recordProbed (m : Manager) (probed : Probed) : Manager × HealthStatus :=
  match probed.outcome with
  | .ok () =>
    ({ m with metrics := m.metrics.recordProbe m.instant probed.latency m.threshold },
      HealthStatus.ofLatency probed.latency m.threshold)
  | .error e =>
    let text := Redaction.sanitize e.message
    let m := m.log .debug "Liveness probe failed" [("error", .str text)]
    ({ m with metrics := m.metrics.recordProbeFailure m.instant probed.latency text }, .unhealthy)

/-- Writes the outcome of a probe into the state of the connection, if it is established. -/
def settle (m : Manager) (status : HealthStatus) : Manager :=
  if m.state.isUp then { m with state := status.connectionState } else m

end Manager

namespace Check

/-- Whether a check can go on at the given time. -/
def isReady (now : Nat) : Check → Bool
  | probing probe => probe.isReady now
  | settling _ => true

/-- When a check that waits can go on. -/
def alarm : Check → Option Nat
  | probing probe => probe.alarm
  | settling _ => none

/-- Goes on with a check. -/
def advance (m : Manager) : Check → Manager × Progress Check HealthStatus
  | probing probe =>
    match probe.advance m with
    | (m, .going probe) => (m, .going (.probing probe))
    | (m, .done probed) =>
      let (m, status) := m.recordProbed probed
      (m, .going (.settling status))
  | settling status => (m.settle status, .done status)

end Check

end Storekeeper

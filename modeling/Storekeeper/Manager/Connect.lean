import Storekeeper.Manager.Monitor

/-!
# Connecting

A call that connects waits for its turn, makes attempts until one succeeds or the retry policy
gives up, and leaves the connection established or failed.  An attempt connects the store and
probes it, within a time limit; if the probe fails the store is disconnected again.  Each phase
ends before the next operation on the store, where the call has to wait, or between the writes to
the health report and to the state of the connection.
-/

namespace Storekeeper

/-- An attempt to connect. -/
structure Attempt where
  /-- The number of the attempt, counted from one. -/
  number : Nat
  /-- The failed attempts before it, in order. -/
  failures : List FailedAttempt
  /-- When its time is over. -/
  deadline : Nat
deriving DecidableEq, Repr

/-- How a sequence of attempts came to an end without a connection. -/
structure Defeat where
  /-- The number of attempts. -/
  number : Nat
  /-- The attempts before the last one, in order. -/
  failures : List FailedAttempt
  /-- The error of the last attempt. -/
  error : Error
deriving DecidableEq, Repr

/-- The last attempt of a sequence that came to an end without a connection. -/
def Defeat.last (d : Defeat) : FailedAttempt := ⟨d.number, Redaction.ofError d.error, none⟩

/-- A call that connects. -/
inductive Connect where
  | arriving
  | waiting (ticket : Nat)
  /-- About to connect the store. -/
  | opening (attempt : Attempt)
  | probing (attempt : Attempt) (probe : Probe)
  /-- About to disconnect the store after a failed probe. -/
  | closing (attempt : Attempt) (error : Error)
  /-- Waits before the attempt with the given number. -/
  | pausing (number : Nat) (failures : List FailedAttempt) (due : Nat)
  /-- About to write the success of a probe into the state of the connection. -/
  | settling (attempt : Attempt) (latency : Nat)
  /-- About to report the connection as down. -/
  | marking (defeat : Defeat)
  /-- About to count the error of the last attempt. -/
  | counting (defeat : Defeat)
  /-- Ended without a result. -/
  | crashed
deriving DecidableEq, Repr

namespace Manager

/-- The time limit of an attempt, in milliseconds. -/
def connectTimeout (m : Manager) : Nat := m.settings.connectTimeout.toNat

/-- The attempt with the given number, about to start. -/
def attempt (m : Manager) (number : Nat) (failures : List FailedAttempt) : Attempt :=
  ⟨number, failures, m.now + m.connectTimeout⟩

/-- Ends the turn of the caller that has it. -/
def leave (m : Manager) : Manager := { m with queue := m.queue.tail }

/-- What has come of a call that connects. -/
abbrev Connecting := Manager × Progress Connect (Except Error Unit)

/-- Starts the sequence of attempts, unless the connection is established. -/
def takeTurn (m : Manager) : Connecting :=
  if m.state.isUp then (m.log .debug "Database already connected" |>.leave, .done (.ok ()))
  else
    let m := { m with state := .connecting }.log .info "🔄 Connecting to database..."
      [("store", .str MemoryStore.name)]
    (m, .going (.opening (m.attempt 1 [])))

/-- Goes on after a successful probe of an attempt, and writes it into the health report. -/
def succeed (m : Manager) (a : Attempt) (latency : Nat) : Connecting :=
  ({ m with metrics := m.metrics.recordProbe m.instant latency m.threshold },
    .going (.settling a latency))

/-- Ends the sequence with an established connection. -/
def establish (m : Manager) (a : Attempt) (latency : Nat) : Connecting :=
  let m := { m with
    state := (HealthStatus.ofLatency latency m.threshold).connectionState
    attempts := a.failures }
  let m := m.log .info "✅ Successfully connected to database!"
    [("attempt", .ofNat a.number), ("response_time_ms", .ofNat latency)]
  let m := if m.settings.isMonitored then m.startMonitor else m
  (m.leave, .done (.ok ()))

/-- Ends the sequence without a connection. -/
def giveUp (m : Manager) (d : Defeat) : Connecting :=
  let text := d.last.error.text
  let m := { m.recordError text with attempts := d.failures ++ [d.last] }
  let m := m.log .error "❌ Failed to connect to database"
    [("attempts", .ofNat d.number), ("error", .str text)]
  (m.leave, .done (.error (.connection d.number)))

/-- Writes a failed attempt to the log. -/
def logFailure (m : Manager) (failure : FailedAttempt) (e : Error) : Manager :=
  m.log .warning "⚠️ Database connection attempt failed"
    [("attempt", .ofNat failure.number), ("max_attempts", .ofNat m.settings.retryPolicy.budget),
      ("retriable", .bool (RetryPolicy.isRetriable e)),
      ("delay_ms", .str (LogLine.optional (failure.delay.map fun d => toString d.toNat))),
      ("error", .str failure.error.text)]

/-- Goes on after a failed attempt. -/
def fail (m : Manager) (a : Attempt) (e : Error) : Connecting :=
  match m.settings.retryPolicy.sequel (m.chance.draw m.store.connectAttempts) a.number e with
  | .again d =>
    let failure : FailedAttempt := ⟨a.number, Redaction.ofError e, some d⟩
    (m.logFailure failure e,
      .going (.pausing (a.number + 1) (a.failures ++ [failure]) (m.now + d.toNat)))
  | .surrender =>
    let d : Defeat := ⟨a.number, a.failures, e⟩
    ({ m.logFailure d.last e with state := .failed }, .going (.marking d))
  | .crash => (m.leave, .going .crashed)

/-- Goes on after the probe of an attempt. -/
def conclude (m : Manager) (a : Attempt) (probed : Probed) : Connecting :=
  match probed.outcome with
  | .ok () => m.succeed a probed.latency
  | .error e => (m, .going (.closing a e))

/-- The error of an attempt whose time was over. -/
def attemptTimeout (m : Manager) : Error :=
  .store .timedOut s!"connection attempt timed out after {m.connectTimeout}ms"

end Manager

namespace Connect

/-- Whether the call can go on. -/
def isReady (m : Manager) : Connect → Bool
  | waiting ticket => m.queue.head? == some ticket
  | probing a probe => probe.isReady m.now || a.deadline ≤ m.now
  | pausing _ _ due => due ≤ m.now
  | crashed => false
  | _ => true

/-- When a call that waits for the time to pass can go on. -/
def alarm : Connect → Option Nat
  | probing a probe => probe.alarm.map fun due => min due a.deadline
  | pausing _ _ due => some due
  | _ => none

/-- Goes on with the call.  A probe that is over counts even at the deadline. -/
def advance (m : Manager) : Connect → Manager.Connecting
  | arriving =>
    ({ m with queue := m.queue ++ [m.fresh], fresh := m.fresh + 1 }, .going (.waiting m.fresh))
  | waiting _ => m.takeTurn
  | opening a =>
    match m.openStore with
    | (.ok (), m) => (m, .going (.probing a .ready))
    | (.error e, m) => m.fail a e
  | probing a probe =>
    if probe.isReady m.now then
      match probe.advance m with
      | (m, .going probe) => (m, .going (.probing a probe))
      | (m, .done probed) => m.conclude a probed
    else m.fail a m.attemptTimeout
  | closing a e =>
    match m.closeStore with
    | (.ok (), m) => m.fail a e
    | (.error e', m) =>
      (m.log .debug "Cleanup after failed probe did not succeed"
        [("error", .str (Redaction.sanitize e'.message))]).fail a e
  | pausing number failures _ => (m, .going (.opening (m.attempt number failures)))
  | settling a latency => m.establish a latency
  | marking d => (m.markUnhealthy, .going (.counting d))
  | counting d => m.giveUp d
  | crashed => (m, .going .crashed)

end Connect

end Storekeeper

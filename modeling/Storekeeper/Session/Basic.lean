import Storekeeper.Manager.Toll
import Storekeeper.Session.Script

/-!
# Sessions

A session is a manager together with the transactions that were begun on its store under
labels, and with the observations that were not handed out yet.  `Session.act` does a simple
action: either at once, with a result, or by a call that goes on from there.
-/

namespace Storekeeper

/-- What is noted when a step of a script ends. -/
structure Stamp where
  /-- The time. -/
  time : Nat
  state : ConnectionState
  /-- The lines of the log since the step that ended before. -/
  lines : List LogLine

/-- The result of a step of a script. -/
inductive Result where
  | nothing
  | call (outcome : Outcome)
  | metrics (metrics : HealthMetrics)
  | attempts (attempts : List FailedAttempt)
  | monitor (running : Bool) (period : Nat)
  | settings (settings : Settings)
  | opened (reply : Except Error Unit)
  | closed (reply : Except Error Unit)
  | counters (store : MemoryStore)
  | documents (documents : List Json)
  | events (events : List StoreEvent)
  | begun (reply : Except Error Unit)
  | replied (op : Transaction.Operation) (reply : Except Error op.Reply)
  | dropped (found : Bool)
  | unknownLabel
  /-- The results of scripts that ran side by side. -/
  | joined (branches : List (List (Result × Stamp)))

/-- The steps of a script that ended, in order. -/
abbrev Transcript := List (Result × Stamp)

/-- How often a task may ask the runtime for leave before others go on. -/
def fullAllowance : Nat := 128

/-- A store with its manager in use. -/
structure Session where
  manager : Manager
  hook : Hook := .absent
  /-- The transactions with their labels. -/
  transactions : List (String × Transaction) := []
  /-- The lines of the log that were not handed out yet. -/
  lines : List LogLine := []
  /-- The events that were not handed out yet. -/
  events : List StoreEvent := []
  /-- How often the script may still ask the runtime for leave before others go on. -/
  allowance : Nat := fullAllowance

namespace Session

/-- Takes the observations out of the journal of the manager. -/
def absorb (s : Session) : Session :=
  let notices := s.manager.journal.reverse
  { s with
    manager := { s.manager with journal := [] }
    lines := s.lines ++ s.hook.lines notices
    events := s.events ++ s.hook.events notices }

/-- Notes the end of a step and hands out the lines of the log. -/
def stamp (s : Session) : Stamp × Session :=
  let s := s.absorb
  (⟨s.manager.now, s.manager.state, s.lines⟩, { s with lines := [] })

/-- Changes the planned failures of the store. -/
def plan (s : Session) (f : Faults → Faults) : Session :=
  let m := s.manager
  { s with manager := { m with store := { m.store with faults := f m.store.faults } } }

/-- The transaction with a label. -/
def transaction? (s : Session) (label : String) : Option Transaction :=
  (s.transactions.find? fun e => e.1 == label).map (·.2)

/-- Drops the transaction with a label. -/
def forget (s : Session) (label : String) : Session :=
  { s with transactions := s.transactions.filter fun e => e.1 != label }

/-- Puts a transaction under a label, in the place of an earlier one. -/
def remember (s : Session) (label : String) (tx : Transaction) : Session :=
  { s with transactions := (label, tx) :: (s.forget label).transactions }

/-- What has come of an action: a result, or a call that goes on. -/
abbrev Started := Session × (Result ⊕ Call)

/-- Begins a transaction under a label. -/
def begin (s : Session) (label : String) (overrides : Transaction.Overrides) : Started :=
  match s.manager.begin (overrides.merge {}) with
  | (.ok tx, m) => ({ s with manager := m }.remember label tx, .inl (.begun (.ok ())))
  | (.error e, m) => ({ s with manager := m }, .inl (.begun (.error e)))

/-- Performs an operation on the transaction with a label. -/
def perform (s : Session) (label : String) (op : Transaction.Operation) : Started :=
  match s.transaction? label with
  | none => (s, .inl .unknownLabel)
  | some tx =>
    let (reply, tx, m) := s.manager.perform tx op
    ({ s with manager := m }.remember label tx, .inl (.replied op reply))

/-- Asks the runtime for leave. -/
def spend (s : Session) (toll : Nat) : Session := { s with allowance := s.allowance - toll }

/-- Lets the script ask for leave again. -/
def resume (s : Session) : Session := { s with allowance := fullAllowance }

/-- Hands out the events. -/
def takeEvents (s : Session) : Started :=
  let s := s.absorb
  ({ s with events := [] }, .inl (.events s.events))

/-- Does an action or starts with it. -/
def act (s : Session) : Action → Started
  | .planConnect fault => (s.plan fun f => { f with connect := fault }, .inl .nothing)
  | .planPing fault => (s.plan fun f => { f with ping := fault }, .inl .nothing)
  | .planDisconnect fault => (s.plan fun f => { f with disconnect := fault }, .inl .nothing)
  | .planLatency time => (s.plan fun f => { f with latency := time }, .inl .nothing)
  | .start => (s, .inr .start)
  | .connect => (s, .inr (.connect false .arriving))
  | .stop => (s, .inr .stop)
  | .disconnect => (s, .inr (.disconnect false (.stopping .asked)))
  | .stopMonitor => (s, .inr (.stopMonitor .asked))
  | .checkHealth => (s, .inr (.checkHealth (.probing .ready)))
  | .askStatus => (s, .inr (.askStatus .ready))
  | .metrics => (s, .inl (.metrics s.manager.metrics))
  | .attempts => (s, .inl (.attempts s.manager.attempts))
  | .monitor => (s, .inl (.monitor s.manager.isMonitored s.manager.period))
  | .describe => (s, .inl (.settings s.manager.settings))
  | .maintain task => (s, .inr (.maintain task))
  | .run overrides items =>
    (s, .inr (.ofWork s.manager overrides (WorkItem.work items.length items)))
  | .openStore =>
    let (reply, m) := s.manager.openStore
    ({ s with manager := m }, .inl (.opened reply))
  | .closeStore =>
    let (reply, m) := s.manager.closeStore
    ({ s with manager := m }, .inl (.closed reply))
  | .pingStore => (s, .inr (.ping .ready))
  | .counters => (s, .inl (.counters s.manager.store))
  | .documents collection => (s, .inl (.documents (s.manager.store.tables.documents collection)))
  | .events => s.takeEvents
  | .sleep time => (s, .inr (.sleep (s.manager.now + time)))
  | .begin label overrides => s.begin label overrides
  | .perform label op => s.perform label op
  | .pause label time =>
    match s.transaction? label with
    | none => (s, .inl .unknownLabel)
    | some _ => (s, .inr (.sleep (s.manager.now + time)))
  | .drop label => (s.forget label, .inl (.dropped (s.transaction? label).isSome))

end Session

end Storekeeper

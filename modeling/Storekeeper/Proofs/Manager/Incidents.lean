import Storekeeper.Proofs.Manager.Frame

/-!
# What happens to the operations on a store

An operation on a store is counted when it reaches the store and reported to the hook when it
returns.  A probe is the only one that takes time, so that it may also be cut off in between.
`Incident` is the type of what happens to an operation, and for each step of the manager, of its
calls and of its loops the incidents are read off what the operations return.  The ledger of a
manager is what the store has counted and what the hook was told, and each step enters exactly its
incidents into it: `Call.ledger_advance` and `Manager.ledger_advanceLoop`.
-/

namespace Storekeeper

/-! ### Incidents -/

/-- An operation on a store that ran to its end, with what it returned. -/
inductive Completion where
  | connect (reply : Except Error Unit)
  | disconnect (reply : Except Error Unit)
  | ping (ping : Ping) (probed : Probed)
  | begin (reply : Except Error Transaction)
  | perform (transaction : String) (op : Transaction.Operation) (reply : Except Error op.Reply)

namespace Completion

/-- The name of the operation. -/
def operation : Completion → String
  | connect _ => "connect"
  | disconnect _ => "disconnect"
  | ping _ _ => "ping"
  | begin _ => "begin_transaction"
  | perform _ op _ => op.name

/-- Whether the operation returned without an error. -/
def succeeded : Completion → Bool
  | connect reply | disconnect reply => reply.isOk
  | ping _ probed => probed.outcome.isOk
  | begin reply => reply.isOk
  | perform _ _ reply => reply.isOk

/-- The collection that the operation is about. -/
def collection? : Completion → Option String
  | perform _ op _ => op.collection?
  | _ => none

/-- The transaction to which the operation belongs. -/
def transaction? : Completion → Option String
  | perform transaction _ _ => some transaction
  | _ => none

/-- How long the operation took, in milliseconds. -/
def elapsed : Completion → Nat
  | ping _ probed => probed.latency
  | _ => 0

/-- What the hook is to be told. -/
def event (c : Completion) : StoreEvent where
  store := MemoryStore.name
  operation := c.operation
  collection := c.collection?
  transaction := c.transaction?
  elapsed := c.elapsed
  success := c.succeeded

end Completion

/-- What happens to an operation on a store. -/
inductive Incident where
  /-- A probe starts. -/
  | started (ping : Ping)
  /-- A probe is cut off before it returns. -/
  | cutOff (ping : Ping)
  | completed (completion : Completion)

/-- What a store has counted, and what its hook was told. -/
structure Ledger where
  events : List StoreEvent
  connects : Nat
  pings : Nat
  begins : Nat

namespace Ledger

/-- The ledger after one more incident. -/
def add (l : Ledger) : Incident → Ledger
  | .started _ => { l with pings := l.pings + 1 }
  | .cutOff _ => l
  | .completed c =>
    let l := { l with events := l.events ++ [c.event] }
    match c with
    | .connect _ => { l with connects := l.connects + 1 }
    | .begin _ => { l with begins := l.begins + 1 }
    | .disconnect _ | .ping _ _ | .perform _ _ _ => l

/-- The ledger after some incidents. -/
def addAll (l : Ledger) (incidents : List Incident) : Ledger := incidents.foldl add l

theorem addAll_cons (l : Ledger) (i : Incident) (incidents : List Incident) :
  l.addAll (i :: incidents) = (l.add i).addAll incidents
  := rfl

theorem addAll_append (l : Ledger) (incidents incidents' : List Incident) :
  l.addAll (incidents ++ incidents') = (l.addAll incidents).addAll incidents'
  := List.foldl_append

end Ledger

/-! ### Operations on the store -/

namespace Manager

/-- What the store has counted, and what its hook was told. -/
def ledger (m : Manager) : Ledger where
  events := Hook.collect.events m.journal.reverse
  connects := m.store.connectAttempts
  pings := m.store.pings
  begins := m.store.transactions

@[simp]
theorem ledger_write (m : Manager) (line : LogLine) :
  (m.write line).ledger = m.ledger
  := by simp [ledger, write, Hook.events]

@[simp]
theorem ledger_log (m : Manager) (level : Level) (message : String)
    (fields : List (String × Json)) :
  (m.log level message fields).ledger = m.ledger
  := m.ledger_write _

theorem ledger_emit (m : Manager) (e : StoreEvent) :
  (m.emit e).ledger = { m.ledger with events := m.ledger.events ++ [e] }
  := by simp [ledger, emit, Hook.events]

theorem ledger_emitCall (m : Manager) (operation : String) (elapsed : Nat)
    (reply : Except Error Unit) :
  (m.emitCall operation elapsed reply).ledger
    = { m.ledger with
        events := m.ledger.events ++
          [{ store := MemoryStore.name
             operation := operation
             elapsed := elapsed
             success := reply.isOk }] }
  := m.ledger_emit _

@[simp]
theorem ledger_recordFailure (m : Manager) (transaction : Option String) (failure : Failure) :
  (m.recordFailure transaction failure).ledger = m.ledger
  := m.ledger_log _ _ _

/-- What happens when the store is connected. -/
def opens (m : Manager) : List Incident := [.completed (.connect m.openStore.1)]

theorem ledger_openStore (m : Manager) :
  m.openStore.2.ledger = m.ledger.addAll m.opens
  := by
  simp only [opens, openStore, ledger_emitCall]
  unfold MemoryStore.connect
  split
  · rfl
  · rfl

/-- What happens when the store is disconnected. -/
def closes (m : Manager) : List Incident := [.completed (.disconnect m.closeStore.1)]

theorem ledger_closeStore (m : Manager) :
  m.closeStore.2.ledger = m.ledger.addAll m.closes
  := by
  have hs : m.store.disconnect.2 = { m.store with connected := false } := by
    simp only [MemoryStore.disconnect]
    split
    · rfl
    · rfl
  simp only [closes, closeStore, ledger_emitCall, hs]
  rfl

theorem ledger_endPing (m : Manager) (ping : Ping) :
  (m.endPing ping).2.ledger = m.ledger.add (.completed (.ping ping (m.endPing ping).1))
  := m.ledger_emitCall _ _ _

/-- What happens when a transaction is begun. -/
def begins (m : Manager) (options : Transaction.Options) : List Incident :=
  [.completed (.begin (m.begin options).1)]

theorem ledger_begin (m : Manager) (options : Transaction.Options) :
  (m.begin options).2.ledger = m.ledger.addAll (m.begins options)
  := by
  simp only [begins, begin, MemoryStore.begin_snd]
  split
  · simp only [ledger_emitCall, ledger_log]
    rfl
  · exact ledger_emitCall _ _ _ _

/-- What happens when an operation of a transaction is performed: one on a finished transaction is
refused. -/
def performs (m : Manager) (tx : Transaction) (op : Transaction.Operation) : List Incident :=
  if tx.finished then [] else [.completed (.perform tx.name op (m.perform tx op).1)]

theorem ledger_perform (m : Manager) (tx : Transaction) (op : Transaction.Operation) :
  (m.perform tx op).2.2.ledger = m.ledger.addAll (m.performs tx op)
  := by
  simp only [performs, perform]
  split
  · rfl
  · exact ledger_emit _ _

end Manager

/-! ### Probes -/

/-- What happens to a probe with its next step. -/
def Probe.incidents (m : Manager) (probe : Probe) : List Incident :=
  let ping : Ping :=
    match probe with
    | .ready => m.startPing.1
    | .waiting ping => ping
  (if probe = .ready then [.started ping] else []) ++
    match (probe.advance m).2 with
    | .going _ => []
    | .done probed => [.completed (.ping ping probed)]

theorem Probe.ledger_advance (m : Manager) (probe : Probe) :
  (probe.advance m).1.ledger = m.ledger.addAll (probe.incidents m)
  := by
  cases probe with
  | ready =>
    simp only [advance, incidents]
    split
    · exact Manager.ledger_endPing _ _
    · rfl
  | waiting ping => exact m.ledger_endPing ping

namespace Manager

@[simp]
theorem ledger_recordProbed (m : Manager) (probed : Probed) :
  (m.recordProbed probed).1.ledger = m.ledger
  := by
  obtain ⟨outcome, latency⟩ := probed
  cases outcome with
  | ok u => rfl
  | error e => exact m.ledger_log _ _ _

@[simp]
theorem ledger_settle (m : Manager) (status : HealthStatus) :
  (m.settle status).ledger = m.ledger
  := by
  unfold settle
  split
  · rfl
  · rfl

@[simp]
theorem ledger_reportHealth (m : Manager) (status : HealthStatus) :
  (m.reportHealth status).ledger = m.ledger
  := by
  cases status with
  | healthy | degraded | unhealthy => exact m.ledger_log _ _ _

end Manager

namespace Check

/-- What happens with the next step of a check. -/
def incidents (m : Manager) : Check → List Incident
  | probing probe => probe.incidents m
  | settling _ => []

theorem ledger_advance (m : Manager) (check : Check) :
  (check.advance m).1.ledger = m.ledger.addAll (check.incidents m)
  := by
  have hs := check.step_advance m
  generalize check.advance m = step at hs
  cases hs with
  | waits h => exact Probe.ledger_advance m _
  | reports h => exact (Manager.ledger_recordProbed _ _).trans (Probe.ledger_advance m _)
  | settles status => exact m.ledger_settle status

end Check

/-- What happens with the next step of a loop. -/
def MonitorLoop.incidents (m : Manager) (l : MonitorLoop) : List Incident :=
  match l.phase with
  | .starting | .waiting _ | .reporting _ _ => []
  | .checking _ check => check.incidents m

namespace Manager

theorem ledger_advanceRegularCheck (m : Manager) (id next : Nat) (check : Check) :
  (m.advanceRegularCheck id next check).ledger = m.ledger.addAll (check.incidents m)
  := by
  have hc := check.ledger_advance m
  unfold advanceRegularCheck
  generalize check.advance m = step at hc
  obtain ⟨m', progress⟩ := step
  rw [← hc]
  cases progress with
  | going check' => rfl
  | done status => rfl

theorem ledger_advanceLoop (m : Manager) (l : MonitorLoop) :
  (m.advanceLoop l).ledger = m.ledger.addAll (l.incidents m)
  := by
  obtain ⟨id, stopping, phase⟩ := l
  cases phase with
  | starting =>
    simp only [advanceLoop]
    split
    · rfl
    · rfl
  | waiting tick =>
    simp only [advanceLoop]
    split
    · rfl
    · rfl
  | checking next check => exact m.ledger_advanceRegularCheck id next check
  | reporting next status => exact m.ledger_reportHealth status

end Manager

/-! ### Runs of units of work -/

namespace Run

variable {α : Type}

/-- What happens with the next step of a run. -/
def incidents (m : Manager) : Run α → List Incident
  | beginning options _ => m.begins options
  | performing r op _ => m.performs r.transaction op
  | sleeping _ _ _ => []
  | committing r _ => m.performs r.transaction .commit
  | aborting r _ => m.performs r.transaction .rollback

@[simp]
theorem ledger_proceed (m : Manager) (r : Running) (work : Work α) :
  (proceed m r work).1.ledger = m.ledger
  := by
  induction work generalizing m r with
  | finish result =>
    cases result with
    | ok value => rfl
    | error failure => rfl
  | perform op next ih => rfl
  | sleep time next ih => rfl
  | log line next ih => exact (ih (m.write line) r).trans (m.ledger_write line)
  | report report next ih => exact ih m _

@[simp]
theorem ledger_fail (m : Manager) (r : Running) (failure : Failure) :
  (fail m r failure : Step α).1.ledger = m.ledger
  := m.ledger_recordFailure _ _

theorem ledger_start (m : Manager) (options : Transaction.Options) (work : Work α) :
  (start m options work).1.ledger = m.ledger.addAll (m.begins options)
  := by
  have hb := m.ledger_begin options
  unfold start
  generalize m.begin options = answer at hb
  obtain ⟨reply, m'⟩ := answer
  rw [← hb]
  cases reply with
  | ok tx => exact (ledger_proceed _ _ _).trans (m'.ledger_log _ _ _)
  | error e => exact m'.ledger_recordFailure _ _

theorem ledger_commit (m : Manager) (r : Running) (value : α) :
  (commit m r value).1.ledger = m.ledger.addAll (m.performs r.transaction .commit)
  := by
  have hp := m.ledger_perform r.transaction .commit
  unfold commit
  generalize m.perform r.transaction .commit = answer at hp
  obtain ⟨reply, tx, m'⟩ := answer
  rw [← hp]
  cases reply with
  | ok u => exact m'.ledger_log _ _ _
  | error e => exact ledger_fail m' r _

theorem ledger_abort (m : Manager) (r : Running) (failure : Failure) :
  (abort m r failure : Step α).1.ledger
    = m.ledger.addAll (m.performs r.transaction .rollback)
  := by
  have hp := m.ledger_perform r.transaction .rollback
  unfold abort
  generalize m.perform r.transaction .rollback = answer at hp
  obtain ⟨reply, tx, m'⟩ := answer
  rw [← hp]
  cases reply with
  | ok u => exact ledger_fail m' r _
  | error e => exact (ledger_fail _ r _).trans (m'.ledger_log _ _ _)

theorem ledger_advance (m : Manager) (run : Run α) :
  (run.advance m).1.ledger = m.ledger.addAll (run.incidents m)
  := by
  cases run with
  | beginning options work => exact ledger_start m options work
  | performing r op next =>
    exact (ledger_proceed _ _ _).trans (m.ledger_perform r.transaction op)
  | sleeping r due next =>
    simp only [advance]
    split
    · exact ledger_proceed m r next
    · rfl
  | committing r value => exact ledger_commit m r value
  | aborting r failure => exact ledger_abort m r failure

end Run

namespace Maintenance

@[simp]
theorem ledger_start (m : Manager) (task : Maintenance) :
  (task.start m).1.ledger = m.ledger
  := by
  simp only [start]
  split
  · cases task with
    | reset => exact m.ledger_log _ _ _
    | seed => rfl
  · exact m.ledger_log _ _ _

@[simp]
theorem ledger_finish (m : Manager) (task : Maintenance) (outcome : Except Failure Nat) :
  (task.finish m outcome).ledger = m.ledger
  := by
  cases outcome with
  | error failure => rfl
  | ok n =>
    cases task with
    | reset | seed => exact m.ledger_log _ _ _

end Maintenance

/-! ### Connecting and disconnecting -/

namespace Manager

@[simp]
theorem ledger_startMonitor (m : Manager) :
  m.startMonitor.ledger = m.ledger
  := by
  unfold startMonitor
  split
  · exact m.ledger_log _ _ _
  · exact m.ledger_log _ _ _

@[simp]
theorem ledger_takeTurn (m : Manager) :
  m.takeTurn.1.ledger = m.ledger
  := by
  unfold takeTurn
  split
  · exact m.ledger_log _ _ _
  · exact ledger_log _ _ _ _

@[simp]
theorem ledger_establish (m : Manager) (a : Attempt) (latency : Nat) :
  (m.establish a latency).1.ledger = m.ledger
  := by
  simp only [establish]
  split
  · exact (ledger_startMonitor _).trans (ledger_log _ _ _ _)
  · exact ledger_log _ _ _ _

@[simp]
theorem ledger_fail (m : Manager) (a : Attempt) (e : Error) :
  (m.fail a e).1.ledger = m.ledger
  := by
  unfold fail
  split
  · exact m.ledger_log _ _ _
  · exact m.ledger_log _ _ _
  · rfl

@[simp]
theorem ledger_conclude (m : Manager) (a : Attempt) (probed : Probed) :
  (m.conclude a probed).1.ledger = m.ledger
  := by
  unfold conclude
  split
  · rfl
  · rfl

@[simp]
theorem ledger_giveUp (m : Manager) (d : Defeat) :
  (m.giveUp d).1.ledger = m.ledger
  := ledger_log _ _ _ _

@[simp]
theorem ledger_logEnd (m : Manager) (loop : Nat) :
  (m.logEnd loop).ledger = m.ledger
  := by
  simp only [logEnd]
  split
  · exact (ledger_log _ _ _ _).trans (m.ledger_log _ _ _)
  · exact m.ledger_log _ _ _

end Manager

namespace Connect

/-- What happens with the next step of a call that connects. -/
def incidents (m : Manager) : Connect → List Incident
  | arriving | waiting _ | pausing _ _ _ => []
  | settling _ _ | marking _ | counting _ | crashed => []
  | opening _ => m.opens
  | probing _ probe =>
    if probe.isReady m.now then probe.incidents m
    else
      match probe with
      | .ready => []
      | .waiting ping => [.cutOff ping]
  | closing _ _ => m.closes

theorem ledger_advance (m : Manager) (phase : Connect) :
  (phase.advance m).1.ledger = m.ledger.addAll (phase.incidents m)
  := by
  cases phase with
  | arriving | pausing number failures due | marking d | crashed => rfl
  | waiting ticket => exact m.ledger_takeTurn
  | settling a latency => exact m.ledger_establish a latency
  | counting d => exact m.ledger_giveUp d
  | opening a =>
    have ho := m.ledger_openStore
    simp only [advance, incidents]
    generalize m.openStore = step at ho
    obtain ⟨reply, m'⟩ := step
    rw [← ho]
    cases reply with
    | ok u => rfl
    | error e => exact m'.ledger_fail a e
  | probing a probe =>
    simp only [advance, incidents]
    split
    · have hp := probe.ledger_advance m
      generalize probe.advance m = step at hp
      obtain ⟨m', progress⟩ := step
      rw [← hp]
      cases progress with
      | going probe' => rfl
      | done p => exact m'.ledger_conclude a p
    · rw [m.ledger_fail]
      cases probe with
      | ready => rfl
      | waiting ping => rfl
  | closing a e =>
    have hc := m.ledger_closeStore
    simp only [advance, incidents]
    generalize m.closeStore = step at hc
    obtain ⟨reply, m'⟩ := step
    rw [← hc]
    cases reply with
    | ok u => exact m'.ledger_fail a e
    | error e' => exact (Manager.ledger_fail _ a e).trans (m'.ledger_log _ _ _)

end Connect

@[simp]
theorem StopMonitor.ledger_advance (m : Manager) (phase : StopMonitor) :
  (phase.advance m).1.ledger = m.ledger
  := by
  cases phase with
  | asked =>
    simp only [advance]
    split
    · rfl
    · exact m.ledger_log _ _ _
  | awaiting loop => exact m.ledger_logEnd loop

theorem Manager.ledger_release (m : Manager) :
  m.release.ledger = m.ledger.addAll m.closes
  := by
  have hc := m.ledger_closeStore
  unfold release
  generalize m.closeStore = step at hc
  obtain ⟨reply, m'⟩ := step
  rw [← hc]
  cases reply with
  | ok u => rfl
  | error e => exact m'.ledger_log _ _ _

namespace Disconnect

/-- What happens with the next step of a call that disconnects. -/
def incidents (m : Manager) : Disconnect → List Incident
  | stopping _ | marking => []
  | closing => m.closes

theorem ledger_advance (m : Manager) (phase : Disconnect) :
  (phase.advance m).1.ledger = m.ledger.addAll (phase.incidents m)
  := by
  cases phase with
  | stopping phase =>
    have h := phase.ledger_advance m
    simp only [advance]
    generalize phase.advance m = step at h
    obtain ⟨m', progress⟩ := step
    cases progress with
    | going phase' => exact h
    | done u => exact h
  | closing => exact m.ledger_release
  | marking => exact Manager.ledger_log _ _ _ _

end Disconnect

/-! ### Calls -/

namespace Call

/-- What happens with the next step of a call. -/
def incidents (m : Manager) : Call → List Incident
  | start | stop | stopMonitor _ | maintain _ | sleep _ => []
  | connect _ phase => phase.incidents m
  | disconnect _ phase => phase.incidents m
  | checkHealth check => check.incidents m
  | askStatus probe | ping probe => probe.incidents m
  | run phase | maintaining _ phase => phase.incidents m

theorem ledger_lift {φ ρ : Type} (phase : φ → Call) (result : Manager → ρ → Manager × Outcome)
    (hr : ∀ m r, (result m r).1.ledger = m.ledger) (step : Manager × Progress φ ρ) :
  (lift phase result step).1.ledger = step.1.ledger
  := by
  obtain ⟨m, progress⟩ := step
  cases progress with
  | going p => rfl
  | done r => exact hr m r

@[simp]
theorem ledger_connectResult (announced : Bool) (m : Manager) (r : Except Error Unit) :
  (connectResult announced m r).1.ledger = m.ledger
  := by
  unfold connectResult
  split
  · split
    · exact m.ledger_log _ _ _
    · rfl
  · rfl

@[simp]
theorem ledger_disconnectResult (announced : Bool) (m : Manager) :
  (disconnectResult announced m).1.ledger = m.ledger
  := by
  unfold disconnectResult
  split
  · exact m.ledger_log _ _ _
  · rfl

/-- A step of a call enters what happens with it into the ledger, and nothing else. -/
theorem ledger_advance (m : Manager) (c : Call) :
  (c.advance m).1.ledger = m.ledger.addAll (c.incidents m)
  := by
  cases c with
  | start =>
    simp only [advance, advanceStart]
    split
    · rfl
    · exact m.ledger_log _ _ _
  | connect announced phase =>
    exact (ledger_lift _ _ (ledger_connectResult announced) _).trans (phase.ledger_advance m)
  | stop => exact m.ledger_log _ _ _
  | disconnect announced phase =>
    have hl := ledger_lift (disconnect announced) (fun m _ => disconnectResult announced m)
      (fun m _ => ledger_disconnectResult announced m) (phase.advance m)
    exact hl.trans (phase.ledger_advance m)
  | stopMonitor phase =>
    exact (ledger_lift _ _ (fun _ _ => rfl) _).trans (phase.ledger_advance m)
  | checkHealth check =>
    exact (ledger_lift _ _ (fun _ _ => rfl) _).trans (check.ledger_advance m)
  | askStatus probe =>
    exact (ledger_lift _ _ (fun _ _ => rfl) _).trans (probe.ledger_advance m)
  | ping probe =>
    exact (ledger_lift _ _ (fun _ _ => rfl) _).trans (probe.ledger_advance m)
  | run phase =>
    exact (ledger_lift _ _ (fun _ _ => rfl) _).trans (phase.ledger_advance m)
  | maintain task =>
    have hl := ledger_lift (maintaining task) (maintenanceResult task)
      (fun m r => task.ledger_finish m r.outcome) (task.start m)
    exact hl.trans (task.ledger_start m)
  | maintaining task phase =>
    have hl := ledger_lift (maintaining task) (maintenanceResult task)
      (fun m r => task.ledger_finish m r.outcome) (phase.advance m)
    exact hl.trans (phase.ledger_advance m)
  | sleep due => rfl

end Call

end Storekeeper

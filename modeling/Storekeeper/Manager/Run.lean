import Storekeeper.Manager.Basic
import Storekeeper.Transaction.Work

/-!
# Running units of work

A unit of work is run inside a transaction and within a time limit.  If it ends with a value the
transaction is committed, and otherwise it is rolled back.  A run that fails counts as one error
in the health report, in redacted form, while its caller receives the failure as it is.

The time limit only cuts off a unit of work that sleeps: one that ends exactly at the deadline
ends in time.
-/

namespace Storekeeper

/-- A transaction with a unit of work running in it. -/
structure Running where
  options : Transaction.Options
  /-- When the run started. -/
  started : Nat
  /-- When the time for the unit of work is over. -/
  deadline : Nat
  transaction : Transaction
  /-- What the unit of work has reported, in order. -/
  reports : List Report := []

/-- A call that runs a unit of work. -/
inductive Run (α : Type) where
  /-- About to begin the transaction. -/
  | beginning (options : Transaction.Options) (work : Work α)
  /-- About to perform an operation. -/
  | performing (run : Running) (op : Transaction.Operation)
      (next : Except Error op.Reply → Work α)
  | sleeping (run : Running) (due : Nat) (next : Work α)
  /-- About to commit the transaction. -/
  | committing (run : Running) (value : α)
  /-- About to roll the transaction back. -/
  | aborting (run : Running) (failure : Failure)

/-- The result of a run. -/
structure RunResult (α : Type) where
  reports : List Report := []
  outcome : Except Failure α

/-- Counts and logs the failure of a run. -/
def Manager.recordFailure (m : Manager) (transaction : Option String) (failure : Failure) :
    Manager :=
  let text := Redaction.sanitize failure.message
  (m.log .error "Transaction failed"
    [("transaction_id", .str (LogLine.optional transaction)), ("error", .str text)]).recordError text

namespace Run

variable {α : Type}

/-- What has come of a run. -/
abbrev Step (α : Type) := Manager × Progress (Run α) (RunResult α)

/-- Goes on with a unit of work up to where it performs an operation, sleeps or ends. -/
def proceed (m : Manager) (r : Running) : Work α → Step α
  | .finish (.ok value) => (m, .going (.committing r value))
  | .finish (.error failure) => (m, .going (.aborting r failure))
  | .perform op next => (m, .going (.performing r op next))
  | .sleep time next => (m, .going (.sleeping r (m.now + time) next))
  | .log line next => proceed (m.write line) r next
  | .report report next => proceed m { r with reports := r.reports ++ [report] } next

/-- Ends a run with a failure. -/
def fail (m : Manager) (r : Running) (failure : Failure) : Step α :=
  (m.recordFailure (some r.transaction.name) failure, .done ⟨r.reports, .error failure⟩)

/-- Begins the transaction of a run. -/
def start (m : Manager) (options : Transaction.Options) (work : Work α) : Step α :=
  match m.begin options with
  | (.ok tx, m) =>
    let m := m.log .debug "Started transaction"
      [("transaction_id", .str tx.name), ("isolation_level", .str options.isolation.name),
        ("timeout_ms", .ofNat options.timeout)]
    let r : Running :=
      { options := options, started := m.now, deadline := m.now + options.timeout, transaction := tx }
    proceed m r work
  | (.error e, m) =>
    (m.recordFailure none (.error e), .done { outcome := .error (.error e) })

/-- Commits the transaction of a run. -/
def commit (m : Manager) (r : Running) (value : α) : Step α :=
  match m.perform r.transaction .commit with
  | (.ok _, _, m) =>
    (m.log .debug "Transaction committed"
      [("transaction_id", .str r.transaction.name), ("duration_ms", .ofNat (m.now - r.started))],
      .done ⟨r.reports, .ok value⟩)
  | (.error e, _, m) => fail m r (.error e)

/-- Rolls the transaction of a run back. -/
def abort (m : Manager) (r : Running) (failure : Failure) : Step α :=
  match m.perform r.transaction .rollback with
  | (.ok _, _, m) => fail m r failure
  | (.error e, _, m) =>
    fail (m.log .warning "Failed to roll back transaction"
      [("transaction_id", .str r.transaction.name),
        ("error", .str (Redaction.sanitize e.message))]) r failure

/-- Whether the run can go on at the given time. -/
def isReady (now : Nat) : Run α → Bool
  | sleeping r due _ => due ≤ now || r.deadline ≤ now
  | _ => true

/-- When a run that sleeps can go on. -/
def alarm : Run α → Option Nat
  | sleeping r due _ => some (min due r.deadline)
  | _ => none

/-- Goes on with a run. -/
def advance (m : Manager) : Run α → Step α
  | beginning options work => start m options work
  | performing r op next =>
    let (reply, tx, m) := m.perform r.transaction op
    proceed m { r with transaction := tx } (next reply)
  | sleeping r due next =>
    if due ≤ m.now then proceed m r next
    else (m, .going (.aborting r (.error (.transactionTimeout r.options.timeout))))
  | committing r value => commit m r value
  | aborting r failure => abort m r failure

end Run

end Storekeeper

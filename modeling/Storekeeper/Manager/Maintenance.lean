import Storekeeper.Manager.Run
import Storekeeper.Record.Defaults

/-!
# Maintenance

Two tasks change many documents in one transaction: `reset` removes all documents of the known
collections, and `seed` inserts the default records that are not present.  Each is permitted in
certain environments only, and where it is not it leaves everything as it was but for a line of
the log.
-/

namespace Storekeeper

/-- A maintenance task. -/
inductive Maintenance where
  | reset
  | seed
deriving DecidableEq, Repr

namespace Maintenance

/-- The name of a task. -/
def name : Maintenance → String
  | reset => "reset_all"
  | seed => "seed_defaults"

/-- Where a task is permitted. -/
def permitted : Maintenance → List Environment
  | reset => [.test]
  | seed => [.development, .test]

/-- Removes the documents of the given collections and ends with their number, to which `removed`
is added. -/
def clearAll (removed : Nat) : List String → Work Nat
  | [] => .finish (.ok removed)
  | collection :: rest =>
    .require (.deleteAll collection) fun n =>
      .log ⟨.debug, "Cleared collection",
          [("collection", .str collection), ("removed", .ofNat n)]⟩
        (clearAll (removed + n) rest)

/-- Inserts those of the given records that are not present and ends with their number, to which
`inserted` is added. -/
def insertMissing (inserted : Nat) : List StoredRecord → Work Nat
  | [] => .finish (.ok inserted)
  | r :: rest =>
    .require (.find ⟨r.collection, r.id⟩) fun
      | some _ =>
        .log ⟨.debug, "Seed record already present",
            [("collection", .str r.collection), ("id", .str r.id)]⟩
          (insertMissing inserted rest)
      | none =>
        .require (.insert ⟨r.collection, r.id⟩ r.document) fun _ =>
          insertMissing (inserted + 1) rest

/-- The unit of work of a task, with records created at `now`. -/
def work (now : Instant) : Maintenance → Work Nat
  | reset => clearAll 0 Record.collections
  | seed => insertMissing 0 (Record.defaults now)

/-- Starts a task, if it is permitted. -/
def start (m : Manager) (task : Maintenance) : Run.Step Nat :=
  let environment := m.settings.environment
  if task.permitted.contains environment then
    let m :=
      match task with
      | reset => m.log .warning "🧹 Resetting all database collections"
          [("environment", .str environment.name)]
      | seed => m
    (m, .going (.beginning m.settings.transactionDefaults (task.work m.instant)))
  else
    (m.log .warning "Refusing maintenance operation"
        [("operation", .str task.name), ("environment", .str environment.name)],
      .done { outcome := .error (.error (.maintenanceForbidden task.name environment)) })

/-- Writes the result of a task to the log, if it succeeded. -/
def finish (m : Manager) (task : Maintenance) (outcome : Except Failure Nat) : Manager :=
  match task, outcome with
  | _, .error _ => m
  | reset, .ok n => m.log .info "✅ Database reset complete" [("deleted", .ofNat n)]
  | seed, .ok n => m.log .info "🌱 Seeded default records"
      [("inserted", .ofNat n), ("skipped", .ofNat ((Record.defaults m.instant).length - n))]

end Maintenance

end Storekeeper

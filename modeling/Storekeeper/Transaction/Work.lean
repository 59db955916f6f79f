import Storekeeper.Journal
import Storekeeper.Store.Transaction

/-!
# Units of work

A unit of work is a program over a transaction: it performs operations, whose replies decide
how it goes on, sleeps, writes to the log, and ends with a value or a failure.  What it reports
on its way is kept for its caller, however the transaction ends.
-/

namespace Storekeeper

/-- Why a unit of work failed: by an error of the store, or for a reason of its own. -/
inductive Failure where
  | error (error : Error)
  | custom (text : String)
deriving DecidableEq, Repr

/-- The wording of a failure. -/
def Failure.message : Failure → String
  | error e => e.message
  | custom text => text

/-- A step of a unit of work that came to its end. -/
inductive Report where
  | performed (op : Transaction.Operation) (reply : Except Error op.Reply)
  | slept

/-- A unit of work that ends with a value of type `α`. -/
inductive Work (α : Type) where
  | finish (result : Except Failure α)
  | perform (op : Transaction.Operation) (next : Except Error op.Reply → Work α)
  | sleep (time : Nat) (next : Work α)
  | log (line : LogLine) (next : Work α)
  | report (report : Report) (next : Work α)

namespace Work

/-- The unit of work that fails with an error. -/
def fail {α : Type} (e : Error) : Work α := finish (.error (.error e))

/-- Performs an operation and fails where it fails. -/
def require {α : Type} (op : Transaction.Operation) (next : op.Reply → Work α) : Work α :=
  perform op fun
    | .ok reply => next reply
    | .error e => fail e

end Work

end Storekeeper

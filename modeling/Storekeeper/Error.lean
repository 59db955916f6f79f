import Storekeeper.Environment

/-!
# Errors

Every way in which an operation can fail is a constructor of `Error`, and `Error.message` is
the only place where its wording is decided.  A failure reported by a store carries a coarse
classification, by which the retry policy recognises the transient ones.
-/

namespace Storekeeper

/-- Coarse classification of a failure reported by a store. -/
inductive StoreErrorKind where
  | connectionRefused
  | hostNotFound
  | timedOut
  | connectionReset
  | connectionTerminated
  | authentication
  | integrity
  | other
deriving DecidableEq, Repr

namespace StoreErrorKind

/-- All kinds, in order. -/
def all : List StoreErrorKind :=
  [connectionRefused, hostNotFound, timedOut, connectionReset, connectionTerminated,
    authentication, integrity, other]

/-- The name of a kind. -/
def name : StoreErrorKind → String
  | connectionRefused => "ConnectionRefused"
  | hostNotFound => "HostNotFound"
  | timedOut => "TimedOut"
  | connectionReset => "ConnectionReset"
  | connectionTerminated => "ConnectionTerminated"
  | authentication => "Authentication"
  | integrity => "Integrity"
  | other => "Other"

/-- Whether a kind describes a hiccup of the network and not a rejected request. -/
def isTransient : StoreErrorKind → Bool
  | connectionRefused | hostNotFound | timedOut | connectionReset | connectionTerminated => true
  | authentication | integrity | other => false

end StoreErrorKind

/-- Why an operation failed. -/
inductive Error where
  /-- The settings are missing, unreadable or inconsistent. -/
  | config (text : String)
  /-- Connecting was given up after so many attempts. -/
  | connection (attempts : Nat)
  /-- The store reported a failure. -/
  | store (kind : StoreErrorKind) (text : String)
  /-- A document with this key is present already. -/
  | duplicateKey (text : String)
  /-- The store is not connected. -/
  | notConnected
  /-- The unit of work did not end within the time allowed. -/
  | transactionTimeout (limit : Nat)
  /-- The operation is not permitted in this environment. -/
  | maintenanceForbidden (operation : String) (environment : Environment)
  /-- The connection could not be released cleanly. -/
  | disconnect (text : String)
  /-- The operation is not valid in the present state. -/
  | validation (text : String)
  /-- A value has no representation in the wanted form. -/
  | serialization (text : String)
deriving DecidableEq, Repr

namespace Error

/-- The wording of an error. -/
def message : Error → String
  | config text => s!"Configuration error: {text}"
  | connection attempts => s!"Failed to connect to the database after {attempts} attempts"
  | store _ text => s!"Database error: {text}"
  | duplicateKey text => s!"Duplicate key: {text}"
  | notConnected => "Database is not connected"
  | transactionTimeout limit => s!"Transaction timed out after {limit}ms"
  | maintenanceForbidden operation environment =>
    s!"{operation} is not permitted in the {environment.name} environment"
  | disconnect text => s!"Disconnect failed: {text}"
  | validation text => s!"Validation error: {text}"
  | serialization text => s!"Serialization error: {text}"

/-- Whether an error reports that time ran out. -/
def isTimeout : Error → Bool
  | transactionTimeout _ => true
  | store .timedOut _ => true
  | _ => false

end Error

/-- The environment that a text names, or the reason why it names none. -/
def Environment.parse (s : String) : Except Error Environment :=
  match Environment.ofText? s with
  | some e => .ok e
  | none =>
    .error (.config ("Unknown environment '" ++ Environment.normalize s
      ++ "', expected one of development, test, staging, production"))

end Storekeeper

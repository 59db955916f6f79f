import Storekeeper.Error

/-!
# Transaction options

A transaction runs at an isolation level and within a time limit.  Overrides replace single
options of the defaults: `Overrides.merge` takes each option from the overrides if it is
given there.
-/

namespace Storekeeper

/-- How far a transaction is shielded from others. -/
inductive IsolationLevel where
  | readUncommitted
  | readCommitted
  | repeatableRead
  | serializable
deriving DecidableEq, Repr

namespace IsolationLevel

/-- All levels, from the weakest to the strongest. -/
def all : List IsolationLevel := [readUncommitted, readCommitted, repeatableRead, serializable]

/-- The name of a level. -/
def name : IsolationLevel → String
  | readUncommitted => "ReadUncommitted"
  | readCommitted => "ReadCommitted"
  | repeatableRead => "RepeatableRead"
  | serializable => "Serializable"

/-- Whether `c` may stand anywhere in the name of a level without meaning. -/
def isSeparator (c : Char) : Bool := c == '_' || c == '-' || c == ' '

/-- The text by which a level is looked up: without separators, in small letters. -/
def normalize (s : String) : String :=
  String.ofList (Text.lower (s.toList.filter fun c => !isSeparator c))

/-- The level with the given name in small letters. -/
def ofName? (s : String) : Option IsolationLevel :=
  if s = "readuncommitted" then some readUncommitted
  else if s = "readcommitted" then some readCommitted
  else if s = "repeatableread" then some repeatableRead
  else if s = "serializable" then some serializable
  else none

/-- The level that a text names. -/
def ofText? (s : String) : Option IsolationLevel := ofName? (normalize s)

/-- The level that a text names, or the reason why it names none. -/
def parse (s : String) : Except Error IsolationLevel :=
  match ofText? s with
  | some level => .ok level
  | none => .error (.config ("Unknown transaction isolation level '" ++ s ++ "'"))

end IsolationLevel

namespace Transaction

/-- The options of one transaction, with its time limit in milliseconds. -/
structure Options where
  timeout : Nat := 10000
  isolation : IsolationLevel := .readCommitted
deriving DecidableEq, Repr

/-- Options that replace those of the defaults where they are given. -/
structure Overrides where
  timeout : Option Nat := none
  isolation : Option IsolationLevel := none
deriving DecidableEq, Repr

/-- The defaults, with the given options replaced. -/
def Overrides.merge (overrides : Overrides) (defaults : Options) : Options where
  timeout := overrides.timeout.getD defaults.timeout
  isolation := overrides.isolation.getD defaults.isolation

end Transaction

end Storekeeper

import Storekeeper.Json.Basic

/-!
# The journal

What can be observed of the keeper of a store from outside, in the order in which it happened: lines of
the log, and events, one for each operation on the store that ran to its end.  An event may in
turn be written to the log, as `StoreEvent.line` says.
-/

namespace Storekeeper

/-- How important a line of the log is. -/
inductive Level where
  | debug
  | info
  | warning
  | error
deriving DecidableEq, Repr

/-- The name of a level in the log. -/
def Level.name : Level → String
  | debug => "DEBUG"
  | info => "INFO"
  | warning => "WARN"
  | error => "ERROR"

/-- A line of the log: a message with named values. -/
structure LogLine where
  level : Level
  message : String
  fields : List (String × Json) := []

/-- A value that may be missing, as it is shown in the log. -/
def LogLine.optional : Option String → String
  | some s => "Some(" ++ s ++ ")"
  | none => "None"

/-- An operation on a store, reported when it ended. -/
structure StoreEvent where
  /-- The name of the store. -/
  store : String
  operation : String
  collection : Option String := none
  /-- The name of the transaction to which the operation belongs. -/
  transaction : Option String := none
  /-- How long the operation took, in milliseconds. -/
  elapsed : Nat := 0
  success : Bool
deriving DecidableEq, Repr

/-- An event as a line of the log. -/
def StoreEvent.line (e : StoreEvent) : LogLine where
  level := .debug
  message := "Database query"
  fields :=
    [("store", .str e.store), ("operation", .str e.operation),
      ("collection", .str (e.collection.getD "-")),
      ("transaction_id", .str (LogLine.optional e.transaction)), ("elapsed_ms", .ofNat e.elapsed),
      ("success", .bool e.success)]

/-- An observation. -/
inductive Notice where
  | line (line : LogLine)
  | event (event : StoreEvent)

/-- What becomes of the events of a store. -/
inductive Hook where
  /-- They are dropped. -/
  | absent
  /-- They are collected. -/
  | collect
  /-- They are written to the log. -/
  | trace
deriving DecidableEq, Repr

namespace Hook

/-- The lines of the log among some observations. -/
def lines (hook : Hook) (notices : List Notice) : List LogLine :=
  notices.filterMap fun
    | .line l => some l
    | .event e => if hook = trace then some e.line else none

/-- The collected events among some observations. -/
def events (hook : Hook) (notices : List Notice) : List StoreEvent :=
  notices.filterMap fun
    | .line _ => none
    | .event e => if hook = collect then some e else none

end Hook

end Storekeeper

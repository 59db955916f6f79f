import Storekeeper.Store.Transaction

/-!
# The store in memory

A store that holds its contents in memory.  Failures can be planned for it: `Faults` says which
attempts to connect fail, whether probes and disconnecting fail, and how long a probe takes.  A
probe notes its latency and its planned failure when it starts, and looks at the connection when
its latency is over.
-/

namespace Storekeeper

/-- Which attempts to connect are to fail. -/
inductive ConnectFault where
  | none
  /-- The next `times` attempts fail. -/
  | next (times : Nat) (text : String)
  /-- All attempts fail. -/
  | always (text : String)
deriving DecidableEq, Repr

namespace ConnectFault

/-- The failure of the next attempt, if it is to fail. -/
def text? : ConnectFault → Option String
  | none | next 0 _ => .none
  | next (_ + 1) text | always text => some text

/-- The plan after one more attempt. -/
def after : ConnectFault → ConnectFault
  | next times text => next (times - 1) text
  | fault => fault

end ConnectFault

/-- The failures that are planned for a store. -/
structure Faults where
  connect : ConnectFault := .none
  ping : Option String := none
  disconnect : Option String := none
  /-- How long a probe takes, in milliseconds. -/
  latency : Nat := 0
deriving DecidableEq, Repr

/-- A store in memory. -/
structure MemoryStore where
  tables : Tables := .empty
  connected : Bool := false
  faults : Faults := {}
  /-- The number of attempts to connect. -/
  connectAttempts : Nat := 0
  /-- The number of probes. -/
  pings : Nat := 0
  /-- The number of attempts to begin a transaction. -/
  transactions : Nat := 0

/-- A probe in progress. -/
structure Ping where
  /-- When it started. -/
  started : Nat
  /-- When its latency is over. -/
  due : Nat
  /-- Its planned failure. -/
  fault : Option String
deriving DecidableEq, Repr

/-- The outcome of a probe that ends while the store is connected or not. -/
def Ping.outcome (p : Ping) (connected : Bool) : Except Error Unit :=
  if connected then
    match p.fault with
    | some text => .error (.store .other text)
    | none => .ok ()
  else .error .notConnected

namespace MemoryStore

/-- The name of the store. -/
def name : String := "memory"

/-- The number of calls that reached the store. -/
def calls (s : MemoryStore) : Nat := s.connectAttempts + s.pings + s.transactions

/-- Connects. -/
def connect (s : MemoryStore) : Except Error Unit × MemoryStore :=
  let counted := { s with
    connectAttempts := s.connectAttempts + 1
    faults := { s.faults with connect := s.faults.connect.after } }
  match s.faults.connect.text? with
  | some text => (.error (.store .other text), counted)
  | none => (.ok (), { counted with connected := true })

/-- Disconnects, which takes effect even where it fails. -/
def disconnect (s : MemoryStore) : Except Error Unit × MemoryStore :=
  let s := { s with connected := false }
  match s.faults.disconnect with
  | some text => (.error (.disconnect text), s)
  | none => (.ok (), s)

/-- Starts a probe. -/
def startPing (s : MemoryStore) (now : Nat) : Ping × MemoryStore :=
  (⟨now, now + s.faults.latency, s.faults.ping⟩, { s with pings := s.pings + 1 })

/-- Begins a transaction. -/
def begin (s : MemoryStore) (name : String) : Except Error Transaction × MemoryStore :=
  let counted := { s with transactions := s.transactions + 1 }
  if s.connected then (.ok (.begin name s.tables), counted) else (.error .notConnected, counted)

end MemoryStore

end Storekeeper

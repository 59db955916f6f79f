import Storekeeper.Manager.Call

/-!
# Scripts

A session is described by a script: a list of steps, each of which is one action on a store or
its manager, or a number of scripts that run side by side.  A unit of work is described by the
list of its operations.
-/

namespace Storekeeper

/-- One item of a described unit of work. -/
inductive WorkItem where
  /-- Performs an operation; if `caught`, its failure is not that of the work. -/
  | perform (op : Transaction.Operation) (caught : Bool)
  | sleep (time : Nat)
  | fail (failure : Failure)

/-- The unit of work that does the given items one after another, reports those that came to an
end, and has the value `n` if none fails. -/
def WorkItem.work (n : Nat) : List WorkItem → Work Nat
  | [] => .finish (.ok n)
  | .perform op caught :: rest =>
    .perform op fun reply =>
      .report (.performed op reply) <|
        match reply with
        | .ok _ => work n rest
        | .error e => if caught then work n rest else .fail e
  | .sleep time :: rest => .sleep time (.report .slept (work n rest))
  | .fail failure :: _ => .finish (.error failure)

/-- A simple action on a store and its manager. -/
inductive Action where
  | planConnect (fault : ConnectFault)
  | planPing (fault : Option String)
  | planDisconnect (fault : Option String)
  | planLatency (time : Nat)
  | start
  | connect
  | stop
  | disconnect
  | stopMonitor
  | checkHealth
  | askStatus
  | metrics
  | attempts
  | monitor
  | describe
  | maintain (task : Maintenance)
  | run (overrides : Transaction.Overrides) (items : List WorkItem)
  | openStore
  | closeStore
  | pingStore
  | counters
  | documents (collection : String)
  | events
  | sleep (time : Nat)
  /-- Begins a transaction under a label. -/
  | begin (label : String) (overrides : Transaction.Overrides)
  /-- Performs an operation on the transaction with a label. -/
  | perform (label : String) (op : Transaction.Operation)
  /-- Sleeps while the transaction with a label is open. -/
  | pause (label : String) (time : Nat)
  /-- Drops the transaction with a label. -/
  | drop (label : String)

/-- A step of a script. -/
inductive Step where
  | act (action : Action)
  | concurrently (branches : List (List Step))

end Storekeeper

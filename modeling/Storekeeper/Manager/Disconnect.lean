import Storekeeper.Manager.Monitor

/-!
# Disconnecting

A call that disconnects stops to watch the connection first and disconnects the store then.  It
never fails: an error of the store is only written to the log.
-/

namespace Storekeeper

/-- A call that disconnects. -/
inductive Disconnect where
  | stopping (phase : StopMonitor)
  /-- About to disconnect the store. -/
  | closing
  /-- About to report the connection as down. -/
  | marking
deriving DecidableEq, Repr

/-- Disconnects the store and writes that into the state of the connection. -/
def Manager.release (m : Manager) : Manager :=
  let (reply, m) := m.closeStore
  let m :=
    match reply with
    | .ok () => m
    | .error e => m.log .error "Failed to disconnect from database cleanly"
        [("error", .str (Redaction.sanitize e.message))]
  { m with state := .disconnected }

namespace Disconnect

/-- Whether the call can go on. -/
def isReady (m : Manager) : Disconnect → Bool
  | stopping phase => phase.isReady m
  | closing | marking => true

/-- Goes on with the call. -/
def advance (m : Manager) : Disconnect → Manager × Progress Disconnect Unit
  | stopping phase =>
    match phase.advance m with
    | (m, .going phase) => (m, .going (.stopping phase))
    | (m, .done ()) => (m, .going .closing)
  | closing => (m.release, .going .marking)
  | marking => (m.markUnhealthy.log .info "Database disconnected", .done ())

end Disconnect

end Storekeeper

import Storekeeper.Journal
import Storekeeper.Mongo.ConnectionString
import Storekeeper.Mongo.Fault

/-!
# Clients of a MongoDB deployment

A client, as far as it gets with a deployment of which no member answers.  Connecting only reads
the connection string.  The first operation that needs a member waits for one in vain; from then
on the client takes the deployment for one without transactions, while a probe waits again.
-/

namespace Storekeeper.Mongo

/-- What a connected client has learnt about its deployment. -/
inductive Contact where
  /-- No member was asked for yet. -/
  | untried
  /-- No member answered. -/
  | unanswered
deriving DecidableEq, Repr

/-- A client. -/
structure Client where
  /-- The connection string. -/
  uri : String
  contact : Option Contact := none
deriving DecidableEq, Repr

namespace Client

/-- The name of the store. -/
def name : String := "mongodb"

/-- The fault of an operation for which no member of the deployment was found in time. -/
def selectionFault : Fault := .serverSelection "Server selection timeout: No available servers."

/-- The fault of a transaction on a deployment that is not known to support them. -/
def transactionFault : Fault :=
  .transaction "Transactions are not supported by this deployment"

/-- The reply to an operation with the client after it and the event that reports it. -/
structure Answer where
  reply : Except Error Unit
  client : Client
  event : StoreEvent

/-- The answer to the operation with the given name. -/
def answer (operation : String) (reply : Except Error Unit) (client : Client) : Answer where
  reply := reply
  client := client
  event := { store := name, operation := operation, success := reply.isOk }

/-- The error with which connecting fails, if it does. -/
def connectError? (uri : String) : Option Error :=
  match ConnectionString.parse uri with
  | .ok _ => none
  | .error reason => some (Fault.invalidArgument reason).toError

/-- Connects. -/
def connect (c : Client) : Answer :=
  match connectError? c.uri with
  | some e => answer "connect" (.error e) c
  | none => answer "connect" (.ok ()) { c with contact := some .untried }

/-- Disconnects. -/
def disconnect (c : Client) : Answer := answer "disconnect" (.ok ()) { c with contact := none }

/-- Probes the deployment. -/
def ping (c : Client) : Answer :=
  match c.contact with
  | none => answer "ping" (.error .notConnected) c
  | some _ =>
    answer "ping" (.error selectionFault.toError) { c with contact := some .unanswered }

/-- Begins a transaction. -/
def begin (c : Client) : Answer :=
  match c.contact with
  | none => answer "begin_transaction" (.error .notConnected) c
  | some .untried =>
    answer "begin_transaction" (.error selectionFault.toError)
      { c with contact := some .unanswered }
  | some .unanswered => answer "begin_transaction" (.error transactionFault.toError) c

end Client

end Storekeeper.Mongo

import Storekeeper.Error
import Storekeeper.Text.Quoted

/-!
# Faults of a MongoDB deployment

What can go wrong between a client and a MongoDB deployment.  `Fault.message` gives the wording
of a fault and `Fault.toError` the error of the library that stands for it: a duplicate key and
an invalid argument have errors of their own, and every other fault is one of the store, with the
kind that fits.
-/

namespace Storekeeper.Mongo

/-- Why a connection of the network failed. -/
inductive NetworkFault where
  | connectionRefused
  | timedOut
  | connectionReset
  | connectionAborted
  | brokenPipe
  | unexpectedEof
  | other
deriving DecidableEq, Repr

/-- The kind of the error that stands for a fault of the network. -/
def NetworkFault.kind : NetworkFault → StoreErrorKind
  | connectionRefused => .connectionRefused
  | timedOut => .timedOut
  | connectionReset | connectionAborted | brokenPipe => .connectionReset
  | unexpectedEof => .connectionTerminated
  | other => .other

/-- A refusal by a server: a numeric code with its name, if it has one, and a message. -/
structure Refusal where
  code : Int
  codeName : Option String := none
  message : String := ""
deriving DecidableEq, Repr

/-- What went wrong. -/
inductive Fault where
  | network (fault : NetworkFault) (text : String)
  /-- A command was refused. -/
  | command (refusal : Refusal)
  /-- A write was refused. -/
  | write (refusal : Refusal)
  /-- A write was done, but not as durably as was asked for. -/
  | writeConcern (refusal : Refusal)
  /-- Some of several writes, each with its number, were refused. -/
  | bulk (refusals : List (Nat × Refusal))
  | authentication (text : String)
  | invalidArgument (text : String)
  /-- No member of the deployment could be selected in time. -/
  | serverSelection (text : String)
  | nameResolution (text : String)
  | poolCleared (text : String)
  | transaction (text : String)
  | sessionsUnsupported
  | shutdown
  | missingResumeToken
deriving DecidableEq, Repr

namespace Fault

/-- The code of a duplicate key. -/
def duplicateKeyCode : Int := 11000

/-- The code of a document that its collection does not admit. -/
def invalidDocumentCode : Int := 121

/-- A record in messages: its name and its fields. -/
def recordText (name : String) (fields : List (String × String)) : String :=
  name ++ " \x7b " ++ String.intercalate ", " (fields.map fun f => f.1 ++ ": " ++ f.2) ++ " \x7d"

/-- A value that may be missing, as it is shown in messages. -/
def optionText : Option String → String
  | some s => "Some(" ++ s ++ ")"
  | none => "None"

/-- The leading fields of a refused write. -/
def refusalFields (r : Refusal) : List (String × String) :=
  [("code", toString r.code), ("code_name", optionText (r.codeName.map Text.quoted)),
    ("message", Text.quoted r.message), ("details", "None")]

/-- The list of the writes of a bulk that were refused. -/
def bulkText : List (Nat × Refusal) → String
  | [] => "None"
  | refusals =>
    "Some([" ++ String.intercalate ", " (refusals.map fun (index, r) =>
      recordText "BulkWriteError" (("index", toString index) :: refusalFields r)) ++ "])"

/-- What is said of a failed write. -/
def writeText (text : String) : String :=
  "An error occurred when trying to execute a write operation: " ++ text

/-- What is said of a fault. -/
def text : Fault → String
  | network _ text => "I/O error: " ++ text
  | command r =>
    "Command failed: Error code " ++ toString r.code ++ " (" ++ r.codeName.getD "" ++ "): "
      ++ r.message
  | write r => writeText ("WriteError(" ++ recordText "WriteError" (refusalFields r) ++ ")")
  | writeConcern r =>
    writeText ("WriteConcernError(" ++ recordText "WriteConcernError"
      [("code", toString r.code), ("code_name", Text.quoted (r.codeName.getD "")),
        ("message", Text.quoted r.message), ("details", "None"), ("labels", "[]")] ++ ")")
  | bulk refusals =>
    writeText (recordText "BulkWriteFailure"
      [("write_errors", bulkText refusals), ("write_concern_error", "None"),
        ("inserted_ids", "\x7b\x7d")])
  | invalidArgument text => "An invalid argument was provided: " ++ text
  | nameResolution text => "An error occurred during DNS resolution: " ++ text
  | authentication text | serverSelection text | poolCleared text | transaction text => text
  | sessionsUnsupported =>
    "Attempted to start a session on a deployment that does not support sessions"
  | shutdown => "Client has been shut down"
  | missingResumeToken => "Cannot provide resume functionality when the resume token is missing"

/-- The wording of a fault. -/
def message (f : Fault) : String := "Kind: " ++ f.text ++ ", labels: \x7b\x7d"

/-- The error that stands for a fault of which `message` is told.  It has the whole message, also
what that says beside the fault. -/
def toErrorWith (message : String) : Fault → Error
  | network fault _ => .store fault.kind message
  | serverSelection _ => .store .timedOut message
  | nameResolution _ => .store .hostNotFound message
  | poolCleared _ => .store .connectionReset message
  | authentication _ => .store .authentication message
  | write r =>
    if r.code = duplicateKeyCode then .duplicateKey message
    else if r.code = invalidDocumentCode then .store .integrity message
    else .store .other message
  | command r =>
    if r.code = duplicateKeyCode then .duplicateKey message else .store .other message
  | invalidArgument _ => .config message
  | writeConcern _ | bulk _ | transaction _ | sessionsUnsupported | shutdown
  | missingResumeToken => .store .other message

/-- The error that stands for a fault. -/
def toError (f : Fault) : Error := f.toErrorWith f.message

end Fault

end Storekeeper.Mongo

import Storekeeper.Error
import Storekeeper.Redaction.Address
import Storekeeper.Redaction.Credentials
import Storekeeper.Redaction.UserName

/-!
# Redaction

`sanitize` takes out of a text what must not reach a log line or a health report: first
credentials in connection strings, then dotted addresses, then quoted user names.  An error is
shown in redacted form together with its immediate cause.
-/

namespace Storekeeper.Redaction

/-- A text without credentials, addresses and quoted user names. -/
def sanitizeChars (s : List Char) : List Char :=
  userName.apply (address.apply (credentials.apply s))

/-- A string without credentials, addresses and quoted user names. -/
def sanitize (s : String) : String := String.ofList (sanitizeChars s.toList)

/-- An error that is safe to show: its redacted message and that of its immediate cause. -/
structure SanitizedError where
  message : String
  cause : Option String := none
deriving DecidableEq, Repr

/-- The text of a redacted error. -/
def SanitizedError.text (e : SanitizedError) : String :=
  match e.cause with
  | some cause => e.message ++ " (caused by: " ++ cause ++ ")"
  | none => e.message

/-- The redacted form of a message and of the messages of its causes, the nearest first. -/
def sanitizeChain (message : String) (causes : List String) : SanitizedError where
  message := sanitize message
  cause := causes.head?.map sanitize

/-- The redacted form of an error; errors of the store have no further cause. -/
def ofError (e : Error) : SanitizedError := sanitizeChain e.message []

end Storekeeper.Redaction

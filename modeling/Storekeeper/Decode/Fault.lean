import Storekeeper.Error
import Storekeeper.Json.Basic
import Storekeeper.Text.Quoted
import Storekeeper.Time.Reading

/-!
# Faults of documents

Why a document does not have the wanted form.  `Fault.message` words a fault by what was found
and what was expected.
-/

namespace Storekeeper.Decode

/-- Why a document does not have the wanted form. -/
inductive Fault where
  /-- The document is of another kind. -/
  | wrongKind (found : Json) (expected : String)
  /-- The document is of the right kind but has a wrong value. -/
  | wrongValue (found : Json) (expected : String)
  | missingField (name : String)
  | unknownName (name : String) (known : List String)
  | wrongLength (length : Nat) (expected : String)
  | time (fault : Time.TimeFault)

/-- What a document is, in a message. -/
def kindOf : Json → String
  | .null => "null"
  | .bool b => "boolean `" ++ toString b ++ "`"
  | .num (.int n) => "integer `" ++ toString n ++ "`"
  | .num (.float x) => "floating point `" ++ x.text Binary64.documentStyle ++ "`"
  | .str s => "string " ++ Text.quoted s
  | .arr _ => "sequence"
  | .obj _ => "map"

/-- A name between back quotes. -/
def ticked (name : String) : String := "`" ++ name ++ "`"

/-- The names that are known, in a message. -/
def alternatives : List String → String
  | [] => "there are no variants"
  | [a] => "expected " ++ ticked a
  | [a, b] => "expected " ++ ticked a ++ " or " ++ ticked b
  | names => "expected one of " ++ ", ".intercalate (names.map ticked)

/-- The wording of a fault. -/
def Fault.message : Fault → String
  | wrongKind found expected => "invalid type: " ++ kindOf found ++ ", expected " ++ expected
  | wrongValue found expected => "invalid value: " ++ kindOf found ++ ", expected " ++ expected
  | missingField name => "missing field " ++ ticked name
  | unknownName name known => "unknown variant " ++ ticked name ++ ", " ++ alternatives known
  | wrongLength length expected => s!"invalid length {length}, expected {expected}"
  | time fault => fault.message

/-- A fault as an error. -/
def Fault.toError (f : Fault) : Error := .serialization ("JSON error: " ++ f.message)

end Storekeeper.Decode

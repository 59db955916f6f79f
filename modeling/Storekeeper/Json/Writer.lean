import Storekeeper.Json.Basic
import Storekeeper.Text.Quoted

/-!
# Writing documents

`Json.write` writes a document on one line.  Within a string the quote, the backslash and the
control characters are escaped, and all other characters stand for themselves.
-/

namespace Storekeeper.Json

/-- A character as it stands in a string. -/
def escapedChar (c : Char) : String :=
  if c == '\x22' then "\\\""
  else if c == '\\' then "\\\\"
  else if c == '\n' then "\\n"
  else if c == '\r' then "\\r"
  else if c == '\t' then "\\t"
  else if c.toNat < 32 then
    (if c.toNat < 16 then "\\u000" else "\\u00") ++ Text.hexadecimal c.toNat
  else String.singleton c

/-- A string between quotes. -/
def writeText (s : String) : String :=
  "\"" ++ String.join (s.toList.map escapedChar) ++ "\""

/-- A number in decimal. -/
def writeNumber : Number → String
  | .int n => toString n
  | .float x => x.text Binary64.documentStyle

mutual

/-- A document on one line. -/
def write : Json → String
  | .null => "null"
  | .bool true => "true"
  | .bool false => "false"
  | .num n => writeNumber n
  | .str s => writeText s
  | .arr items => "[" ++ ",".intercalate (writeItems items) ++ "]"
  | .obj members => "\x7b" ++ ",".intercalate (writeMembers members) ++ "\x7d"

/-- The items of an array, each on its own. -/
def writeItems : List Json → List String
  | [] => []
  | item :: rest => write item :: writeItems rest

/-- The members of an object, each on its own. -/
def writeMembers : List (String × Json) → List String
  | [] => []
  | (key, value) :: rest => (writeText key ++ ":" ++ write value) :: writeMembers rest

end

end Storekeeper.Json

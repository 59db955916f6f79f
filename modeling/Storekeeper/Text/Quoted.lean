import Storekeeper.Text.Printable

/-!
# Quoted text

A text is shown between double quotes, with a backslash before a double quote or a
backslash, a letter after a backslash for the common controls, and the code point in
hexadecimal for every other character that does not show by itself.
-/

namespace Storekeeper.Text

/-- The hexadecimal numeral of `n`, in small letters. -/
def hexadecimal (n : Nat) : String := String.ofList (Nat.toDigits 16 n)

/-- A character as it stands between the quotes. -/
def quotedChar (c : Char) : String :=
  if c == '\x00' then "\\0"
  else if c == '\t' then "\\t"
  else if c == '\n' then "\\n"
  else if c == '\r' then "\\r"
  else if c == '\x22' then "\\\""
  else if c == '\\' then "\\\\"
  else if isPrintable c then String.singleton c
  else "\\u\x7b" ++ hexadecimal c.toNat ++ "\x7d"

/-- A text between quotes. -/
def quoted (s : String) : String :=
  "\"" ++ String.join (s.toList.map quotedChar) ++ "\""

end Storekeeper.Text

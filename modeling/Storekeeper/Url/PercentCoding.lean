import Storekeeper.Text.Quoted

/-!
# Percent coding

A character that has no place in a part of a URL is written as the percent-coded bytes of its
UTF-8 form.  Which characters those are depends on the part: `opaqueEscapes` for a path
without segments and for a host, `pathEscapes` for a path with segments.
-/

namespace Storekeeper.Url

/-- A digit of a percent-coded byte. -/
def hexDigit (n : Nat) : Char :=
  if n < 10 then Char.ofNat (48 + n) else Char.ofNat (55 + n)

/-- A byte in percent coding. -/
def escapeByte (b : UInt8) : List Char :=
  ['%', hexDigit (b.toNat / 16), hexDigit (b.toNat % 16)]

/-- A character in percent coding. -/
def escapeChar (c : Char) : List Char :=
  (String.singleton c).toUTF8.toList.flatMap escapeByte

/-- Whether `c` is coded wherever coding is done: it is a control or no ASCII character. -/
def opaqueEscapes (c : Char) : Bool := c.toNat < 32 || 126 < c.toNat

/-- Whether `c` is coded in a path with segments. -/
def pathEscapes (c : Char) : Bool :=
  opaqueEscapes c || [' ', '\x22', '<', '>', '\x60', '#', '?', '\x7b', '\x7d'].contains c

/-- A text with the characters that `escapes` selects in percent coding. -/
def escape (escapes : Char → Bool) (s : List Char) : List Char :=
  s.flatMap fun c => if escapes c then escapeChar c else [c]

/-- The value of a digit of a percent-coded byte. -/
def hexValue? (c : Char) : Option Nat :=
  if c.isDigit then some (c.toNat - 48)
  else if 'a' ≤ c && c ≤ 'f' then some (c.toNat - 87)
  else if 'A' ≤ c && c ≤ 'F' then some (c.toNat - 55)
  else none

/-- The bytes of a text, percent-coded ones decoded; any other percent sign stands for itself. -/
def unescapedBytes : List Char → List UInt8
  | [] => []
  | '%' :: a :: b :: rest =>
    match hexValue? a, hexValue? b with
    | some x, some y => UInt8.ofNat (16 * x + y) :: unescapedBytes rest
    | _, _ => '%'.toNat.toUInt8 :: unescapedBytes (a :: b :: rest)
  | c :: rest => (String.singleton c).toUTF8.toList ++ unescapedBytes rest

/-- The text whose percent coding is `s`, if its bytes are UTF-8. -/
def unescape? (s : List Char) : Option (List Char) :=
  (String.fromUTF8? ⟨(unescapedBytes s).toArray⟩).map String.toList

end Storekeeper.Url

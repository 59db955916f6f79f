/-!
# Numerals

Decimal numerals of natural numbers.  `readDigits` reads a non-empty run of ASCII digits,
with leading zeros allowed, and `readNatural` allows one plus sign before it.
-/

namespace Storekeeper.Text

/-- The value of a digit. -/
def digitValue (c : Char) : Nat := c.toNat - 48

/-- The number that a run of digits denotes after the digits of `acc`. -/
def digitsValue (acc : Nat) (ds : List Char) : Nat :=
  ds.foldl (fun n d => 10 * n + digitValue d) acc

/-- The number denoted by a non-empty run of ASCII digits. -/
def readDigits (s : List Char) : Option Nat :=
  if s.isEmpty || !s.all Char.isDigit then none else some (digitsValue 0 s)

/-- The number denoted by digits with an optional plus sign before them. -/
def readNatural : List Char → Option Nat
  | '+' :: ds => readDigits ds
  | ds => readDigits ds

/-- `readNatural`, for numbers below `2 ^ width`. -/
def readWord (width : Nat) (s : List Char) : Option Nat :=
  (readNatural s).filter (· < Nat.pow 2 width)

end Storekeeper.Text

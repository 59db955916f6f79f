import Storekeeper.Json.Basic
import Storekeeper.Text.Numeral

/-!
# Reading documents

`Json.read` reads a document from its text and answers nothing for a text that is none.  An
integer that fits in 64 bits is read as an integer and every other number in double precision.
A repeated name keeps the place of its first member and the value of its last.
-/

namespace Storekeeper.Json

/-- Whether `c` separates the parts of a document. -/
def isSpace (c : Char) : Bool := c == ' ' || c == '\t' || c == '\n' || c == '\r'

/-- A text from its first significant character on. -/
def skipSpace (s : List Char) : List Char := s.dropWhile isSpace

/-- The value of a hexadecimal digit. -/
def hexDigit? (c : Char) : Option Nat :=
  if c.isDigit then some (c.toNat - 48)
  else if 'a' ≤ c && c ≤ 'f' then some (c.toNat - 87)
  else if 'A' ≤ c && c ≤ 'F' then some (c.toNat - 55)
  else none

/-- Four hexadecimal digits. -/
def readHex4 : List Char → Option (Nat × List Char)
  | a :: b :: c :: d :: rest => do
    let a ← hexDigit? a
    let b ← hexDigit? b
    let c ← hexDigit? c
    let d ← hexDigit? d
    pure (((a * 16 + b) * 16 + c) * 16 + d, rest)
  | _ => none

/-- The character of an escape by code unit; the second half of a pair follows the first. -/
def readUnit (s : List Char) : Option (Char × List Char) := do
  let (unit, rest) ← readHex4 s
  if 0xD800 ≤ unit ∧ unit < 0xDC00 then
    match rest with
    | '\\' :: 'u' :: more =>
      let (second, rest) ← readHex4 more
      if 0xDC00 ≤ second ∧ second < 0xE000 then
        pure (Char.ofNat (0x10000 + (unit - 0xD800) * 0x400 + (second - 0xDC00)), rest)
      else none
    | _ => none
  else if 0xDC00 ≤ unit ∧ unit < 0xE000 then none
  else pure (Char.ofNat unit, rest)

/-- The rest of a string after its opening quote, behind the reversed characters `acc`. -/
def readChars : Nat → List Char → List Char → Option (String × List Char)
  | 0, _, _ => none
  | fuel + 1, acc, s =>
    match s with
    | [] => none
    | '\x22' :: rest => some (String.ofList acc.reverse, rest)
    | '\\' :: 'u' :: rest => do
      let (c, rest) ← readUnit rest
      readChars fuel (c :: acc) rest
    | '\\' :: c :: rest =>
      match c with
      | '\x22' => readChars fuel ('\x22' :: acc) rest
      | '\\' => readChars fuel ('\\' :: acc) rest
      | '/' => readChars fuel ('/' :: acc) rest
      | 'b' => readChars fuel ('\x08' :: acc) rest
      | 'f' => readChars fuel ('\x0c' :: acc) rest
      | 'n' => readChars fuel ('\n' :: acc) rest
      | 'r' => readChars fuel ('\r' :: acc) rest
      | 't' => readChars fuel ('\t' :: acc) rest
      | _ => none
    | c :: rest => if c.toNat < 32 then none else readChars fuel (c :: acc) rest

/-- An exponent part, if there is one. -/
def readExponent : List Char → Option (Option Int × List Char)
  | c :: rest =>
    if c == 'e' || c == 'E' then
      let (negative, digits) :=
        match rest with
        | '-' :: more => (true, more)
        | '+' :: more => (false, more)
        | more => (false, more)
      let ds := digits.takeWhile Char.isDigit
      if ds.isEmpty then none
      else
        let n : Int := Text.digitsValue 0 ds
        some (some (if negative then -n else n), digits.dropWhile Char.isDigit)
    else some (none, c :: rest)
  | [] => some (none, [])

/-- A fractional part, if there is one. -/
def readFraction : List Char → Option (Option (List Char) × List Char)
  | '.' :: rest =>
    let ds := rest.takeWhile Char.isDigit
    if ds.isEmpty then none else some (some ds, rest.dropWhile Char.isDigit)
  | s => some (none, s)

/-- The number with the given sign, digits, fraction and exponent. -/
def toNumber (negative : Bool) (ds : List Char) (fraction : Option (List Char))
    (exponent : Option Int) : Option Number :=
  let whole := Text.digitsValue 0 ds
  match fraction, exponent with
  | none, none =>
    if negative then
      if whole ≠ 0 ∧ whole ≤ UInt64.size / 2 then some (.int (-(whole : Int)))
      else (Binary64.ofDecimal true whole 0).map .float
    else if whole < UInt64.size then some (.int whole)
    else (Binary64.ofDecimal false whole 0).map .float
  | _, _ =>
    let fs := fraction.getD []
    let mantissa := Text.digitsValue whole fs
    (Binary64.ofDecimal negative mantissa (exponent.getD 0 - fs.length)).map .float

/-- A number. -/
def readNumber (s : List Char) : Option (Json × List Char) := do
  let (negative, s) :=
    match s with
    | '-' :: rest => (true, rest)
    | rest => (false, rest)
  let ds := s.takeWhile Char.isDigit
  if ds.isEmpty ∨ (ds.head? = some '0' ∧ 1 < ds.length) then none
  else
    let (fraction, s) ← readFraction (s.dropWhile Char.isDigit)
    let (exponent, s) ← readExponent s
    let n ← toNumber negative ds fraction exponent
    pure (.num n, s)

/-- The rest of a text after the word `word`. -/
def readWord (word : String) (value : Json) (s : List Char) : Option (Json × List Char) :=
  if word.toList.isPrefixOf s then some (value, s.drop word.length) else none

mutual

/-- A document at the start of a text; each step down or on costs one unit of fuel. -/
def readValue : Nat → List Char → Option (Json × List Char)
  | 0, _ => none
  | fuel + 1, s =>
    match skipSpace s with
    | [] => none
    | '\x22' :: rest => do
      let (t, rest) ← readChars (rest.length + 1) [] rest
      pure (.str t, rest)
    | '[' :: rest =>
      match skipSpace rest with
      | ']' :: rest => some (.arr [], rest)
      | rest => do
        let (items, rest) ← readItems fuel rest
        pure (.arr items, rest)
    | '\x7b' :: rest =>
      match skipSpace rest with
      | '\x7d' :: rest => some (.obj [], rest)
      | rest => do
        let (members, rest) ← readMembers fuel [] rest
        pure (.obj members, rest)
    | 'n' :: rest => readWord "ull" .null rest
    | 't' :: rest => readWord "rue" (.bool true) rest
    | 'f' :: rest => readWord "alse" (.bool false) rest
    | s => readNumber s

/-- The items of an array up to its closing bracket. -/
def readItems : Nat → List Char → Option (List Json × List Char)
  | 0, _ => none
  | fuel + 1, s => do
    let (item, rest) ← readValue fuel s
    match skipSpace rest with
    | ',' :: rest =>
      let (items, rest) ← readItems fuel rest
      pure (item :: items, rest)
    | ']' :: rest => pure ([item], rest)
    | _ => none

/-- The members of an object up to its closing brace, after the members `before`. -/
def readMembers : Nat → Members → List Char → Option (Members × List Char)
  | 0, _, _ => none
  | fuel + 1, before, s =>
    match skipSpace s with
    | '\x22' :: rest => do
      let (key, rest) ← readChars (rest.length + 1) [] rest
      match skipSpace rest with
      | ':' :: rest =>
        let (value, rest) ← readValue fuel rest
        let members := put key value before
        match skipSpace rest with
        | ',' :: rest => readMembers fuel members rest
        | '\x7d' :: rest => pure (members, rest)
        | _ => none
      | _ => none
    | _ => none

end

/-- The document that a text denotes. -/
def read (text : String) : Option Json :=
  let s := text.toList
  match readValue (s.length + 1) s with
  | some (value, rest) => if (skipSpace rest).isEmpty then some value else none
  | none => none

end Storekeeper.Json

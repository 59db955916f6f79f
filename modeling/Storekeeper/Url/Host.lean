import Storekeeper.Text.LowerCase
import Storekeeper.Text.Printable
import Storekeeper.Url.PercentCoding

/-!
# Hosts

The host of a URL is a name, an address of 32 bits in dotted form or one of 128 bits in
brackets.  `Host.ofOpaque?` reads the host of a URL whose scheme has no rules of its own: a
name is then any text without the characters that delimit the parts of a URL.
`Host.ofDomain?` reads the host of a web URL: the name is percent-decoded and put into small
letters, its coded labels must be decodable, and a name that ends in a number must be an
address.
-/

namespace Storekeeper.Url

/-- A host. -/
inductive Host where
  | name (text : List Char)
  | short (address : Nat)
  | long (pieces : List Nat)
deriving DecidableEq, Repr

/-- The parts of `s` between the characters `sep`. -/
def splitOn (sep : Char) : List Char → List (List Char)
  | [] => [[]]
  | c :: rest =>
    match splitOn sep rest with
    | part :: parts => if c == sep then [] :: part :: parts else (c :: part) :: parts
    | [] => [[]]

/-! ### Addresses in brackets -/

/-- The number that hexadecimal digits denote. -/
def hexNumber (ds : List Char) : Nat :=
  ds.foldl (fun n d => 16 * n + (hexValue? d).getD 0) 0

/-- Whether `c` is a hexadecimal digit. -/
def isHexDigit (c : Char) : Bool := (hexValue? c).isSome

/-- One of the four bytes of a dotted address at the end of an address in brackets: a number
below 256 without leading zeros. -/
def dottedByte? (s : List Char) : Option Nat :=
  if s.isEmpty || !s.all Char.isDigit || 3 < s.length then none
  else if s.head? == some '0' && 1 < s.length then none
  else
    let n := s.foldl (fun n d => 10 * n + (d.toNat - 48)) 0
    if n < 256 then some n else none

/-- The two pieces that a dotted address denotes. -/
def dottedPieces? (s : List Char) : Option (List Nat) := do
  match ← (splitOn '.' s).mapM dottedByte? with
  | [a, b, c, d] => pure [256 * a + b, 256 * c + d]
  | _ => none

/-- The pieces that a list of colon-separated parts denotes; the last may be a dotted address. -/
def pieces? : List (List Char) → Option (List Nat)
  | [] => some []
  | [last] =>
    if last.contains '.' then dottedPieces? last
    else if !last.isEmpty && last.length ≤ 4 && last.all isHexDigit then some [hexNumber last]
    else none
  | part :: rest =>
    if !part.isEmpty && part.length ≤ 4 && part.all isHexDigit then
      (pieces? rest).map (hexNumber part :: ·)
    else none

/-- The text before and after the first double colon. -/
def splitDoubleColon : List Char → Option (List Char × List Char)
  | ':' :: ':' :: rest => some ([], rest)
  | c :: rest => (splitDoubleColon rest).map fun p => (c :: p.1, p.2)
  | [] => none

/-- The parts of one side of a double colon. -/
def sideParts (s : List Char) : List (List Char) := if s.isEmpty then [] else splitOn ':' s

/-- The eight pieces of an address in brackets; a double colon stands for one or more zeros, and
a dotted address may only come last. -/
def long? (s : List Char) : Option (List Nat) := do
  match splitDoubleColon s with
  | none =>
    let ps ← pieces? (splitOn ':' s)
    if ps.length = 8 then pure ps else none
  | some (before, after) =>
    let head ← if before.contains '.' then none else pieces? (sideParts before)
    let tail ← pieces? (sideParts after)
    if head.length + tail.length ≤ 7 then
      pure (head ++ List.replicate (8 - head.length - tail.length) 0 ++ tail)
    else none

/-- The address between brackets. -/
def bracketed? (s : List Char) : Option Host :=
  match s with
  | '[' :: rest =>
    if rest.getLast? == some ']' then (long? rest.dropLast).map .long else none
  | _ => none

/-! ### Names -/

/-- Characters that delimit the parts of a URL and have no place in a name. -/
def isDelimiter (c : Char) : Bool :=
  c.toNat = 0 || ['\t', '\n', '\r', ' ', '#', '/', ':', '<', '>', '?', '@', '[', '\\', ']', '^',
    '|'].contains c

/-- The host of a URL whose scheme has no rules for hosts. -/
def Host.ofOpaque? (s : List Char) : Option Host :=
  if s.head? == some '[' then bracketed? s
  else if s.any isDelimiter then none
  else some (.name (escape opaqueEscapes s))

/-! ### Coded labels -/

/-- The value of a digit of a coded label. -/
def labelDigit? (c : Char) : Option Nat :=
  if c.isDigit then some (c.toNat - 22)
  else if 'a' ≤ c && c ≤ 'z' then some (c.toNat - 97)
  else none

/-- Divides `delta` by 35 until it is at most 455, counting the divisions in steps of 36. -/
def reduceDelta : Nat → Nat → Nat → Nat × Nat
  | 0, delta, k => (delta, k)
  | fuel + 1, delta, k => if 455 < delta then reduceDelta fuel (delta / 35) (k + 36) else (delta, k)

/-- The bias for the next number of a coded label. -/
def nextBias (delta count : Nat) (first : Bool) : Nat :=
  let d := if first then delta / 700 else delta / 2
  let (d, k) := reduceDelta 64 (d + d / count) 0
  k + 36 * d / (d + 38)

/-- One number of a coded label, in digits of growing weight. -/
def readDelta (bias : Nat) : Nat → Nat → Nat → List Char → Option (Nat × List Char)
  | _, _, _, [] => none
  | k, weight, acc, c :: rest => do
    let digit ← labelDigit? c
    let acc := acc + digit * weight
    let t := if k ≤ bias then 1 else if bias + 26 ≤ k then 26 else k - bias
    if digit < t then pure (acc, rest) else readDelta bias (k + 36) (weight * (36 - t)) acc rest

/-- The characters of a coded label: each number says where the next one is inserted. -/
def readInsertions : Nat → Nat → Nat → Nat → List Char → List Char → Option (List Char)
  | 0, _, _, _, _, _ => none
  | fuel + 1, n, i, bias, out, s =>
    if s.isEmpty then some out
    else do
      let (delta, rest) ← readDelta bias 36 1 0 s
      let count := out.length + 1
      let n := n + (i + delta) / count
      let place := (i + delta) % count
      if n < 0xD800 || (0xDFFF < n && n < 0x110000) then
        readInsertions fuel n (place + 1) (nextBias delta count (i == 0))
          (out.insertIdx place (Char.ofNat n)) rest
      else none

/-- The label whose coded form, without its mark, is `s`. -/
def decodeLabel? (s : List Char) : Option (List Char) :=
  let basic := ((s.reverse.dropWhile (· != '-')).drop 1).reverse
  let coded := (s.reverse.takeWhile (· != '-')).reverse
  if coded.isEmpty then none else readInsertions (s.length + 1) 128 0 72 basic coded

/-- Whether a label may stand in the name of a web host: a coded one must decode to a text with
a character beyond ASCII, in small letters and without invisible characters. -/
def isLabel (s : List Char) : Bool :=
  match s with
  | 'x' :: 'n' :: '-' :: '-' :: coded =>
    match decodeLabel? coded with
    | some label =>
      label.any (127 < ·.toNat) && label.all (fun c => Text.isPrintable c || Text.extenders.mem c)
        && Text.lower label == label
    | none => false
  | _ => s.all fun c => c.toNat < 128 || Text.isPrintable c || Text.extenders.mem c

/-- Whether `c` has no place in the name of a web host. -/
def isForbiddenInDomain (c : Char) : Bool :=
  isDelimiter c || c.toNat < 32 || c.toNat = 127 || c == '%'

/-! ### Dotted addresses -/

/-- A number of a dotted address, in decimal, octal or hexadecimal; inner nothing if it is too
large. -/
def addressNumber? (s : List Char) : Option (Option Nat) :=
  let (radix, ds) :=
    match s with
    | '0' :: 'x' :: rest => (16, rest)
    | '0' :: 'X' :: rest => (16, rest)
    | '0' :: d :: rest => (8, d :: rest)
    | ds => (10, ds)
  if s.isEmpty then none
  else if ds.all fun d => match hexValue? d with
      | some v => v < radix
      | none => false then
    let n := ds.foldl (fun n d => radix * n + (hexValue? d).getD 0) 0
    some (if n < UInt32.size then some n else none)
  else none

/-- The parts of a name, without an empty last one. -/
def addressParts (s : List Char) : List (List Char) :=
  let parts := splitOn '.' s
  if parts.getLast? == some [] then parts.dropLast else parts

/-- Whether the last part of a name is a number. -/
def endsInNumber (s : List Char) : Bool :=
  match (addressParts s).getLast? with
  | some last => (!last.isEmpty && last.all Char.isDigit) || (addressNumber? last).isSome
  | none => false

/-- The address that a dotted name denotes: the last number fills the bytes that the numbers
before it leave. -/
def address? (s : List Char) : Option Nat := do
  let parts := addressParts s
  let numbers ← parts.mapM fun p => (addressNumber? p).bind id
  if 4 < parts.length then none
  else
    match numbers.reverse with
    | [] => none
    | last :: before =>
      if before.all (· < 256) && last < Nat.pow 256 (4 - before.length) then
        let upper := before.reverse.foldl (fun n b => 256 * n + b) 0
        pure (upper * Nat.pow 256 (4 - before.length) + last)
      else none

/-- The host of a web URL. -/
def Host.ofDomain? (s : List Char) : Option Host :=
  if s.head? == some '[' then bracketed? s
  else do
    let domain := Text.lower (← unescape? s)
    if domain.isEmpty || domain.any isForbiddenInDomain || !(splitOn '.' domain).all isLabel then none
    else if endsInNumber domain then (address? domain).map .short
    else pure (.name domain)

end Storekeeper.Url

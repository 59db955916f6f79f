import Storekeeper.Text.Numeral
import Storekeeper.Time.Instant

/-!
# Reading instants

`Instant.read` reads an instant from a date, a time of the day and an offset from universal
time.  The format is a relaxed form of the Internet one: blanks may stand before numbers and
before the marks between them, the year may have a sign, date and time may be separated by a
space, and `UTC` may be written in place of the offset.  Faults are reported in the order in
which they are met, and a date that does not exist comes last.
-/

namespace Storekeeper.Time

/-- Why a text is no instant. -/
inductive TimeFault where
  | tooShort
  | invalid
  | outOfRange
  | impossible
  | trailing
deriving DecidableEq, Repr

/-- The wording of a fault. -/
def TimeFault.message : TimeFault → String
  | tooShort => "premature end of input"
  | invalid => "input contains invalid characters"
  | outOfRange => "input is out of range"
  | impossible => "no possible date and time matching input"
  | trailing => "trailing input"

/-- What is read from the start of a text, and the text behind it. -/
abbrev Reader (α : Type) := List Char → Except TimeFault (α × List Char)

/-- A number of at least one and at most `width` digits, if a width is given. -/
def readDigits (width : Option Nat) : Reader Nat := fun s =>
  match s with
  | [] => .error .tooShort
  | c :: _ =>
    if c.isDigit then
      let all := s.takeWhile Char.isDigit
      let ds :=
        match width with
        | some w => all.take w
        | none => all
      .ok (Text.digitsValue 0 ds, s.drop ds.length)
    else .error .invalid

/-- A number of one or two digits between bounds, with blanks before it. -/
def readPart (least greatest : Nat) : Reader Nat := fun s => do
  let (n, rest) ← readDigits (some 2) (Text.trimStart s)
  if least ≤ n ∧ n ≤ greatest then pure (n, rest) else throw .outOfRange

/-- The mark `mark`, with blanks before it. -/
def readMark (mark : Char) : Reader Unit := fun s =>
  match Text.trimStart s with
  | [] => .error .tooShort
  | c :: rest => if c == mark then .ok ((), rest) else .error .invalid

/-- A year: four digits at most, or a sign and any number of digits. -/
def readYear : Reader Int := fun s =>
  match Text.trimStart s with
  | '-' :: rest => do
    let (n, rest) ← readDigits none rest
    if n < Nat.pow 2 31 then pure (-(n : Int), rest) else throw .outOfRange
  | '+' :: rest => do
    let (n, rest) ← readDigits none rest
    if n < Nat.pow 2 31 then pure ((n : Int), rest) else throw .outOfRange
  | rest => do
    let (n, rest) ← readDigits (some 4) rest
    pure ((n : Int), rest)

/-- A date. -/
def readDate : Reader Date := fun s => do
  let (year, s) ← readYear s
  let (_, s) ← readMark '-' s
  let (month, s) ← readPart 1 12 s
  let (_, s) ← readMark '-' s
  let (day, s) ← readPart 1 31 s
  pure (⟨year, month, day⟩, s)

/-- The nanoseconds of a fraction of a second, of which nine digits count, or zero if there is no
fraction. -/
def readFraction : Reader Nat := fun s =>
  match s with
  | '.' :: rest => do
    let (n, after) ← readDigits (some 9) rest
    let digits := rest.length - after.length
    pure (n * Nat.pow 10 (9 - digits), after.dropWhile Char.isDigit)
  | s => .ok (0, s)

/-- The second of the day and the nanosecond of a time; the sixtieth second is a leap second. -/
def readTime : Reader (Nat × Nat) := fun s => do
  let (hour, s) ← readPart 0 23 s
  let (_, s) ← readMark ':' s
  let (minute, s) ← readPart 0 59 s
  let (_, s) ← readMark ':' s
  let (second, s) ← readPart 0 60 s
  let (nano, s) ← readFraction s
  let start := hour * 3600 + minute * 60
  if second = 60 then pure ((start + 59, nano + 1000000000), Text.trimStart s)
  else pure ((start + second, nano), Text.trimStart s)

/-- The values of two digits at the start of a text, which must hold at least two bytes. -/
def twoDigits (s : List Char) : Except TimeFault (Nat × Nat) :=
  match s with
  | a :: b :: _ =>
    if a.isDigit && b.isDigit then .ok (Text.digitValue a, Text.digitValue b) else .error .invalid
  | [a] => if a.toNat < 128 then .error .tooShort else .error .invalid
  | [] => .error .tooShort

/-- The seconds of an offset behind its sign. -/
def readOffsetSeconds : Reader Nat := fun s => do
  let (h, h') ← twoDigits s
  let s := (s.drop 2).dropWhile fun c => c == ':' || Text.isBlank c
  match twoDigits s with
  | .ok (m, m') =>
    if m < 6 then pure ((10 * h + h') * 3600 + (10 * m + m') * 60, s.drop 2)
    else throw .outOfRange
  | .error e => throw e

/-- The offset from universal time, in seconds. -/
def readOffset : Reader Int := fun s =>
  if (s.take 3).map Char.toLower == ['u', 't', 'c'] then .ok (0, s.drop 3)
  else
    match s with
    | [] => .error .tooShort
    | c :: rest =>
      if c == 'Z' || c == 'z' then .ok (0, rest)
      else if c == '+' then do
        let (n, rest) ← readOffsetSeconds rest
        pure ((n : Int), rest)
      else if c == '-' || c.toNat == 0x2212 then do
        let (n, rest) ← readOffsetSeconds rest
        pure (-(n : Int), rest)
      else .error .invalid

/-- The separator between date and time. -/
def readSeparator : Reader Unit := fun s =>
  match s with
  | [] => .error .tooShort
  | c :: rest => if c == 't' || c == 'T' || c == ' ' then .ok ((), rest) else .error .invalid

/-- The instant that a text denotes, or the first fault in it. -/
def readInstant (s : List Char) : Except TimeFault Instant := do
  let (date, s) ← readDate s
  let (_, s) ← readSeparator s
  let ((second, nano), s) ← readTime s
  let (offset, s) ← readOffset s
  if !(Text.trimStart s).isEmpty then throw .trailing
  else
    let day := dayNumber date
    if !date.isValid || day < firstDay || lastDay < day || 86400 ≤ offset.natAbs then
      throw .outOfRange
    else
      let utc := (second : Int) - offset
      match Instant.ofParts? (day + utc / 86400) (utc % 86400).toNat nano with
      | some t => pure t
      | none => throw .impossible

end Storekeeper.Time

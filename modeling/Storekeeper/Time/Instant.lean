import Storekeeper.Text.Blank
import Storekeeper.Time.Calendar

/-!
# Instants

An instant is a point in universal time with a resolution of one nanosecond.  A leap second is
the second behind the last one of a minute and has nanoseconds from 1000000000 on.
`Instant.text` writes an instant with as many groups of three fractional digits as it needs.
-/

namespace Storekeeper.Time

/-- The first day that an instant may have. -/
def firstDay : Int := dayNumber ⟨-262143, 1, 1⟩

/-- The last day that an instant may have. -/
def lastDay : Int := dayNumber ⟨262142, 12, 31⟩

end Time

open Time

/-- A point in universal time. -/
structure Instant where
  /-- The day, counted from the first of January 1970. -/
  day : Int
  /-- The second of the day. -/
  second : Nat
  /-- The nanosecond of the second. -/
  nano : Nat
  day_mem : firstDay ≤ day ∧ day ≤ lastDay
  second_lt : second < 86400
  nano_lt : nano < 1000000000 ∨ (second % 60 = 59 ∧ nano < 2000000000)
deriving DecidableEq

namespace Instant

/-- The instant with the given parts, if there is one. -/
def ofParts? (day : Int) (second nano : Nat) : Option Instant :=
  if h : (firstDay ≤ day ∧ day ≤ lastDay) ∧ second < 86400 ∧
      (nano < 1000000000 ∨ (second % 60 = 59 ∧ nano < 2000000000)) then
    some ⟨day, second, nano, h.1, h.2.1, h.2.2⟩
  else none

theorem ofParts?_self (t : Instant) :
  ofParts? t.day t.second t.nano = some t
  := dif_pos ⟨t.day_mem, t.second_lt, t.nano_lt⟩

/-- The instant `ms` milliseconds after the start of the year 2024, or the end of time. -/
def afterStart (ms : Nat) : Instant where
  day := min (19723 + (ms / 86400000 : Nat)) lastDay
  second := ms / 1000 % 86400
  nano := ms % 1000 * 1000000
  day_mem := by
    have h : firstDay ≤ 19723 ∧ 19723 ≤ lastDay := by decide
    omega
  second_lt := by omega
  nano_lt := by omega

/-- `n` in decimal with at least `width` digits. -/
def padded (width n : Nat) : List Char :=
  let ds := Nat.toDigits 10 n
  List.replicate (width - ds.length) '0' ++ ds

/-- A year: four digits, or a sign and at least four digits outside of the years 0 to 9999. -/
def yearText (y : Int) : List Char :=
  if 0 ≤ y ∧ y ≤ 9999 then padded 4 y.toNat
  else (if y < 0 then '-' else '+') :: padded 4 y.natAbs

/-- The fraction of a second, in groups of three digits, or nothing for zero. -/
def fractionText (nano : Nat) : List Char :=
  if nano = 0 then []
  else if nano % 1000000 = 0 then '.' :: padded 3 (nano / 1000000)
  else if nano % 1000 = 0 then '.' :: padded 6 (nano / 1000)
  else '.' :: padded 9 nano

/-- An instant in the Internet date and time format. -/
def chars (t : Instant) : List Char :=
  let d := Date.ofDay t.day
  let leap := t.nano / 1000000000
  yearText d.year ++ '-' :: padded 2 d.month ++ '-' :: padded 2 d.day
    ++ 'T' :: padded 2 (t.second / 3600) ++ ':' :: padded 2 (t.second / 60 % 60)
    ++ ':' :: padded 2 (t.second % 60 + leap) ++ fractionText (t.nano % 1000000000) ++ ['Z']

/-- An instant in the Internet date and time format, as a string. -/
def text (t : Instant) : String := String.ofList t.chars

end Instant

end Storekeeper

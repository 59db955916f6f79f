/-!
# Numbers of double precision

A finite number of double precision is a sign, a significand below `2 ^ 53` and an exponent
of two.  `Binary64.ofRatio` rounds a ratio of natural numbers to the nearest such number, a
tie going to the even significand, and `Binary64.digits` finds the shortest decimal that is
rounded back to the number: among the decimals of the smallest number of digits that lie in
its rounding interval, the nearest.  All of it is exact arithmetic on natural numbers.
-/

namespace Storekeeper

/-- A finite number of double precision, `± significand * 2 ^ exponent`. -/
structure Binary64 where
  negative : Bool
  significand : Nat
  exponent : Int
deriving DecidableEq, Repr

namespace Binary64

/-- The exponent of the numbers closest to zero. -/
def leastExponent : Int := -1074

/-- The largest exponent. -/
def greatestExponent : Int := 971

/-- `num / den`, rounded to the nearest natural number, a tie going to the even one. -/
def divRound (num den : Nat) : Nat :=
  let q := num / den
  let twice := 2 * (num % den)
  if twice < den then q
  else if den < twice then q + 1
  else if q % 2 = 0 then q else q + 1

/-- The ratio `num / den * 2 ^ shift`, as a ratio of natural numbers. -/
def scale (num den : Nat) (shift : Int) : Nat × Nat :=
  if 0 ≤ shift then (num * Nat.pow 2 shift.toNat, den) else (num, den * Nat.pow 2 (-shift).toNat)

/-- The largest `l` with `2 ^ l ≤ num / den`, for positive `num` and `den`. -/
def log2Ratio (num den : Nat) : Int :=
  let l : Int := (num.log2 : Int) - (den.log2 : Int)
  let (n, d) := scale num den (-l)
  if d ≤ n then l else l - 1

/-- The number nearest to `num / den`, or nothing if it is out of range. -/
def ofRatio (negative : Bool) (num den : Nat) : Option Binary64 :=
  if num = 0 then some ⟨negative, 0, leastExponent⟩
  else
    let q := max (log2Ratio num den - 52) leastExponent
    let (n, d) := scale num den (-q)
    let m := divRound n d
    let (m, q) := if m = Nat.pow 2 53 then (Nat.pow 2 52, q + 1) else (m, q)
    if greatestExponent < q then none else some ⟨negative, m, q⟩

/-- The number nearest to `mantissa * 10 ^ exponent`, or nothing if it is out of range. -/
def ofDecimal (negative : Bool) (mantissa : Nat) (exponent : Int) : Option Binary64 :=
  if mantissa = 0 then some ⟨negative, 0, leastExponent⟩
  else
    let magnitude := exponent + (Nat.toDigits 10 mantissa).length
    if 400 < magnitude then none
    else if magnitude < -400 then some ⟨negative, 0, leastExponent⟩
    else if 0 ≤ exponent then ofRatio negative (mantissa * Nat.pow 10 exponent.toNat) 1
    else ofRatio negative mantissa (Nat.pow 10 (-exponent).toNat)

/-- The value times `4 / 10 ^ e`, with its two rounding limits on the same scale, as numerators
over one denominator. -/
def limits (x : Binary64) (e : Int) : Nat × Nat × Nat × Nat :=
  let below := if x.significand = Nat.pow 2 52 && x.exponent != leastExponent then 1 else 2
  let (two, half) :=
    if 0 ≤ x.exponent then (Nat.pow 2 x.exponent.toNat, 1) else (1, Nat.pow 2 (-x.exponent).toNat)
  let (ten, tenth) := if 0 ≤ e then (1, Nat.pow 10 e.toNat) else (Nat.pow 10 (-e).toNat, 1)
  let unit := two * ten
  ((4 * x.significand - below) * unit, 4 * x.significand * unit, (4 * x.significand + 2) * unit,
    4 * half * tenth)

/-- The best decimal `d * 10 ^ e` in the rounding interval, for the given `e`. -/
def atExponent? (x : Binary64) (e : Int) : Option Nat :=
  let (lo, v, hi, den) := x.limits e
  let even := x.significand % 2 = 0
  let inside (d : Nat) : Bool :=
    if even then lo ≤ d * den && d * den ≤ hi else lo < d * den && d * den < hi
  let down := v / den
  let up := down + 1
  match inside down && down != 0, inside up with
  | true, true => some (divRound v den)
  | true, false => some down
  | false, true => some up
  | false, false => none

/-- Tries the exponents `e`, `e - 1`, … in turn, at most `n` of them. -/
def searchDigits (x : Binary64) : Nat → Int → Nat × Int
  | 0, _ => (0, 0)
  | n + 1, e =>
    match x.atExponent? e with
    | some d => (d, e)
    | none => x.searchDigits n (e - 1)

/-- The least `e` with `value < 10 ^ e`, near enough from above. -/
def decimalMagnitude (x : Binary64) : Int :=
  let bits : Int := x.significand.log2 + 1 + x.exponent
  (bits * 30103) / 100000 + 1

/-- Moves zeros at the end of `d` into the exponent, at most `n` of them. -/
def stripZeros : Nat → Nat → Int → Nat × Int
  | 0, d, e => (d, e)
  | n + 1, d, e => if d != 0 && d % 10 = 0 then stripZeros n (d / 10) (e + 1) else (d, e)

/-- The shortest decimal `d * 10 ^ e` that is rounded back to a number's absolute value. -/
def digits (x : Binary64) : Nat × Int :=
  if x.significand = 0 then (0, 0)
  else
    let (d, e) := x.searchDigits 20 x.decimalMagnitude
    stripZeros 20 d e

/-- Where positional notation ends: numbers from `10 ^ least` up to `10 ^ greatest` are
written without an exponent. -/
structure NumberStyle where
  least : Int
  greatest : Int

/-- Numbers from 0.00001 up to 10 ^ 16 are written without an exponent. -/
def documentStyle : NumberStyle := ⟨-5, 16⟩

/-- `n` zeros. -/
def zeros (n : Nat) : List Char := List.replicate n '0'

/-- The text of a number: its shortest digits, with a fractional part in positional notation,
and with a signed exponent of at least two digits otherwise. -/
def text (style : NumberStyle) (x : Binary64) : String :=
  let (d, e) := x.digits
  let ds := Nat.toDigits 10 d
  let point : Int := e + ds.length
  let body : List Char :=
    if d = 0 then ['0', '.', '0']
    else if style.least < point && point ≤ style.greatest then
      if 0 ≤ e then ds ++ zeros e.toNat ++ ['.', '0']
      else if 0 < point then ds.take point.toNat ++ '.' :: ds.drop point.toNat
      else '0' :: '.' :: zeros (-point).toNat ++ ds
    else
      let fraction := if ds.length = 1 then [] else '.' :: ds.drop 1
      let p := point - 1
      let pd := Nat.toDigits 10 p.natAbs
      ds.take 1 ++ fraction ++ 'e' :: (if 0 ≤ p then '+' else '-') ::
        (if pd.length = 1 then '0' :: pd else pd)
  String.ofList (if x.negative then '-' :: body else body)

end Binary64

end Storekeeper

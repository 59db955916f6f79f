import Storekeeper.Redaction.Fragment
import Storekeeper.Text.Digit

/-!
# Dotted addresses

The fragment is four groups of one to three digits, joined by dots, between word boundaries.
Nothing of it stays.
-/

namespace Storekeeper.Redaction

/-- The length of a group of one to three digits, and the text behind it. -/
def readGroup (s : List Char) : Option (Nat × List Char) :=
  let n := (s.takeWhile Text.isDecimalDigit).length
  if 1 ≤ n ∧ n ≤ 3 then some (n, s.dropWhile Text.isDecimalDigit) else none

/-- The length of `more` groups, each behind a dot, if a word boundary follows them. -/
def readGroups : Nat → List Char → Option Nat
  | 0, s => if Text.startsWithWord s then none else some 0
  | more + 1, '.' :: s => do
    let (n, rest) ← readGroup s
    let m ← readGroups more rest
    pure (1 + n + m)
  | _ + 1, _ => none

/-- Masks dotted addresses. -/
def address : Rule := fun before s =>
  if Text.endsInWord before then none
  else do
    let (n, rest) ← readGroup s
    let m ← readGroups 3 rest
    pure ⟨0, n + m⟩

end Storekeeper.Redaction

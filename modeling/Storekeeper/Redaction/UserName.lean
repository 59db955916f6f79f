import Storekeeper.Redaction.Fragment
import Storekeeper.Text.Blank

/-!
# Quoted user names

The fragment is the word `user` in any letter case at a word boundary, a colon or an equals
sign between blanks, both optional, and a text in double, single or back quotes.  The word
`for` and blanks may stand before `user`; the boundary is then before `for`.  All but the
quoted text stays.
-/

namespace Storekeeper.Redaction

/-- Whether the case of `c` folds to that of the small letter `letter`. -/
def foldsTo (letter c : Char) : Bool :=
  c.toLower == letter || (letter == 's' && c.toNat == 0x17F)

/-- The text behind the word `word`, in any letter case. -/
def stripWord : List Char → List Char → Option (List Char)
  | [], s => some s
  | _ :: _, [] => none
  | letter :: word, c :: s => if foldsTo letter c then stripWord word s else none

/-- The length of a quoted text, its quotes included. -/
def quotedLength : List Char → Option Nat
  | [] => none
  | q :: rest =>
    if q == '\x22' || q == '\x27' || q == '\x60' then
      let inside := rest.takeWhile (· != q)
      if inside.length < rest.length then some (inside.length + 2) else none
    else none

/-- A text without one colon or equals sign at its start. -/
def dropMark : List Char → List Char
  | [] => []
  | c :: rest => if c == ':' || c == '=' then rest else c :: rest

/-- The text behind `user` and the optional mark between blanks. -/
def afterUser (s : List Char) : Option (List Char) :=
  (stripWord ['u', 's', 'e', 'r'] s).map fun rest =>
    Text.trimStart (dropMark (Text.trimStart rest))

/-- The text behind `for` and at least one blank. -/
def afterFor (s : List Char) : Option (List Char) :=
  match stripWord ['f', 'o', 'r'] s with
  | some rest => if (rest.takeWhile Text.isBlank).isEmpty then none else some (Text.trimStart rest)
  | none => none

/-- Masks quoted user names. -/
def userName : Rule := fun before s =>
  if Text.isBoundary before s then do
    let rest ← afterUser ((afterFor s).getD s)
    let n ← quotedLength rest
    pure ⟨s.length - rest.length, s.length - rest.length + n⟩
  else none

end Storekeeper.Redaction

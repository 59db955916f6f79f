import Storekeeper.Redaction.Fragment
import Storekeeper.Text.Blank

/-!
# Credentials in connection strings

The fragment is a scheme name at a word boundary, `://`, a user name, a colon and a possibly
empty password, before an at sign.  The user name is not empty and holds no blank, slash, at
sign or colon; the password holds no blank, slash or at sign.  The scheme stays.
-/

namespace Storekeeper.Redaction

/-- A letter of the alphabet in either case, or one of the two other characters whose case
folds to such a letter: the long s and the Kelvin sign. -/
def isFoldedLetter (c : Char) : Bool :=
  c.isAlpha || c.toNat == 0x17F || c.toNat == 0x212A

/-- Whether `c` may stand in a scheme name behind its first letter. -/
def isSchemeChar (c : Char) : Bool :=
  isFoldedLetter c || c.isDigit || c == '+' || c == '.' || c == '-'

/-- Whether `c` may stand in a password. -/
def isPasswordChar (c : Char) : Bool := !Text.isBlank c && c != '/' && c != '@'

/-- Whether `c` may stand in a user name. -/
def isUserChar (c : Char) : Bool := isPasswordChar c && c != ':'

/-- The length of a user name, a colon and a password, if they stand before an at sign. -/
def userInfoLength (s : List Char) : Option Nat :=
  let user := s.takeWhile isUserChar
  if user.isEmpty then none
  else
    match s.dropWhile isUserChar with
    | ':' :: rest =>
      match rest.dropWhile isPasswordChar with
      | '@' :: _ => some (user.length + 1 + (rest.takeWhile isPasswordChar).length)
      | _ => none
    | _ => none

/-- The length of a scheme name with `://`, and the text behind them. -/
def readScheme : List Char → Option (Nat × List Char)
  | [] => none
  | c :: rest =>
    if isFoldedLetter c then
      match rest.dropWhile isSchemeChar with
      | ':' :: '/' :: '/' :: after => some ((rest.takeWhile isSchemeChar).length + 4, after)
      | _ => none
    else none

/-- Masks user name and password of a connection string. -/
def credentials : Rule := fun before s =>
  if Text.isBoundary before s then
    match readScheme s with
    | some (kept, after) => (userInfoLength after).map fun n => ⟨kept, kept + n⟩
    | none => none
  else none

end Storekeeper.Redaction

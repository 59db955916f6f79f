import Storekeeper.Url.PercentCoding

/-!
# Paths

A path is a text of segments, each behind a slash.  While it is read, a segment of one dot is
left out and a segment of two dots takes away the segment before it; a dot may be
percent-coded.  The path read so far is kept in reverse.
-/

namespace Storekeeper.Url

/-- Whether a segment, in reverse or not, is one dot. -/
def isSingleDot (segment : List Char) : Bool :=
  segment == ['.'] || (match segment with
    | ['%', '2', e] => e == 'e' || e == 'E'
    | _ => false)

/-- Whether a segment is two dots. -/
def isDoubleDot (segment : List Char) : Bool :=
  match segment with
  | '.' :: rest => isSingleDot rest
  | '%' :: '2' :: e :: rest => (e == 'e' || e == 'E') && isSingleDot rest
  | _ => false

/-- Whether a segment begins with a drive letter: a letter and a colon or bar, alone or before a
backslash. -/
def isDrive (segment : List Char) : Bool :=
  match segment with
  | [letter, mark] => letter.isAlpha && (mark == ':' || mark == '|')
  | letter :: mark :: '\\' :: _ => letter.isAlpha && (mark == ':' || mark == '|')
  | _ => false

/-- Whether the last slash of a reversed path can go: one more segment stands before it, which is
no drive letter. -/
def lastSlashCanGo (path : List Char) : Bool :=
  match path with
  | '/' :: before =>
    before.contains '/' && !isDrive ((before.takeWhile (· != '/')).reverse)
  | _ => false

/-- A reversed path without its last segment. -/
def dropLastSegment (path : List Char) : List Char :=
  let path := if lastSlashCanGo path then path.drop 1 else path
  path.dropWhile (· != '/')

/-- A reversed path that ends in a slash. -/
def closed (path : List Char) : List Char :=
  if path.head? == some '/' then path else '/' :: path

/-- The reversed path after one more segment, which a slash may follow. -/
def addSegment (path segment : List Char) (slash : Bool) : List Char :=
  if isDoubleDot segment then
    let path := dropLastSegment path
    if slash then closed path else path
  else if isSingleDot segment then closed path
  else
    let path := segment.reverse ++ path
    if slash then '/' :: path else path

/-- The reversed path after the segments of `s`; the segment being read is kept in reverse. -/
def addSegments (isSlash : Char → Bool) (path segment : List Char) : List Char → List Char
  | [] => addSegment path (escape pathEscapes segment.reverse) false
  | c :: rest =>
    if isSlash c then
      addSegments isSlash (addSegment path (escape pathEscapes segment.reverse) true) [] rest
    else addSegments isSlash path (c :: segment) rest

/-- The path that the text `s` denotes behind the path `start`. -/
def readPath (isSlash : Char → Bool) (start s : List Char) : List Char :=
  (addSegments isSlash start.reverse [] s).reverse

end Storekeeper.Url

import Storekeeper.Url.Host
import Storekeeper.Url.Path

/-!
# URLs

A URL is a scheme, an authority that may be missing, and a path; a query and a fragment may
follow and are passed over.  `Url.parse?` reads one and answers nothing for a text that is
none.  Spaces and controls around the text are ignored, as are tabs and line ends within it.
The scheme is in small letters, the path is percent-coded, and the segments of one or two dots
are resolved unless the path has no segments, that is, unless a scheme without rules of its own
is followed by something else than a slash.
-/

namespace Storekeeper

/-- The host of a URL with what may stand around it. -/
structure Url.Authority where
  /-- The text before the last at sign. -/
  userInfo : Option (List Char)
  host : Url.Host
  port : Option Nat
deriving DecidableEq, Repr

/-- A URL without query and fragment. -/
structure Url where
  scheme : String
  authority : Option Url.Authority
  path : List Char
deriving DecidableEq, Repr

namespace Url

/-- The schemes of the web, whose URLs always have a host. -/
def webSchemes : List String := ["http", "https", "ws", "wss", "ftp"]

/-- How the text behind a scheme is read. -/
inductive Family where
  | web
  | file
  | other
deriving DecidableEq, Repr

/-- The family of a scheme. -/
def Family.ofScheme (scheme : String) : Family :=
  if webSchemes.contains scheme then .web
  else if scheme = "file" then .file
  else .other

/-- Whether `c` ends an authority. -/
def Family.endsAuthority (family : Family) (c : Char) : Bool :=
  c == '/' || c == '?' || c == '#' || (family != .other && c == '\\')

/-- Whether `c` separates segments. -/
def Family.isSlash (family : Family) (c : Char) : Bool :=
  c == '/' || (family != .other && c == '\\')

/-- A text without the spaces and controls around it and the tabs and line ends within it. -/
def clean (s : List Char) : List Char :=
  let outer (c : Char) : Bool := c.toNat ≤ 32
  let s := ((s.dropWhile outer).reverse.dropWhile outer).reverse
  s.filter fun c => !(c == '\t' || c == '\n' || c == '\r')

/-- Whether `c` may stand in a scheme behind its first letter. -/
def isSchemeChar (c : Char) : Bool := c.isAlphanum || c == '+' || c == '-' || c == '.'

/-- The scheme in small letters and the text behind its colon. -/
def readScheme? (s : List Char) : Option (String × List Char) :=
  match s with
  | [] => none
  | c :: _ =>
    if c.isAlpha then
      match s.dropWhile isSchemeChar with
      | ':' :: rest => some (String.ofList ((s.takeWhile isSchemeChar).map Char.toLower), rest)
      | _ => none
    else none

/-- The text before and after the last at sign. -/
def splitUserInfo (s : List Char) : Option (List Char) × List Char :=
  let host := (s.reverse.takeWhile (· != '@')).reverse
  if s.contains '@' then (some (s.take (s.length - host.length - 1)), host) else (none, host)

/-- The text up to the first colon outside of brackets, and the text from there on. -/
def splitHost (inside : Bool) : List Char → List Char × List Char
  | [] => ([], [])
  | c :: rest =>
    if c == ':' && !inside then ([], c :: rest)
    else
      let (host, after) := splitHost (if c == '[' then true else if c == ']' then false else inside) rest
      (c :: host, after)

/-- The port behind the host, if one is given, and what is left behind it. -/
def readPort (s : List Char) : Option (Option Nat × List Char) :=
  match s with
  | ':' :: rest =>
    let ds := rest.takeWhile Char.isDigit
    let port := ds.foldl (fun n d => 10 * n + (d.toNat - 48)) 0
    let after := rest.dropWhile Char.isDigit
    if 65535 < port then none
    else if after.isEmpty || after.head? == some '\\' then
      some (if ds.isEmpty then none else some port, after)
    else none
  | s => some (none, s)

/-- The authority that a text denotes, and what is left behind it; `last` tells whether the text
is the end of the URL. -/
def readAuthority (family : Family) (last : Bool) (s : List Char) :
    Option (Authority × List Char) := do
  let (userInfo, hostAndPort) := splitUserInfo s
  if userInfo = some [] ∧ hostAndPort.isEmpty ∧ !last then none
  else
    let (hostText, after) := splitHost false hostAndPort
    let host ← if family = .web then Host.ofDomain? hostText else Host.ofOpaque? hostText
    let hasCredentials := userInfo.isSome && userInfo != some [] && userInfo != some [':']
    if host = .name [] ∧ (after.head? = some ':' ∨ hasCredentials) then none
    else
      let (port, after) ← readPort after
      pure (⟨userInfo, host, port⟩, after)

/-- The text in front of a query or fragment. -/
def beforeQuery (s : List Char) : List Char := s.takeWhile fun c => c != '?' && c != '#'

/-- The path behind an authority. -/
def pathAfterAuthority (family : Family) (s : List Char) : List Char :=
  let text := beforeQuery s
  match text with
  | [] => if family = .other then [] else ['/']
  | c :: rest => if family.isSlash c then readPath family.isSlash ['/'] rest
    else readPath family.isSlash ['/'] text

/-- A URL with an authority, given the text behind its two slashes. -/
def withAuthority (scheme : String) (family : Family) (s : List Char) : Option Url := do
  let ends (c : Char) : Bool := family.endsAuthority c
  let rest := s.dropWhile fun c => !ends c
  let (authority, after) ← readAuthority family rest.isEmpty (s.takeWhile fun c => !ends c)
  pure ⟨scheme, some authority, pathAfterAuthority family (after ++ rest)⟩

/-- A URL of a file, given the text behind its scheme. -/
def ofFile (scheme : String) (s : List Char) : Option Url :=
  match s with
  | a :: b :: rest =>
    if Family.file.isSlash a && Family.file.isSlash b then
      let hostText := rest.takeWhile fun c => !Family.file.endsAuthority c
      let after := rest.dropWhile fun c => !Family.file.endsAuthority c
      if hostText.isEmpty || isDrive hostText then
        some ⟨scheme, none, pathAfterAuthority .file (if hostText.isEmpty then after else rest)⟩
      else (Host.ofDomain? hostText).map fun host =>
        ⟨scheme, some ⟨none, host, none⟩, pathAfterAuthority .file after⟩
    else some ⟨scheme, none, pathAfterAuthority .file s⟩
  | s => some ⟨scheme, none, pathAfterAuthority .file s⟩

/-- The URL that a text denotes. -/
def parse? (text : String) : Option Url := do
  let (scheme, rest) ← readScheme? (clean text.toList)
  match Family.ofScheme scheme with
  | .web => withAuthority scheme .web (rest.dropWhile fun c => c == '/' || c == '\\')
  | .file => ofFile scheme rest
  | .other =>
    match rest with
    | '/' :: '/' :: rest => withAuthority scheme .other rest
    | '/' :: rest => pure ⟨scheme, none, readPath (· == '/') ['/'] (beforeQuery rest)⟩
    | rest => pure ⟨scheme, none, escape opaqueEscapes (beforeQuery rest)⟩

end Url

end Storekeeper

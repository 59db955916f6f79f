import Storekeeper.Settings.Lookup
import Storekeeper.Text.Alphanumeric

/-!
# Files of variables

A file of variables binds one variable a line, `NAME=value`, with an optional `export` before
the name.  A value may be quoted: between single quotes every character stands for itself,
between double quotes and outside of quotes a backslash escapes the next character and a
dollar sign stands before the name of a variable whose value is inserted.  Outside of quotes a
blank ends the value, and only a comment may follow.  `EnvFile.load` adds the variables of a
file to those that are bound already, which win, as does the first binding in the file; the
lines behind one that cannot be read are ignored.
-/

namespace Storekeeper.EnvFile

/-- How a variable that is inserted is written. -/
inductive Insertion where
  /-- No name is being read. -/
  | none
  /-- A name behind a dollar sign. -/
  | plain
  /-- A name between braces. -/
  | braced
deriving DecidableEq, Repr

/-- Where the reading of a value stands. -/
structure ValueState where
  strong : Bool := false
  weak : Bool := false
  escaped : Bool := false
  ended : Bool := false
  insertion : Insertion := .none
  /-- The name of the variable to be inserted, in reverse. -/
  name : List Char := []
  /-- The value so far, in reverse. -/
  output : List Char := []

/-- Inserts the value of the variable whose name has been read. -/
def ValueState.insert (get : Lookup) (st : ValueState) : ValueState :=
  let value := (get (String.ofList st.name.reverse)).getD ""
  { st with name := [], output := value.toList.reverse ++ st.output }

/-- Adds a character to the value. -/
def ValueState.push (st : ValueState) (c : Char) : ValueState :=
  { st with output := c :: st.output }

/-- One character behind a dollar sign. -/
def stepInsertion (get : Lookup) (st : ValueState) (c : Char) : ValueState :=
  if Text.isAlphanumeric c then { st with name := c :: st.name }
  else
    match st.insertion with
    | .braced =>
      if c == '\x7d' then ({ st with insertion := .none }).insert get
      else { st with name := c :: st.name }
    | _ =>
      if c == '\x7b' && st.name.isEmpty then { st with insertion := .braced }
      else
        let st := st.insert get
        if c == '$' then { st with insertion := .plain }
        else ({ st with insertion := .none }).push c

/-- One character of a value, or nothing if it has no place there. -/
def step (get : Lookup) (st : ValueState) (c : Char) : Option ValueState :=
  if st.ended then if c == ' ' || c == '\t' then some st else none
  else if st.escaped then
    let st := { st with escaped := false }
    if ['\\', '\x27', '\x22', '$', ' '].contains c then some (st.push c)
    else if c == 'n' then some (st.push '\n')
    else none
  else if st.strong then
    some (if c == '\x27' then { st with strong := false } else st.push c)
  else if st.insertion != .none then some (stepInsertion get st c)
  else if c == '$' then some { st with insertion := .plain }
  else if st.weak then
    some (if c == '\x22' then { st with weak := false }
      else if c == '\\' then { st with escaped := true }
      else st.push c)
  else if c == '\x27' then some { st with strong := true }
  else if c == '\x22' then some { st with weak := true }
  else if c == '\\' then some { st with escaped := true }
  else if c == ' ' || c == '\t' then some { st with ended := true }
  else some (st.push c)

/-- The state behind a text; a comment behind the value ends the reading. -/
def steps (get : Lookup) (st : ValueState) : List Char → Option ValueState
  | [] => some st
  | c :: rest =>
    if st.ended && c == '#' then some st
    else
      match step get st c with
      | some st => steps get st rest
      | none => none

/-- The value that a text denotes. -/
def readValue (get : Lookup) (s : List Char) : Option String := do
  let st ← steps get {} s
  if st.insertion = .braced || st.strong || st.weak then none
  else pure (String.ofList (st.insert get).output.reverse)

/-- Whether `c` may stand in a name behind its first character. -/
def isNameChar (c : Char) : Bool := c.isAlphanum || c == '_' || c == '.'

/-- The name at the start of a text, and the text behind it and the blanks that follow. -/
def readName (s : List Char) : Option (String × List Char) :=
  match s with
  | [] => none
  | c :: _ =>
    if c.isAlpha || c == '_' then
      some (String.ofList (s.takeWhile isNameChar), Text.trimStart (s.dropWhile isNameChar))
    else none

/-- The text behind an equals sign. -/
def afterEquals : List Char → Option (List Char)
  | '=' :: rest => some rest
  | _ => none

/-- The variable that a line binds, and the text of its value; a blank line or a comment binds
none. -/
def readLine (line : List Char) : Option (Option (String × List Char)) :=
  let s := Text.trimStart (Text.trimEnd line)
  if s.isEmpty || s.head? == some '#' then some none
  else do
    let (name, rest) ← readName s
    match afterEquals rest with
    | some value => pure (some (name, Text.trimStart value))
    | none =>
      if name = "export" then
        let (name, rest) ← readName rest
        let value ← afterEquals rest
        pure (some (name, Text.trimStart value))
      else none

/-- The lines of a text; a carriage return before a line end belongs to it. -/
def lines (s : List Char) : List (List Char) :=
  let parts := Url.splitOn '\n' s
  let parts := if parts.getLast? == some [] then parts.dropLast else parts
  parts.map fun line => if line.getLast? == some '\r' then line.dropLast else line

/-- Adds a binding to those at hand, which win. -/
def bind (get : Lookup) (name value : String) : Lookup := fun other =>
  (get other).or (if other = name then some value else none)

/-- The bindings after the given lines: `get` are those in force, and `own` those of the file,
of which the last counts. -/
def loadLines (get own : Lookup) : List (List Char) → Lookup
  | [] => get
  | line :: rest =>
    match readLine line with
    | none => get
    | some none => loadLines get own rest
    | some (some (name, text)) =>
      let known : Lookup := fun n => (get n).or (own n)
      match if text.isEmpty || text.head? == some '#' then some "" else readValue known text with
      | none => get
      | some value =>
        loadLines (bind get name value) (fun n => if n = name then some value else own n) rest

/-- The variables that are bound already and those that a file adds. -/
def load (get : Lookup) (text : String) : Lookup :=
  loadLines get (fun _ => none) (lines text.toList)

end Storekeeper.EnvFile

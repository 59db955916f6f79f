import Storekeeper.Decode.Fault

/-!
# Reading values from documents

A decoder reads a value from a document or says what is wrong with it.  A structure is read
from an object, whose other members are ignored, or from an array of its fields in order.  The
members of an object are checked in the order in which they stand, and the fields that are
missing are looked for afterwards, in the order of the structure.
-/

namespace Storekeeper

/-- An instant as a document, or null in its absence. -/
def Json.ofInstant? : Option Instant → Json
  | none => .null
  | some t => .str t.text

/-- Reads a value from a document. -/
abbrev Decoder (α : Type) := Json → Except Decode.Fault α

namespace Decode

/-- A text. -/
def text : Decoder String
  | .str s => .ok s
  | j => .error (.wrongKind j "a string")

/-- A yes or no. -/
def flag : Decoder Bool
  | .bool b => .ok b
  | j => .error (.wrongKind j "a boolean")

/-- A natural number below `2 ^ 64`. -/
def natural : Decoder Nat
  | .num (.int n) =>
    if 0 ≤ n ∧ n < UInt64.size then .ok n.toNat else .error (.wrongValue (.num (.int n)) "u64")
  | j => .error (.wrongKind j "u64")

/-- An instant. -/
def instant : Decoder Instant
  | .str s =>
    match Time.readInstant s.toList with
    | .ok t => .ok t
    | .error fault => .error (.time fault)
  | j => .error (.wrongKind j "an RFC 3339 formatted date and time string")

/-- Nothing, written as null, or a value. -/
def optional {α : Type} (d : Decoder α) : Decoder (Option α)
  | .null => .ok none
  | j => (d j).map some

/-- The value with the given name. -/
def named {α : Type} (all : List α) (name : α → String) (s : String) : Except Fault α :=
  match all.find? fun a => name a == s with
  | some a => .ok a
  | none => .error (.unknownName s (all.map name))

/-- One of finitely many values, by its name or as the only member of an object, with the value
null. -/
def choice {α : Type} (all : List α) (name : α → String) : Decoder α
  | .str s => named all name s
  | .obj [(key, value)] => do
    let a ← named all name key
    match value with
    | .null => pure a
    | other => throw (.wrongKind other "unit")
  | .obj members => .error (.wrongValue (.obj members) "map with a single key")
  | j => .error (.wrongKind j "string or map")

/-- The name of a field and what is wrong with a value for it. -/
structure Field where
  name : String
  fault : Json → Option Fault

/-- The field whose values are read by `d`. -/
def field {α : Type} (name : String) (d : Decoder α) : Field where
  name := name
  fault j :=
    match d j with
    | .ok _ => none
    | .error f => some f

/-- The first fault among members, in the order in which they stand. -/
def firstFault (fields : List Field) (members : Json.Members) : Option Fault :=
  members.findSome? fun m => (fields.find? (·.name == m.1)).bind fun f => f.fault m.2

/-- The members of a structure with the given name and fields. -/
def members (name : String) (fields : List Field) : Decoder Json.Members
  | .obj ms =>
    match firstFault fields ms with
    | some f => .error f
    | none => .ok ms
  | .arr items =>
    let ms := (fields.map (·.name)).zip items
    match firstFault fields ms with
    | some f => .error f
    | none =>
      if items.length < fields.length then
        .error (.wrongLength items.length s!"struct {name} with {fields.length} elements")
      else if fields.length < items.length then
        .error (.wrongLength items.length "fewer elements in array")
      else .ok ms
  | j => .error (.wrongKind j ("struct " ++ name))

/-- The value of a field that must be there. -/
def required {α : Type} (ms : Json.Members) (name : String) (d : Decoder α) : Except Fault α :=
  match Json.get? name ms with
  | some j => d j
  | none => .error (.missingField name)

/-- The value of a field that may be missing or null. -/
def possible {α : Type} (ms : Json.Members) (name : String) (d : Decoder α) :
    Except Fault (Option α) :=
  match Json.get? name ms with
  | some j => optional d j
  | none => .ok none

end Decode

end Storekeeper

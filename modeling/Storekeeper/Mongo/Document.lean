import Storekeeper.Error
import Storekeeper.Json.Basic

/-!
# Documents in a MongoDB deployment

A document is stored with its identifier in the member `_id` and handed out without that member.
What a deployment keeps are members with values of its own; a `Codec` tells how documents are turned
into such members and how the values are turned back.  With the codec `plain` a value is the document
that it stands for: only an object can be stored then, and no integer of it may exceed the signed
ones of 64 bits.
-/

namespace Storekeeper.Mongo

/-- The member that holds the identifier of a stored document. -/
def idField : String := "_id"

/-- The largest integer that can be stored. -/
def largestInteger : Int := 9223372036854775807

mutual

/-- The first integer in a document that is too large to be stored. -/
def oversized? : Json → Option Int
  | .num (.int n) => if largestInteger < n then some n else none
  | .arr items => oversizedItem? items
  | .obj members => oversizedMember? members
  | .null | .bool _ | .num (.float _) | .str _ => none

/-- The first integer in some documents that is too large to be stored. -/
def oversizedItem? : List Json → Option Int
  | [] => none
  | item :: rest => (oversized? item).or (oversizedItem? rest)

/-- The first integer in the members of an object that is too large to be stored. -/
def oversizedMember? : Json.Members → Option Int
  | [] => none
  | (_, value) :: rest => (oversized? value).or (oversizedMember? rest)

end

/-- The name of the type of a document. -/
def typeName : Json → String
  | .null => "Null"
  | .bool _ => "Boolean"
  | .num (.int _) => "Int64"
  | .num (.float _) => "Double"
  | .str _ => "String"
  | .arr _ => "Array"
  | .obj _ => "Document"

/-- Why an integer that is too large has no value. -/
def oversizedText (n : Int) : String :=
  "BSON does not support unsigned integers.\n                 " ++
    "An attempt to serialize the value: " ++ toString n ++
    " in a signed type failed due to the value's size."

/-- The values of a deployment's documents, with the conversions to them and back. -/
structure Codec where
  /-- The values of the members of stored documents. -/
  Value : Type
  /-- A text as a value. -/
  text : String → Value
  /-- The members that stand for a document, or why there are none. -/
  encode : Json → Except String (List (String × Value))
  /-- The document that a value stands for. -/
  decode : Value → Json

namespace Codec

/-- The codec with which a value is the document that it stands for. -/
def plain : Codec where
  Value := Json
  text := .str
  encode document :=
    match oversized? document with
    | some n => .error (oversizedText n)
    | none =>
      match document with
      | .obj members => .ok members
      | other =>
        .error ("Could not be serialized to Document, got " ++ typeName other ++ " instead")
  decode value := value

/-- The members under which a document is stored. -/
def toStored (c : Codec) (id : String) (document : Json) :
    Except Error (List (String × c.Value)) :=
  match c.encode document with
  | .ok members => .ok (Json.put idField (c.text id) members)
  | .error reason => .error (.serialization ("BSON error: " ++ reason))

/-- The documents that some members stand for, under their names. -/
def decodeMembers (c : Codec) (members : List (String × c.Value)) : Json.Members :=
  members.map fun m => (m.1, c.decode m.2)

/-- The document that was stored under the given members. -/
def ofStored (c : Codec) (members : List (String × c.Value)) : Json :=
  .obj (c.decodeMembers (Json.drop idField members))

end Codec

end Storekeeper.Mongo

import Storekeeper.Mongo.Document

/-!
# Documents that come back

What is read of a stored document is the document without its own member `_id`: the identifier takes
the place of that member, and is taken away again with it.  So a document comes back as it was
exactly if it has no such member, as long as the codec turns the other members back into what they
were.
-/

namespace Storekeeper.Mongo.Codec

variable {c : Codec} {id : String} {document : Json} {members : Json.Members}
  {stored : List (String × c.Value)}

/-- The members that the codec has for an object stand for those of the object. -/
def Restores (c : Codec) (members : Json.Members) : Prop :=
  ∀ kept, c.encode (.obj members) = .ok kept → c.decodeMembers kept = members

theorem restores_plain (members : Json.Members) :
  plain.Restores members
  := by
  intro kept h
  simp only [plain] at h
  split at h
  · cases h
  · obtain rfl := Except.ok.inj h
    exact List.map_id members

/-- A document is stored under the members that stand for it, with the identifier among them. -/
theorem toStored_eq_ok_iff :
  c.toStored id document = .ok stored
    ↔ ∃ kept, c.encode document = .ok kept ∧ stored = Json.put idField (c.text id) kept
  := by
  unfold toStored
  cases c.encode document with
  | error reason => simp
  | ok kept => simp [eq_comm]

theorem ofStored_put (value : c.Value) (kept : List (String × c.Value)) :
  c.ofStored (Json.put idField value kept) = .obj (Json.drop idField (c.decodeMembers kept))
  := by
  rw [ofStored, Json.drop_put, decodeMembers, Json.map_drop, ← decodeMembers]

/-- A stored document is kept with its identifier, and comes back without its own member of that
name.  It comes back as it was exactly if it had no such member. -/
theorem ofStored_eq_iff (hstored : c.toStored id (.obj members) = .ok stored)
    (hrestores : c.Restores members) :
  Json.get? idField stored = some (c.text id)
    ∧ c.ofStored stored = .obj (Json.drop idField members)
    ∧ (c.ofStored stored = .obj members ↔ Json.get? idField members = none)
  := by
  obtain ⟨kept, hkept, rfl⟩ := toStored_eq_ok_iff.mp hstored
  have hback : c.ofStored (Json.put idField (c.text id) kept)
      = .obj (Json.drop idField members) := by
    rw [ofStored_put, hrestores kept hkept]
  refine ⟨Json.get?_put_self idField (c.text id) kept, hback, ?_⟩
  rw [hback, Json.obj.injEq, Json.drop_eq_self_iff]

/-- Of two members `_id`, the document's own one is lost and the one further inside stays. -/
theorem ofStored_eq_iff_nested :
  plain.toStored "u1" (.obj [("name", .str "Ada"), ("_id", .str "own"),
        ("boss", .obj [("_id", .str "u0")])])
      = .ok [("name", Json.str "Ada"), ("_id", Json.str "u1"),
        ("boss", Json.obj [("_id", .str "u0")])]
    ∧ plain.ofStored [("name", Json.str "Ada"), ("_id", Json.str "u1"),
        ("boss", Json.obj [("_id", .str "u0")])]
      = .obj [("name", .str "Ada"), ("boss", .obj [("_id", .str "u0")])]
  := by
  have hstored : plain.toStored "u1" (.obj [("name", .str "Ada"), ("_id", .str "own"),
        ("boss", .obj [("_id", .str "u0")])])
      = .ok [("name", Json.str "Ada"), ("_id", Json.str "u1"),
        ("boss", Json.obj [("_id", .str "u0")])] := by
    rfl
  obtain ⟨-, hback, -⟩ := ofStored_eq_iff hstored (restores_plain _)
  exact ⟨hstored, hback⟩

/-- Not every document comes back as it was. -/
theorem not_forall_ofStored_eq :
  ¬ ∀ (c : Codec) (id : String) (members : Json.Members) (stored : List (String × c.Value)),
      c.Restores members → c.toStored id (.obj members) = .ok stored →
        c.ofStored stored = .obj members
  := by
  intro h
  have hback := h plain "u1" [("_id", .str "own"), ("name", .str "Ada")]
    [("_id", .str "u1"), ("name", .str "Ada")] (restores_plain _) rfl
  have hlength := congrArg List.length (Json.obj.inj hback)
  exact absurd hlength (by decide)

end Storekeeper.Mongo.Codec

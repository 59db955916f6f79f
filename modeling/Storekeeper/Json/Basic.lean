import Storekeeper.Json.Binary64

/-!
# Documents

The values that the store keeps are documents in the JSON data model.  An object is the list
of its members in the order in which they were written; `Json.get?` finds a member by name,
`Json.put` replaces one in its place or appends it, and `Json.drop` takes one away, whatever
the values of the members are.
-/

namespace Storekeeper

/-- A number is an integer of at most 64 bits or of double precision. -/
inductive Number where
  | int (value : Int)
  | float (value : Binary64)
deriving DecidableEq, Repr

/-- A document. -/
inductive Json where
  | null
  | bool (value : Bool)
  | num (value : Number)
  | str (value : String)
  | arr (items : List Json)
  | obj (members : List (String × Json))

namespace Json

instance : Inhabited Json := ⟨null⟩

/-- The members of an object, in order. -/
abbrev Members := List (String × Json)

/-- The integer `n` as a document. -/
def ofNat (n : Nat) : Json := num (.int n)

section

variable {α : Type}

/-- The value of the first member named `key`. -/
def get? (key : String) : List (String × α) → Option α
  | [] => none
  | (k, v) :: rest => if k = key then some v else get? key rest

/-- The members with `key` bound to `value`, in the place of an earlier binding if there is one
and at the end otherwise. -/
def put (key : String) (value : α) : List (String × α) → List (String × α)
  | [] => [(key, value)]
  | (k, v) :: rest => if k = key then (key, value) :: rest else (k, v) :: put key value rest

/-- The members without the first one named `key`. -/
def drop (key : String) : List (String × α) → List (String × α)
  | [] => []
  | (k, v) :: rest => if k = key then rest else (k, v) :: drop key rest

theorem get?_put_self (key : String) (value : α) (ms : List (String × α)) :
  get? key (put key value ms) = some value
  := by
  induction ms with
  | nil => simp [put, get?]
  | cons m rest ih =>
    obtain ⟨k, v⟩ := m
    by_cases h : k = key <;> simp [put, get?, h, ih]

theorem get?_put_of_ne {key other : String} (h : other ≠ key) (value : α)
    (ms : List (String × α)) :
  get? other (put key value ms) = get? other ms
  := by
  induction ms with
  | nil => simp [put, get?, Ne.symm h]
  | cons m rest ih =>
    obtain ⟨k, v⟩ := m
    by_cases hk : k = key
    · subst hk
      simp [put, get?, Ne.symm h]
    · by_cases ho : k = other
      · subst ho
        simp [put, get?, h]
      · simp [put, get?, hk, ho, ih]

/-- A binding that is taken away again is as if it had not been there. -/
theorem drop_put (key : String) (value : α) (ms : List (String × α)) :
  drop key (put key value ms) = drop key ms
  := by
  induction ms with
  | nil => simp [put, drop]
  | cons m rest ih =>
    obtain ⟨k, v⟩ := m
    by_cases h : k = key <;> simp [put, drop, h, ih]

theorem drop_eq_self_iff {key : String} {ms : List (String × α)} :
  drop key ms = ms ↔ get? key ms = none
  := by
  induction ms with
  | nil => simp [drop, get?]
  | cons m rest ih =>
    obtain ⟨k, v⟩ := m
    by_cases h : k = key <;> simp [drop, get?, h, ih]

theorem map_drop {β : Type} (f : α → β) (key : String) (ms : List (String × α)) :
  (drop key ms).map (fun m => (m.1, f m.2)) = drop key (ms.map fun m => (m.1, f m.2))
  := by
  induction ms with
  | nil => rfl
  | cons m rest ih =>
    obtain ⟨k, v⟩ := m
    by_cases h : k = key <;> simp [drop, h, ih]

end

/-- A text as a document, or null in its absence. -/
def ofText? : Option String → Json
  | none => null
  | some s => str s

end Json

end Storekeeper

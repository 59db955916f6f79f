import Storekeeper.Error
import Storekeeper.Json.Basic

/-!
# Tables

The contents of a store: a finite map from keys to documents, where a key names a collection
and a document in it.  The documents are listed in the order of their keys, hence tables are
determined by what `Tables.find?` finds in them, and `Tables.documents` lists a collection in
the order of its identifiers.  A collection without documents is not told from a missing one.
-/

namespace Storekeeper

/-- The place of a document: its collection and its identifier there. -/
structure Key where
  collection : String
  id : String
deriving DecidableEq, Repr

namespace Key

/-- A key in messages. -/
def text (k : Key) : String := k.collection ++ "/" ++ k.id

/-- Keys are ordered by collection and then by identifier. -/
def Before (a b : Key) : Prop :=
  a.collection < b.collection ∨ (a.collection = b.collection ∧ a.id < b.id)

instance (a b : Key) : Decidable (Before a b) := inferInstanceAs (Decidable (_ ∨ _))

theorem before_irrefl (a : Key) :
  ¬ a.Before a
  := by
  rintro (h | ⟨_, h⟩)
  · exact String.lt_irrefl _ h
  · exact String.lt_irrefl _ h

theorem before_trans {a b c : Key} (hab : a.Before b) (hbc : b.Before c) :
  a.Before c
  := by
  obtain ⟨a₁, a₂⟩ := a
  obtain ⟨b₁, b₂⟩ := b
  obtain ⟨c₁, c₂⟩ := c
  rcases hab with h | ⟨h, h'⟩ <;> rcases hbc with k | ⟨k, k'⟩ <;> simp only at h k
  · exact .inl (String.lt_trans h k)
  · exact .inl (k ▸ h)
  · exact .inl (h ▸ k)
  · exact .inr ⟨h.trans k, String.lt_trans h' k'⟩

theorem before_trichotomy (a b : Key) :
  a.Before b ∨ a = b ∨ b.Before a
  := by
  obtain ⟨a₁, a₂⟩ := a
  obtain ⟨b₁, b₂⟩ := b
  rcases Std.lt_trichotomy a₁ b₁ with h | rfl | h
  · exact .inl (.inl h)
  · rcases Std.lt_trichotomy a₂ b₂ with h | rfl | h
    · exact .inl (.inr ⟨rfl, h⟩)
    · exact .inr (.inl rfl)
    · exact .inr (.inr (.inr ⟨rfl, h⟩))
  · exact .inr (.inr (.inl h))

end Key

/-- A document with its key. -/
abbrev Entry := Key × Json

namespace Entry

/-- Entries in the order of their keys, each key once. -/
abbrev Sorted (es : List Entry) : Prop := es.Pairwise fun a b => a.1.Before b.1

/-- The document under a key. -/
def find? (k : Key) : List Entry → Option Json
  | [] => none
  | (k', d) :: rest => if k' = k then some d else find? k rest

/-- The entries with a document put in its place. -/
def put (k : Key) (d : Json) : List Entry → List Entry
  | [] => [(k, d)]
  | (k', d') :: rest =>
    if k' = k then (k, d) :: rest
    else if k'.Before k then (k', d') :: put k d rest
    else (k, d) :: (k', d') :: rest

theorem mem_put {k : Key} {d : Json} {es : List Entry} {e : Entry} (h : e ∈ put k d es) :
  e = (k, d) ∨ e ∈ es
  := by
  induction es with
  | nil => exact .inl (List.mem_singleton.mp h)
  | cons e' rest ih =>
    obtain ⟨k', d'⟩ := e'
    rw [put] at h
    split at h
    · rcases List.mem_cons.mp h with h | h
      · exact .inl h
      · exact .inr (List.mem_cons_of_mem _ h)
    · split at h
      · rcases List.mem_cons.mp h with h | h
        · exact .inr (h ▸ List.mem_cons_self)
        · exact (ih h).imp_right (List.mem_cons_of_mem _)
      · exact List.mem_cons.mp h

theorem sorted_put {k : Key} {d : Json} {es : List Entry} (h : Sorted es) :
  Sorted (put k d es)
  := by
  induction es with
  | nil => exact List.pairwise_singleton _ _
  | cons e' rest ih =>
    obtain ⟨k', d'⟩ := e'
    obtain ⟨hfirst, hrest⟩ := List.pairwise_cons.mp h
    rw [put]
    split
    · next heq =>
      subst heq
      exact List.pairwise_cons.mpr ⟨hfirst, hrest⟩
    · next hne =>
      split
      · next hlt =>
        refine List.pairwise_cons.mpr ⟨fun e he => ?_, ih hrest⟩
        rcases mem_put he with rfl | he
        · exact hlt
        · exact hfirst e he
      · next hnlt =>
        have hlt : k.Before k' := by
          rcases Key.before_trichotomy k' k with h | h | h
          · exact absurd h hnlt
          · exact absurd h hne
          · exact h
        refine List.pairwise_cons.mpr ⟨fun e he => ?_, h⟩
        rcases List.mem_cons.mp he with rfl | he
        · exact hlt
        · exact Key.before_trans hlt (hfirst e he)

theorem find?_put (k k' : Key) (d : Json) (es : List Entry) :
  find? k' (put k d es) = if k = k' then some d else find? k' es
  := by
  induction es with
  | nil => rfl
  | cons e rest ih =>
    obtain ⟨k₁, d₁⟩ := e
    by_cases h : k₁ = k
    · subst h
      by_cases h' : k₁ = k' <;> simp [put, find?, h']
    · by_cases hb : k₁.Before k
      · by_cases h₁ : k₁ = k'
        · subst h₁
          simp [put, find?, h, hb, Ne.symm h]
        · simp [put, find?, h, hb, h₁, ih]
      · simp [put, find?, h, hb]

theorem find?_filter (keep : Key → Bool) (k : Key) (es : List Entry) :
  find? k (es.filter fun e => keep e.1) = if keep k then find? k es else none
  := by
  induction es with
  | nil => simp [find?]
  | cons e rest ih =>
    obtain ⟨k', d⟩ := e
    by_cases h : k' = k
    · subst h
      cases hk : keep k' <;> simp [List.filter, find?, hk, ih]
    · cases hk : keep k' <;> simp [List.filter, find?, hk, h, ih]

theorem find?_eq_none {k : Key} {es : List Entry} (h : ∀ e ∈ es, k.Before e.1) :
  find? k es = none
  := by
  induction es with
  | nil => rfl
  | cons e rest ih =>
    obtain ⟨k', d⟩ := e
    have hne : k' ≠ k := by
      rintro rfl
      exact Key.before_irrefl _ (h _ List.mem_cons_self)
    rw [find?, if_neg hne]
    exact ih fun e he => h e (List.mem_cons_of_mem _ he)

theorem eq_of_find? {es fs : List Entry} (he : Sorted es) (hf : Sorted fs)
    (h : ∀ k, find? k es = find? k fs) :
  es = fs
  := by
  induction es generalizing fs with
  | nil =>
    cases fs with
    | nil => rfl
    | cons f fs => simpa [find?] using h f.1
  | cons e es ih =>
    obtain ⟨k, d⟩ := e
    obtain ⟨he₁, he₂⟩ := List.pairwise_cons.mp he
    cases fs with
    | nil => simpa [find?] using h k
    | cons f fs =>
      obtain ⟨k', d'⟩ := f
      obtain ⟨hf₁, hf₂⟩ := List.pairwise_cons.mp hf
      have hk : k = k' := by
        rcases Key.before_trichotomy k k' with hlt | heq | hlt
        · have hk := h k
          rw [find?, if_pos rfl, find?_eq_none] at hk
          · cases hk
          · intro e hm
            rcases List.mem_cons.mp hm with rfl | hm
            · exact hlt
            · exact Key.before_trans hlt (hf₁ e hm)
        · exact heq
        · have hk := h k'
          rw [find?_eq_none, find?, if_pos rfl] at hk
          · cases hk
          · intro e hm
            rcases List.mem_cons.mp hm with rfl | hm
            · exact hlt
            · exact Key.before_trans hlt (he₁ e hm)
      subst hk
      have hd := h k
      rw [find?, find?, if_pos rfl, if_pos rfl] at hd
      cases hd
      congr 1
      refine ih he₂ hf₂ fun k₁ => ?_
      have h₁ := h k₁
      by_cases heq : k = k₁
      · subst heq
        rw [find?_eq_none he₁, find?_eq_none hf₁]
      · rwa [find?, find?, if_neg heq, if_neg heq] at h₁

end Entry

/-- The contents of a store. -/
structure Tables where
  /-- The documents with their keys, in order. -/
  entries : List Entry := []
  sorted : Entry.Sorted entries := by exact List.Pairwise.nil

namespace Tables

/-- Nothing. -/
abbrev empty : Tables := {}

instance : Inhabited Tables := ⟨empty⟩

/-- The document under a key. -/
def find? (t : Tables) (k : Key) : Option Json := Entry.find? k t.entries

/-- Whether there is a document under a key. -/
def contains (t : Tables) (k : Key) : Bool := (t.find? k).isSome

/-- The tables with a document put under a key. -/
def put (t : Tables) (k : Key) (d : Json) : Tables :=
  ⟨Entry.put k d t.entries, Entry.sorted_put t.sorted⟩

/-- The tables with those documents whose keys are to be kept. -/
def keep (t : Tables) (p : Key → Bool) : Tables :=
  ⟨t.entries.filter fun e => p e.1, t.sorted.filter _⟩

/-- The tables without the document under a key. -/
def erase (t : Tables) (k : Key) : Tables := t.keep fun k' => k' != k

/-- The tables without the documents of a collection. -/
def clear (t : Tables) (collection : String) : Tables :=
  t.keep fun k => k.collection != collection

/-- The entries of a collection. -/
def collection (t : Tables) (name : String) : List Entry :=
  t.entries.filter fun e => e.1.collection == name

/-- The number of documents in a collection. -/
def count (t : Tables) (name : String) : Nat := (t.collection name).length

/-- The documents of a collection, in the order of their identifiers. -/
def documents (t : Tables) (name : String) : List Json := (t.collection name).map (·.2)

/-- Tables are determined by the documents under their keys. -/
theorem ext_find? {t u : Tables} (h : ∀ k, t.find? k = u.find? k) :
  t = u
  := by
  obtain ⟨es, he⟩ := t
  obtain ⟨fs, hf⟩ := u
  congr
  exact Entry.eq_of_find? he hf h

@[simp]
theorem find?_empty (k : Key) :
  find? {} k = none
  := rfl

@[simp]
theorem find?_put (t : Tables) (k k' : Key) (d : Json) :
  (t.put k d).find? k' = if k = k' then some d else t.find? k'
  := Entry.find?_put k k' d t.entries

@[simp]
theorem find?_keep (t : Tables) (p : Key → Bool) (k : Key) :
  (t.keep p).find? k = if p k then t.find? k else none
  := Entry.find?_filter p k t.entries

@[simp]
theorem find?_erase (t : Tables) (k k' : Key) :
  (t.erase k).find? k' = if k' = k then none else t.find? k'
  := by
  by_cases h : k' = k <;> simp [erase, h]

@[simp]
theorem find?_clear (t : Tables) (name : String) (k : Key) :
  (t.clear name).find? k = if k.collection = name then none else t.find? k
  := by
  by_cases h : k.collection = name <;> simp [clear, h]

end Tables

/-- A change to the contents of a store. -/
inductive Write where
  | insert (key : Key) (document : Json)
  | delete (key : Key)
  | deleteAll (collection : String)

namespace Write

/-- The tables after a change; a document can only be inserted where there is none. -/
def apply (t : Tables) : Write → Except Error Tables
  | insert k d => if t.contains k then .error (.duplicateKey k.text) else .ok (t.put k d)
  | delete k => .ok (t.erase k)
  | deleteAll name => .ok (t.clear name)

end Write

/-- The tables after the given changes in order, or the error of the first that fails. -/
def Tables.replay (t : Tables) (writes : List Write) : Except Error Tables :=
  writes.foldlM Write.apply t

@[simp]
theorem Tables.replay_nil (t : Tables) :
  t.replay [] = .ok t
  := rfl

theorem Tables.replay_append (t : Tables) (ws ws' : List Write) :
  t.replay (ws ++ ws') = (t.replay ws).bind fun u => u.replay ws'
  := List.foldlM_append

end Storekeeper

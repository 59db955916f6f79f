import Storekeeper.Store.Tables

/-!
# Transactions

A transaction works on a view of its own, which starts as the contents of the store at the time
when it is begun, and keeps the list of its writes.  The writes are replayed on the contents of
the store when it is committed, all of them or none.  A transaction that was committed, even
without success, or rolled back is finished and refuses every further operation.

`Transaction.Operation` is the type of operations, each of which has a type of replies, and
`Transaction.perform` performs one of them.
-/

namespace Storekeeper

/-- A transaction on a store. -/
structure Transaction where
  /-- The name of the transaction. -/
  name : String
  /-- The contents of the store as the transaction sees them. -/
  view : Tables
  /-- The writes of the transaction, in order. -/
  writes : List Write := []
  finished : Bool := false

namespace Transaction

/-- An operation on a transaction. -/
inductive Operation where
  | insert (key : Key) (document : Json)
  | find (key : Key)
  | delete (key : Key)
  | deleteAll (collection : String)
  | count (collection : String)
  | commit
  | rollback

namespace Operation

/-- What an operation that succeeds replies: `find` a document, if there is one, `delete` whether
there was one, `deleteAll` and `count` how many there were. -/
abbrev Reply : Operation → Type
  | insert _ _ => Unit
  | find _ => Option Json
  | delete _ => Bool
  | deleteAll _ => Nat
  | count _ => Nat
  | commit => Unit
  | rollback => Unit

/-- The name of an operation. -/
def name : Operation → String
  | insert _ _ => "insert"
  | find _ => "find"
  | delete _ => "delete"
  | deleteAll _ => "delete_all"
  | count _ => "count"
  | commit => "commit"
  | rollback => "rollback"

/-- The collection that an operation is about. -/
def collection? : Operation → Option String
  | insert k _ | find k | delete k => some k.collection
  | deleteAll c | count c => some c
  | commit | rollback => none

end Operation

/-- A reply with the transaction and the contents of the store after an operation. -/
structure Answer (ρ : Type) where
  reply : Except Error ρ
  transaction : Transaction
  tables : Tables

/-- Makes a change in the view and adds it to the writes, if it can be made. -/
def stage {ρ : Type} (tx : Transaction) (t : Tables) (w : Write) (reply : ρ) : Answer ρ :=
  match w.apply tx.view with
  | .ok view => ⟨.ok reply, { tx with view := view, writes := tx.writes ++ [w] }, t⟩
  | .error e => ⟨.error e, tx, t⟩

/-- Publishes the writes of a transaction, if all of them can be made. -/
def publish (tx : Transaction) (t : Tables) : Answer Unit :=
  match t.replay tx.writes with
  | .ok next => ⟨.ok (), { tx with writes := [], finished := true }, next⟩
  | .error e => ⟨.error e, { tx with writes := [], finished := true }, t⟩

/-- The error of an operation on a finished transaction. -/
def finishedError (tx : Transaction) : Error :=
  .validation ("Transaction " ++ tx.name ++ " is already finished")

/-- Performs an operation on a transaction that is not finished. -/
def act (tx : Transaction) (t : Tables) : (op : Operation) → Answer op.Reply
  | .insert k d => tx.stage t (.insert k d) ()
  | .find k => ⟨.ok (tx.view.find? k), tx, t⟩
  | .delete k => if tx.view.contains k then tx.stage t (.delete k) true else ⟨.ok false, tx, t⟩
  | .deleteAll c => tx.stage t (.deleteAll c) (tx.view.count c)
  | .count c => ⟨.ok (tx.view.count c), tx, t⟩
  | .commit => tx.publish t
  | .rollback => ⟨.ok (), { tx with view := .empty, writes := [], finished := true }, t⟩

/-- Performs an operation on a transaction over a store with contents `t`. -/
def perform (tx : Transaction) (t : Tables) (op : Operation) : Answer op.Reply :=
  if tx.finished then ⟨.error tx.finishedError, tx, t⟩ else tx.act t op

/-- The transaction begun on a store with contents `t`. -/
def begin (name : String) (t : Tables) : Transaction := { name := name, view := t }

theorem perform_of_finished {tx : Transaction} (h : tx.finished = true) (t : Tables)
    (op : Operation) :
  tx.perform t op = ⟨.error tx.finishedError, tx, t⟩
  := by
  simp [perform, h]

/-- Only a commit changes the contents of the store. -/
theorem tables_perform (tx : Transaction) (t : Tables) (op : Operation) (h : op ≠ .commit) :
  (tx.perform t op).tables = t
  := by
  have hstage : ∀ {ρ : Type} (w : Write) (reply : ρ), (tx.stage t w reply).tables = t := by
    intro ρ w reply
    unfold stage
    split <;> rfl
  unfold perform
  split
  · rfl
  · cases op with
    | delete k =>
      simp only [act]
      split
      · exact hstage _ _
      · rfl
    | commit => exact absurd rfl h
    | insert k d => exact hstage _ _
    | deleteAll c => exact hstage _ _
    | find k => rfl
    | count c => rfl
    | rollback => rfl

end Transaction

end Storekeeper

import Mathlib.Data.List.Induction
import Storekeeper.Store.Memory

/-!
# Interleaved transactions

Any number of transactions may be begun on one store, and what they do may follow in any order.
`SharedStore` is a store with the transactions that were begun on it and the history of what they
did, and `SharedStore.run` lets actions happen one after another.  The history alone determines
which writes a transaction has staged, whether it is finished, and which transactions published
their writes in which order.

`SharedStore.Change` lists all that one action can do; `SharedStore.step_change` says that it
does nothing else.
-/

namespace Storekeeper

namespace Transaction

namespace Operation

/-- The writes that an operation with a given reply adds to its transaction. -/
def staged : (op : Operation) → op.Reply → List Write
  | insert k d, _ => [.insert k d]
  | delete k, true => [.delete k]
  | delete _, false => []
  | deleteAll c, _ => [.deleteAll c]
  | find _, _ | count _, _ | commit, _ | rollback, _ => []

/-- Whether an operation is a commit. -/
def isCommit : Operation → Bool
  | commit => true
  | _ => false

/-- Whether an operation finishes its transaction. -/
def isClosing : Operation → Bool
  | commit | rollback => true
  | _ => false

end Operation

/-- An operation that does not finish its transaction adds to the writes what it changes in the
view, and leaves the contents of the store alone. -/
structure Answer.Stages {op : Operation} (tx : Transaction) (t : Tables)
    (answer : Answer op.Reply) : Prop where
  tables : answer.tables = t
  name : answer.transaction.name = tx.name
  finished : answer.transaction.finished = tx.finished
  writes : ∀ reply, answer.reply = .ok reply →
    answer.transaction.writes = tx.writes ++ op.staged reply
      ∧ tx.view.replay (op.staged reply) = .ok answer.transaction.view
  refused : ∀ e, answer.reply = .error e → answer.transaction = tx

theorem stage_stages (op : Operation) (reply : op.Reply) (tx : Transaction) (t : Tables)
    {w : Write} (h : op.staged reply = [w]) :
  Answer.Stages tx t (tx.stage t w reply)
  := by
  unfold stage
  split
  · next view hw =>
    refine ⟨rfl, rfl, rfl, ?_, ?_⟩
    · rintro _ ⟨⟩
      rw [h]
      refine ⟨rfl, ?_⟩
      simp [Tables.replay, hw, bind, Except.bind, pure, Except.pure]
    · rintro e ⟨⟩
  · next e hw =>
    refine ⟨rfl, rfl, rfl, ?_, ?_⟩
    · rintro _ ⟨⟩
    · intros
      rfl

/-- An operation that only looks stages nothing. -/
theorem look_stages (op : Operation) (reply : op.Reply) (tx : Transaction) (t : Tables)
    (h : op.staged reply = []) :
  Answer.Stages tx t (⟨.ok reply, tx, t⟩ : Answer op.Reply)
  := by
  refine ⟨rfl, rfl, rfl, ?_, ?_⟩
  · rintro _ ⟨⟩
    rw [h]
    simp
  · rintro e ⟨⟩

theorem act_stages (tx : Transaction) (t : Tables) {op : Operation} (h : op.isClosing = false) :
  Answer.Stages tx t (tx.act t op)
  := by
  cases op with
  | insert k d => apply stage_stages (.insert k d) () tx t rfl
  | find k => apply look_stages (.find k) _ tx t rfl
  | delete k =>
    simp only [act]
    split
    · apply stage_stages (.delete k) true tx t rfl
    · apply look_stages (.delete k) false tx t rfl
  | deleteAll c => apply stage_stages (.deleteAll c) _ tx t rfl
  | count c => apply look_stages (.count c) _ tx t rfl
  | commit => cases h
  | rollback => cases h

theorem act_finished (tx : Transaction) (t : Tables) {op : Operation} (h : op.isClosing = true) :
  (tx.act t op).transaction.finished = true
  := by
  cases op with
  | commit =>
    simp only [act, publish]
    split
    · rfl
    · rfl
  | rollback => rfl
  | _ => cases h

end Transaction

/-- An operation that a transaction performed. -/
structure Performance where
  /-- The number of the transaction. -/
  id : Nat
  /-- What the transaction saw before. -/
  view : Tables
  /-- The contents of the store before. -/
  tables : Tables
  op : Transaction.Operation
  reply : Except Error op.Reply

namespace Performance

/-- The writes that were staged. -/
def staged (p : Performance) : List Write :=
  match p.reply with
  | .ok reply => p.op.staged reply
  | .error _ => []

/-- Whether the writes of the transaction were published. -/
def publishes (p : Performance) : Bool := p.op.isCommit && p.reply.isOk

end Performance

/-- The record of an operation that the transaction `tx` performs on a store with contents `t`. -/
def Transaction.performance (tx : Transaction) (id : Nat) (t : Tables)
    (op : Transaction.Operation) : Performance :=
  ⟨id, tx.view, t, op, (tx.perform t op).reply⟩

@[simp]
theorem Transaction.performance_id (tx : Transaction) (id : Nat) (t : Tables)
    (op : Transaction.Operation) :
  (tx.performance id t op).id = id
  := rfl

@[simp]
theorem Transaction.performance_op (tx : Transaction) (id : Nat) (t : Tables)
    (op : Transaction.Operation) :
  (tx.performance id t op).op = op
  := rfl

/-- Something that happened on a store. -/
inductive Event where
  /-- The transaction with the given number was begun on the given contents. -/
  | begun (id : Nat) (snapshot : Tables)
  /-- A transaction could not be begun. -/
  | refused (error : Error)
  | performed (performance : Performance)
  | dropped (id : Nat)

namespace Event

/-- The writes that the transaction with the given number staged. -/
def staged (id : Nat) : Event → List Write
  | performed p => if p.id = id then p.staged else []
  | _ => []

/-- Whether the transaction with the given number was committed, even without success, or rolled
back. -/
def closes (id : Nat) : Event → Bool
  | performed p => p.id == id && p.op.isClosing
  | _ => false

/-- The transaction that published its writes. -/
def publisher : Event → Option Nat
  | performed p => if p.publishes then some p.id else none
  | _ => none

end Event

/-- What happened on a store, in order. -/
abbrev History := List Event

namespace History

/-- The writes that the transaction with the given number staged, in order. -/
def staged (h : History) (id : Nat) : List Write := h.flatMap (·.staged id)

/-- Whether the transaction with the given number was committed, even without success, or rolled
back. -/
def finished (h : History) (id : Nat) : Bool := h.any (·.closes id)

/-- The transactions whose commit succeeded, in the order of the commits. -/
def published (h : History) : List Nat := h.filterMap Event.publisher

/-- The writes of the transactions whose commit succeeded, in the order of the commits. -/
def writes (h : History) : List Write := h.published.flatMap h.staged

@[simp]
theorem staged_append (h h' : History) (id : Nat) :
  History.staged (h ++ h') id = h.staged id ++ h'.staged id
  := List.flatMap_append

@[simp]
theorem staged_singleton (e : Event) (id : Nat) :
  History.staged [e] id = e.staged id
  := List.flatMap_singleton _ _

@[simp]
theorem finished_append (h h' : History) (id : Nat) :
  History.finished (h ++ h') id = (h.finished id || h'.finished id)
  := List.any_append

@[simp]
theorem finished_singleton (e : Event) (id : Nat) :
  History.finished [e] id = e.closes id
  := by
  simp [finished]

@[simp]
theorem published_append (h h' : History) :
  History.published (h ++ h') = h.published ++ h'.published
  := List.filterMap_append

/-- A transaction that published its writes is finished. -/
theorem finished_of_mem_published {h : History} {id : Nat} (hid : id ∈ h.published) :
  h.finished id = true
  := by
  obtain ⟨e, he, hpub⟩ := List.mem_filterMap.mp hid
  apply List.any_eq_true.mpr
  use e, he
  cases e with
  | performed p =>
    simp only [Event.publisher, Option.ite_none_right_eq_some, Performance.publishes,
      Bool.and_eq_true] at hpub
    obtain ⟨⟨hcommit, -⟩, hp⟩ := hpub
    cases hop : p.op with
    | commit => simpa [Event.closes, hop, Transaction.Operation.isClosing] using hp
    | _ => simp [hop, Transaction.Operation.isCommit] at hcommit
  | _ => cases hpub

end History

/-- A store with the transactions that were begun on it. -/
structure SharedStore where
  store : MemoryStore
  /-- The transactions in the order in which they were begun, without those that were dropped. -/
  transactions : List (Option Transaction) := []
  history : History := []

namespace SharedStore

/-- What can be done with a store and its transactions. -/
inductive Action where
  | plan (faults : Faults)
  | connect
  | disconnect
  | ping (now : Nat)
  | begin (name : String)
  | perform (id : Nat) (op : Transaction.Operation)
  | drop (id : Nat)

/-- The contents of the store. -/
def tables (s : SharedStore) : Tables := s.store.tables

/-- The transaction with the given number. -/
def transaction? (s : SharedStore) (id : Nat) : Option Transaction := s.transactions[id]?.join

/-- Performs an operation on the transaction `tx` with the given number. -/
def perform (s : SharedStore) (id : Nat) (tx : Transaction) (op : Transaction.Operation) :
    SharedStore :=
  let answer := tx.perform s.tables op
  { store := { s.store with tables := answer.tables }
    transactions := s.transactions.set id (some answer.transaction)
    history := s.history ++ [.performed (tx.performance id s.tables op)] }

@[simp]
theorem tables_perform (s : SharedStore) (id : Nat) (tx : Transaction)
    (op : Transaction.Operation) :
  (s.perform id tx op).tables = (tx.perform s.tables op).tables
  := rfl

@[simp]
theorem transactions_perform (s : SharedStore) (id : Nat) (tx : Transaction)
    (op : Transaction.Operation) :
  (s.perform id tx op).transactions
    = s.transactions.set id (some (tx.perform s.tables op).transaction)
  := rfl

@[simp]
theorem history_perform (s : SharedStore) (id : Nat) (tx : Transaction)
    (op : Transaction.Operation) :
  (s.perform id tx op).history = s.history ++ [.performed (tx.performance id s.tables op)]
  := rfl

/-- Does one action.  A transaction that does not exist does nothing. -/
def step (s : SharedStore) : Action → SharedStore
  | .plan faults => { s with store := { s.store with faults := faults } }
  | .connect => { s with store := s.store.connect.2 }
  | .disconnect => { s with store := s.store.disconnect.2 }
  | .ping now => { s with store := (s.store.startPing now).2 }
  | .begin name =>
    match s.store.begin name with
    | (.ok tx, store) =>
      { store := store
        transactions := s.transactions ++ [some tx]
        history := s.history ++ [.begun s.transactions.length s.tables] }
    | (.error e, store) => { s with store := store, history := s.history ++ [.refused e] }
  | .perform id op =>
    match s.transaction? id with
    | some tx => s.perform id tx op
    | none => s
  | .drop id =>
    match s.transaction? id with
    | some _ =>
      { s with
        transactions := s.transactions.set id none
        history := s.history ++ [.dropped id] }
    | none => s

/-- Does some actions one after another. -/
def run (s : SharedStore) (actions : List Action) : SharedStore := actions.foldl step s

/-- All that one action can do. -/
inductive Change (s : SharedStore) : SharedStore → Prop where
  /-- Nothing happens but in the connection of the store. -/
  | quiet (store : MemoryStore) (h : store.tables = s.tables) : Change s { s with store := store }
  | begun (store : MemoryStore) (h : store.tables = s.tables) (name : String) :
    Change s
      { store := store
        transactions := s.transactions ++ [some (.begin name s.tables)]
        history := s.history ++ [.begun s.transactions.length s.tables] }
  | refused (store : MemoryStore) (h : store.tables = s.tables) (e : Error) :
    Change s { s with store := store, history := s.history ++ [.refused e] }
  | performed (id : Nat) (tx : Transaction) (h : s.transaction? id = some tx)
      (op : Transaction.Operation) :
    Change s (s.perform id tx op)
  | dropped (id : Nat) (tx : Transaction) (h : s.transaction? id = some tx) :
    Change s
      { s with
        transactions := s.transactions.set id none
        history := s.history ++ [.dropped id] }

theorem step_change (s : SharedStore) (a : Action) :
  Change s (s.step a)
  := by
  cases a with
  | plan faults => exact .quiet _ rfl
  | connect =>
    apply Change.quiet
    simp only [MemoryStore.connect]
    split
    · rfl
    · rfl
  | disconnect =>
    apply Change.quiet
    simp only [MemoryStore.disconnect]
    split
    · rfl
    · rfl
  | ping now => exact .quiet _ rfl
  | begin name =>
    by_cases hc : s.store.connected
    · simp only [step, MemoryStore.begin, hc, if_true]
      apply Change.begun
      rfl
    · simp only [step, MemoryStore.begin, hc, if_false, Bool.false_eq_true]
      apply Change.refused
      rfl
  | perform id op =>
    simp only [step]
    split
    · next tx h => exact .performed id tx h op
    · exact .quiet _ rfl
  | drop id =>
    simp only [step]
    split
    · next tx h => exact .dropped id tx h
    · exact .quiet _ rfl

theorem step_perform {s : SharedStore} {id : Nat} {tx : Transaction}
    (h : s.transaction? id = some tx) (op : Transaction.Operation) :
  s.step (.perform id op) = s.perform id tx op
  := by
  simp only [step, h]

@[simp]
theorem run_nil (s : SharedStore) :
  s.run [] = s
  := rfl

@[simp]
theorem run_concat (s : SharedStore) (actions : List Action) (a : Action) :
  s.run (actions ++ [a]) = (s.run actions).step a
  := by
  simp [run]

/-- What every action preserves is preserved by a run. -/
theorem run_induction {P : SharedStore → Prop} {s : SharedStore} (h : P s)
    (hstep : ∀ s s', P s → Change s s' → P s') (actions : List Action) :
  P (s.run actions)
  := by
  induction actions using List.reverseRecOn with
  | nil => exact h
  | append_singleton actions a ih =>
    rw [run_concat]
    apply hstep _ _ ih (step_change _ a)

/-- One event at most is added to the history by an action. -/
theorem Change.history {s s' : SharedStore} (h : Change s s') :
  s'.history = s.history ∨ ∃ e, s'.history = s.history ++ [e]
  := by
  cases h with
  | quiet store h => exact .inl rfl
  | begun store h name => exact .inr ⟨_, rfl⟩
  | refused store h e => exact .inr ⟨_, rfl⟩
  | performed id tx h op => exact .inr ⟨_, rfl⟩
  | dropped id tx h => exact .inr ⟨_, rfl⟩

/-- Every event of a history is added by one of the actions. -/
theorem exists_step_of_history {s : SharedStore} (hs : s.history = []) {actions : List Action}
    {before after : History} {e : Event}
    (h : (s.run actions).history = before ++ e :: after) :
  ∃ done a, (s.run done).history = before
    ∧ ((s.run done).step a).history = before ++ [e]
  := by
  induction actions using List.reverseRecOn generalizing after with
  | nil => simp [hs] at h
  | append_singleton actions a ih =>
    rw [run_concat] at h
    rcases (step_change (s.run actions) a).history with hh | ⟨e', hh⟩
    · apply ih (h := hh ▸ h)
    · rw [hh] at h
      cases after using List.reverseRecOn with
      | nil =>
        obtain ⟨h₁, h₂⟩ := List.append_inj' h rfl
        cases h₂
        use actions, a, h₁
        rw [hh, h₁]
      | append_singleton after e'' =>
        rw [← List.cons_append, ← List.append_assoc] at h
        obtain ⟨h₁, -⟩ := List.append_inj' h rfl
        apply ih h₁

end SharedStore

end Storekeeper

import Mathlib.Algebra.GroupWithZero.Nat
import Storekeeper.Proofs.Manager.Tasks
import Storekeeper.Proofs.Store.Removal

/-!
# What a reset removes

The task `reset` counts the documents of the known collections in the contents with which its
transaction was begun, while its commit removes those that are there then.  So the number that it
returns is the number of documents that it removed only as long as nobody added or removed any
meanwhile.  `removal_iff` says so, and says of all transactions when a commit removes only what the
transaction saw, and when it removes only what it counted.
-/

namespace Storekeeper

namespace Tables

/-- The tables without the documents of some collections. -/
def clearAll (t : Tables) (cs : List String) : Tables := t.keep fun k => !cs.contains k.collection

/-- The number of documents in some collections. -/
def total (t : Tables) (cs : List String) : Nat := (cs.map t.count).sum

/-- The documents that other tables do not have. -/
def missing (t u : Tables) : List Entry := t.entries.filter fun e => !u.contains e.1

theorem clearAll_cons (t : Tables) (c : String) (cs : List String) :
  t.clearAll (c :: cs) = (t.clear c).clearAll cs
  := by
  apply ext_find?
  intro k
  by_cases hc : k.collection = c
  · simp [clearAll, hc]
  · simp [clearAll, hc]

theorem contains_clearAll (t : Tables) (cs : List String) (k : Key) :
  (t.clearAll cs).contains k = (!cs.contains k.collection && t.contains k)
  := by
  unfold contains clearAll
  rw [find?_keep]
  cases cs.contains k.collection with
  | true => rfl
  | false => rfl

theorem replay_clearAll (t : Tables) (cs : List String) :
  t.replay (cs.map .deleteAll) = .ok (t.clearAll cs)
  := by
  induction cs generalizing t with
  | nil =>
    apply congrArg Except.ok
    apply ext_find?
    simp [clearAll]
  | cons c cs ih =>
    rw [List.map_cons, replay_cons, clearAll_cons]
    apply ih

theorem total_cons (t : Tables) (c : String) (cs : List String) :
  t.total (c :: cs) = t.count c + t.total cs
  := rfl

/-- Clearing a collection leaves the number of documents in others as it is. -/
theorem total_clear (t : Tables) {c : String} {cs : List String} (h : c ∉ cs) :
  (t.clear c).total cs = t.total cs
  := by
  apply congrArg List.sum
  apply List.map_congr_left
  intro c' hc'
  have hne : c' ≠ c := by
    rintro rfl
    exact h hc'
  unfold count collection clear keep
  rw [List.filter_filter]
  apply congrArg List.length
  apply List.filter_congr
  intro e he
  by_cases hc : e.1.collection = c'
  · simp [hc, hne]
  · simp [hc]

theorem length_clear (t : Tables) (c : String) :
  t.count c + (t.clear c).entries.length = t.entries.length
  := (List.length_eq_length_filter_add _).symm

theorem length_clearAll (t : Tables) {cs : List String} (h : cs.Nodup) :
  t.total cs + (t.clearAll cs).entries.length = t.entries.length
  := by
  induction cs generalizing t with
  | nil => simp [total, clearAll, keep]
  | cons c cs ih =>
    obtain ⟨hc, hcs⟩ := List.nodup_cons.mp h
    rw [total_cons, clearAll_cons, ← t.total_clear hc, Nat.add_assoc, ih _ hcs, length_clear]

theorem contains_of_mem {t : Tables} {e : Entry} (h : e ∈ t.entries) :
  t.contains e.1 = true
  := by
  obtain ⟨es, hs⟩ := t
  change (Entry.find? e.1 es).isSome = true
  change e ∈ es at h
  clear hs
  induction es with
  | nil => cases h
  | cons e' es ih =>
    obtain ⟨k, d⟩ := e'
    rw [Entry.find?]
    split
    · rfl
    · next hne =>
      rcases List.mem_cons.mp h with rfl | h
      · exact absurd rfl hne
      · exact ih h

/-- Clearing some collections removes as many documents as there are in them. -/
theorem length_missing_clearAll (t : Tables) {cs : List String} (h : cs.Nodup) :
  (t.missing (t.clearAll cs)).length = t.total cs
  := by
  have hmissing : t.missing (t.clearAll cs)
      = t.entries.filter fun e => !(!cs.contains e.1.collection) := by
    apply List.filter_congr
    intro e he
    rw [contains_clearAll, contains_of_mem he, Bool.and_true]
  have hlength : t.entries.length
      = (t.clearAll cs).entries.length + (t.missing (t.clearAll cs)).length := by
    rw [hmissing]
    apply List.length_eq_length_filter_add
  have hcleared := t.length_clearAll h
  omega

end Tables

/-! ### The outlook of a reset -/

namespace Maintenance

/-- What it comes to to clear some collections. -/
theorem outlook_clearAll (tx : Transaction) (hopen : tx.finished = false) (n : Nat)
    {cs : List String} (h : cs.Nodup) :
  ((clearAll n cs).outlook tx).transaction.writes = tx.writes ++ cs.map .deleteAll
    ∧ ((clearAll n cs).outlook tx).result = .ok (n + tx.view.total cs)
  := by
  induction cs generalizing n tx with
  | nil => simp [clearAll, Work.outlook, Tables.total]
  | cons c cs ih =>
    obtain ⟨hc, hcs⟩ := List.nodup_cons.mp h
    have hperform : tx.perform .empty (.deleteAll c)
        = ⟨.ok (tx.view.count c),
            { tx with view := tx.view.clear c, writes := tx.writes ++ [.deleteAll c] }, .empty⟩ :=
      Transaction.perform_of_open hopen _ _
    simp only [clearAll, Work.require, Work.outlook, hperform, Outlook.later]
    obtain ⟨hwrites, hresult⟩ := ih
      { tx with view := tx.view.clear c, writes := tx.writes ++ [.deleteAll c] } hopen
      (n + tx.view.count c) hcs
    constructor
    · rw [hwrites, List.map_cons, List.append_assoc, List.singleton_append]
    · rw [hresult, Tables.total_clear _ hc, Tables.total_cons, Nat.add_assoc]

end Maintenance

theorem Record.nodup_collections :
  Record.collections.Nodup
  := by
  decide

namespace Traffic

/-- With the next step of the call with the given number a reset returns that it removed `n`
documents. -/
def Resets (s : Traffic) (i n : Nat) : Prop :=
  s.outcome? i = some (.maintained (.ok n)) ∧ ∃ phase, s.call? i = some (.maintaining .reset phase)

/-- A reset returns the number of documents in the contents with which its transaction was begun,
and removes those that are there when it returns. -/
theorem Resets.cleared {first : Traffic} (hf : first.calls = []) {moves : List Move} {i n : Nat}
    (h : (first.run moves).Resets i n) :
  (∃ snapshot, .begun i snapshot ∈ first.history moves ∧ n = snapshot.total Record.collections)
    ∧ (first.run (moves ++ [.advance i])).contents
      = (first.run moves).contents.clearAll Record.collections
  := by
  obtain ⟨ho, phase, hc⟩ := h
  obtain ⟨c, hc', hr, hd⟩ := outcome?_eq_some_iff.mp ho
  cases hc.symm.trans hc'
  obtain ⟨⟨reports, result⟩, hp, hresult⟩ := Call.done_lift hd
  cases hresult
  have heff := phase.effect_advance (first.run moves).manager
  rw [hp] at heff
  cases heff with
  | @committed r _ _ hreply =>
    obtain ⟨now, name, snapshot, hb, -, htx, hvalue⟩ :=
      (follows_run hf moves i .reset _ hc).committing
    obtain ⟨hwrites, hresult⟩ := Maintenance.outlook_clearAll (.begin name snapshot) rfl 0
      Record.nodup_collections
    have hn : Except.ok n = .ok (0 + snapshot.total Record.collections) := hvalue.symm.trans hresult
    have hstaged : r.transaction.writes = Record.collections.map .deleteAll := by
      rw [← htx]
      exact hwrites
    obtain ⟨-, hreplay⟩ := Transaction.replay_of_commit hreply
    rw [hstaged, Tables.replay_clearAll] at hreplay
    constructor
    · use snapshot, hb
      rw [Except.ok.inj hn, Nat.zero_add]
    · rw [run_concat, step_advance hc hr, contents, manager_settle, Call.tables_of_work? rfl]
      apply (Except.ok.inj hreplay).symm

end Traffic

/-! ### What deletions remove -/

/-- The commit of a transaction removes only what the transaction saw exactly if it saw everything
that is then in the collections that it deleted as a whole.  Of a collection that it deleted as a
whole it removes only what it counted exactly if all that is in it, except under keys that the
transaction wrote before, was there when the transaction was begun.  A reset returns how many
documents there were when it was begun, and removes those that are there when it returns. -/
theorem removal_iff (store : MemoryStore) (actions : List SharedStore.Action) (id : Nat)
    (settings : Settings) (chance : Chance) (now : Nat) (moves : List Traffic.Move) (i n : Nat) :
  ((SharedStore.run { store := store } actions).CanCommit id →
    ((SharedStore.run { store := store } actions).RemovesOnlySeen id ↔
      ∀ c k, .deleteAll c ∈ (SharedStore.run { store := store } actions).history.staged id →
        k.collection = c →
        (SharedStore.run { store := store } actions).tables.contains k = true →
        (SharedStore.run { store := store } actions).history.saw id k = true)
    ∧ ∀ (before after : History) (view tables : Tables) (c : String) (n : Nat),
      (SharedStore.run { store := store } actions).history
        = before ++ .performed ⟨id, view, tables, .deleteAll c, .ok n⟩ :: after →
      n = view.count c
        ∧ ∃ snapshot, .begun id snapshot ∈ before
          ∧ ((SharedStore.run { store := store } actions).RemovesOnlyCounted
              (before.staged id) view c ↔
            ∀ k, k.collection = c → (before.staged id).any (·.touches k) = false →
              (SharedStore.run { store := store } actions).tables.contains k = true →
              snapshot.contains k = true))
    ∧ (((Traffic.opened settings chance now store).run moves).Resets i n →
      ∃ snapshot, .begun i snapshot ∈ (Traffic.opened settings chance now store).history moves
        ∧ n = snapshot.total Record.collections
        ∧ (((Traffic.opened settings chance now store).run moves).contents.missing
              ((Traffic.opened settings chance now store).run
                (moves ++ [.advance i])).contents).length
            = ((Traffic.opened settings chance now store).run moves).contents.total
                Record.collections)
  := by
  constructor
  · intro h
    constructor
    · apply SharedStore.removesOnlySeen_iff_cleared h
    · intro before after view tables c n hsplit
      apply SharedStore.removesOnlyCounted_iff h hsplit
  · intro h
    obtain ⟨⟨snapshot, hb, hn⟩, hcontents⟩ := h.cleared rfl
    use snapshot, hb, hn
    rw [hcontents]
    apply Tables.length_missing_clearAll _ Record.nodup_collections

/-- A transaction adds a document to a collection, and the next one empties it. -/
def SharedStore.tidying : List SharedStore.Action :=
  [.connect, .begin "t0", .perform 0 (.insert ⟨"users", "u1"⟩ (.bool true)), .perform 0 .commit,
    .begin "t1", .perform 1 (.deleteAll "users")]

/-- A manager in the test environment, of a connected store with the given contents. -/
def Traffic.testing (tables : Tables) : Traffic :=
  opened { environment := .test, url := "memory://localhost/projects" }
    { draw := fun _ => 0, name := fun _ => "" } 0 { tables := tables, connected := true }

/-- The manager of a store with one document. -/
def Traffic.occupied : Traffic := testing (.put .empty ⟨"users", "u1"⟩ (.bool true))

/-- The moves of a caller who asks for a reset, up to its last step. -/
def Traffic.tidying : List Traffic.Move :=
  [.ask (.maintain .reset), .advance 0, .advance 0, .advance 0, .advance 0, .advance 0, .advance 0]

theorem removal_tidying :
  ((SharedStore.run { store := {} } SharedStore.tidying).CanCommit 1
      ∧ (SharedStore.run { store := {} } SharedStore.tidying).RemovesOnlySeen 1)
    ∧ (Traffic.occupied.run Traffic.tidying).Resets 0 1
    ∧ ((Traffic.occupied.run Traffic.tidying).contents.missing
        (Traffic.occupied.run (Traffic.tidying ++ [.advance 0])).contents).length = 1
  := by
  have hcommit : (SharedStore.run { store := {} } SharedStore.tidying).CanCommit 1 :=
    ⟨_, rfl, rfl⟩
  have hreset : (Traffic.occupied.run Traffic.tidying).Resets 0 1 := ⟨rfl, _, rfl⟩
  constructor
  · use hcommit
    have h := removal_iff {} SharedStore.tidying 1 { url := "memory://" }
      { draw := fun _ => 0, name := fun _ => "" } 0 [] 0 0
    apply (h.1 hcommit).1.mpr
    rintro c k - - hk
    have htables : (SharedStore.run { store := {} } SharedStore.tidying).tables
        = .put .empty ⟨"users", "u1"⟩ (.bool true) := rfl
    rw [htables, Tables.contains_put] at hk
    obtain rfl : ⟨"users", "u1"⟩ = k := by simpa [Tables.contains] using hk
    decide
  · use hreset
    obtain ⟨snapshot, -, -, hlength⟩ := (removal_iff _ [] 0 _ _ _ _ _ _).2 hreset
    apply hlength.trans
    rfl

/-- A transaction empties a collection, and before it commits another adds a document to it. -/
def SharedStore.lateArrival : List SharedStore.Action :=
  [.connect, .begin "t1", .perform 0 (.deleteAll "users"), .begin "t2",
    .perform 1 (.insert ⟨"users", "u1"⟩ (.bool true)), .perform 1 .commit]

/-- A reset is begun, another call adds a document, and the reset goes on to its last step. -/
def Traffic.lateArrival : List Traffic.Move :=
  let work : Work Nat :=
    .require (.insert ⟨"users", "u1"⟩ (.bool true)) fun _ => .finish (.ok 1)
  [.ask (.maintain .reset), .advance 0, .advance 0, .ask (.run {} work), .advance 1, .advance 1,
    .advance 1, .advance 0, .advance 0, .advance 0, .advance 0]

/-- The commit of the one removes the document that the other added, and a reset that does so
returns that it removed nothing. -/
theorem not_forall_removesOnlySeen :
  (¬ ∀ (store : MemoryStore) (actions : List SharedStore.Action) (id : Nat),
      (SharedStore.run { store := store } actions).CanCommit id →
        (SharedStore.run { store := store } actions).RemovesOnlySeen id)
    ∧ ¬ ∀ (settings : Settings) (chance : Chance) (now : Nat) (store : MemoryStore)
        (moves : List Traffic.Move) (i n : Nat),
      ((Traffic.opened settings chance now store).run moves).Resets i n →
        (((Traffic.opened settings chance now store).run moves).contents.missing
          ((Traffic.opened settings chance now store).run (moves ++ [.advance i])).contents).length
            = n
  := by
  constructor
  · intro h
    have hseen := h {} SharedStore.lateArrival 0 ⟨_, rfl, rfl⟩ ⟨"users", "u1"⟩ (by decide)
      (by decide)
    exact absurd hseen (by decide)
  · intro h
    have hreset : ((Traffic.testing .empty).run Traffic.lateArrival).Resets 0 0 := ⟨rfl, _, rfl⟩
    have hremoved := h _ _ _ _ _ _ _ hreset
    exact absurd hremoved (by decide)

end Storekeeper

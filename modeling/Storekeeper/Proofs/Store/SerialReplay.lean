import Mathlib.Data.List.Nodup
import Storekeeper.Proofs.Store.Interleaving

/-!
# Serial replay of commits

Whatever the order in which the operations of many transactions follow each other, the contents of
the store are those that result from the staged writes of the transactions whose commit succeeded,
replayed in the order of the commits.  The invariant `SharedStore.Sound` ties what each open
transaction keeps for itself to the history of the store: its writes are those that it staged, and
its view is its snapshot with these writes replayed.

A commit fails exactly when a write that is replayed inserts a document under a key that is present
then, which `Tables.Collides` says without mentioning the outcome of the replay.
-/

namespace Storekeeper

/-! ### Replaying writes -/

namespace Tables

theorem replay_cons (t : Tables) (w : Write) (ws : List Write) :
  t.replay (w :: ws) = (w.apply t).bind fun u => u.replay ws
  := List.foldlM_cons

/-- When the writes are replayed in turn, one of them inserts a document under the key `k` while
there is one. -/
def Collides (t : Tables) (writes : List Write) (k : Key) : Prop :=
  ∃ before d after u, writes = before ++ .insert k d :: after
    ∧ t.replay before = .ok u ∧ u.contains k = true

theorem Collides.cons {t u : Tables} {w : Write} {ws : List Write} {k : Key}
    (hw : w.apply t = .ok u) (h : u.Collides ws k) :
  t.Collides (w :: ws) k
  := by
  obtain ⟨before, d, after, v, rfl, hv, hk⟩ := h
  use w :: before, d, after, v, rfl
  constructor
  · rw [replay_cons, hw]
    apply hv
  · apply hk

/-- A write fails only if it inserts a document under a key that is present. -/
theorem apply_eq_error {t : Tables} {w : Write} {e : Error} (h : w.apply t = .error e) :
  ∃ k d, w = .insert k d ∧ t.contains k = true ∧ e = .duplicateKey k.text
  := by
  cases w with
  | insert k d =>
    rw [Write.apply] at h
    split at h
    · next hk =>
      cases h
      use k, d
    · cases h
  | delete k => cases h
  | deleteAll c => cases h

/-- Replaying fails exactly when it meets a key that is present already, and reports that key. -/
theorem replay_eq_error_iff (t : Tables) (ws : List Write) (e : Error) :
  t.replay ws = .error e ↔ ∃ k, t.Collides ws k ∧ e = .duplicateKey k.text
  := by
  constructor
  · intro h
    induction ws generalizing t with
    | nil => cases h
    | cons w ws ih =>
      rw [replay_cons] at h
      cases hw : w.apply t with
      | ok u =>
        rw [hw] at h
        obtain ⟨k, hk, he⟩ := ih u h
        use k, hk.cons hw
      | error e' =>
        rw [hw] at h
        obtain rfl : e' = e := Except.error.inj h
        obtain ⟨k, d, rfl, hk, he⟩ := apply_eq_error hw
        use k
        constructor
        · use [], d, ws, t, rfl, rfl
        · apply he
  · rintro ⟨k, ⟨before, d, after, u, rfl, hu, hk⟩, rfl⟩
    rw [replay_append, hu, Except.bind, replay_cons, Write.apply, if_pos hk]
    rfl

end Tables

/-! ### One operation -/

namespace Transaction

theorem perform_of_open {tx : Transaction} (h : tx.finished = false) (t : Tables)
    (op : Operation) :
  tx.perform t op = tx.act t op
  := by
  simp [perform, h]

/-- An operation that does not finish its transaction changes in the view what it stages. -/
theorem writes_perform {tx : Transaction} (hopen : tx.finished = false) {op : Operation}
    (hop : op.isClosing = false) (id : Nat) (t : Tables) :
  (tx.perform t op).transaction.writes = tx.writes ++ (tx.performance id t op).staged
    ∧ tx.view.replay (tx.performance id t op).staged = .ok (tx.perform t op).transaction.view
  := by
  have hact := act_stages tx t hop
  rw [← perform_of_open hopen] at hact
  -- either the operation staged its writes or it was refused
  cases hreply : (tx.perform t op).reply with
  | ok reply =>
    simp only [performance, Performance.staged, hreply]
    apply hact.writes reply hreply
  | error e => simp [performance, Performance.staged, hreply, hact.refused e hreply]

/-- A finished transaction stages nothing. -/
theorem staged_of_finished {tx : Transaction} (h : tx.finished = true) (id : Nat) (t : Tables)
    (op : Operation) :
  (tx.performance id t op).staged = []
  := by
  simp [performance, Performance.staged, perform_of_finished h]

/-- Writes are published by an open transaction, all of them in order. -/
theorem replay_of_publishes {tx : Transaction} {id : Nat} {t : Tables} {op : Operation}
    (h : (tx.performance id t op).publishes = true) :
  tx.finished = false ∧ op.isClosing = true
    ∧ t.replay tx.writes = .ok (tx.perform t op).tables
    ∧ (tx.performance id t op).staged = []
  := by
  cases hfin : tx.finished with
  | true =>
    simp [Performance.publishes, performance, perform_of_finished hfin, Except.isOk,
      Except.toBool] at h
  | false =>
    cases op with
    | commit =>
      simp only [Performance.publishes, performance, Performance.staged,
        perform_of_open hfin, act, publish] at h ⊢
      cases hr : t.replay tx.writes with
      | ok u =>
        refine ⟨trivial, rfl, rfl, rfl⟩
      | error e => simp [hr, Except.isOk, Except.toBool] at h
    | _ => simp [Performance.publishes, performance, Operation.isCommit] at h

/-- Unless writes are published the contents of the store stay as they are. -/
theorem tables_of_not_publishes {tx : Transaction} {id : Nat} {t : Tables} {op : Operation}
    (h : (tx.performance id t op).publishes = false) :
  (tx.perform t op).tables = t
  := by
  cases hfin : tx.finished with
  | true => rw [perform_of_finished hfin]
  | false =>
    cases op with
    | commit =>
      simp only [Performance.publishes, performance, perform_of_open hfin, act, publish] at h ⊢
      cases hr : t.replay tx.writes with
      | ok u => simp [hr, Operation.isCommit, Except.isOk, Except.toBool] at h
      | error e => rfl
    | _ =>
      apply tables_perform
      simp

end Transaction

/-! ### The invariant -/

namespace History

/-- Adding an event adds the writes of the transaction that it publishes, if no transaction that
published before stages any by it. -/
theorem writes_concat {h : History} {e : Event}
    (hstaged : ∀ id ∈ h.published ++ e.publisher.toList, e.staged id = []) :
  History.writes (h ++ [e]) = h.writes ++ e.publisher.toList.flatMap h.staged
  := by
  have hpub : History.published (h ++ [e]) = h.published ++ e.publisher.toList := by
    rw [published_append]
    cases hp : e.publisher with
    | none => simp [published, hp]
    | some id => simp [published, hp]
  rw [writes, hpub, List.flatMap_append]
  congr 1
  · apply List.flatMap_congr
    intro id hid
    simp [hstaged id (List.mem_append_left _ hid)]
  · apply List.flatMap_congr
    intro id hid
    simp [hstaged id (List.mem_append_right _ hid)]

/-- The transaction `tx` with the number `id` is as the history says. -/
structure Tracks (h : History) (id : Nat) (tx : Transaction) : Prop where
  finished : tx.finished = h.finished id
  writes : tx.finished = false → tx.writes = h.staged id
  view : tx.finished = false →
    ∃ snapshot, .begun id snapshot ∈ h ∧ snapshot.replay tx.writes = .ok tx.view

/-- An event that is not about a transaction changes nothing for it. -/
theorem Tracks.concat {h : History} {id : Nat} {tx : Transaction} (htx : h.Tracks id tx)
    {e : Event} (hstaged : e.staged id = []) (hcloses : e.closes id = false) :
  History.Tracks (h ++ [e]) id tx
  := by
  constructor
  · simp [hcloses, htx.finished]
  · intro hopen
    simp [hstaged, htx.writes hopen]
  · intro hopen
    obtain ⟨snapshot, hmem, hview⟩ := htx.view hopen
    use snapshot, List.mem_append_left _ hmem

theorem Tracks.performed {h : History} {id : Nat} {tx : Transaction} (htx : h.Tracks id tx)
    (t : Tables) (op : Transaction.Operation) :
  History.Tracks (h ++ [.performed (tx.performance id t op)]) id (tx.perform t op).transaction
  := by
  have hcloses : (Event.performed (tx.performance id t op)).closes id = op.isClosing := by
    simp [Event.closes]
  have hstaged : (Event.performed (tx.performance id t op)).staged id
      = (tx.performance id t op).staged := by
    simp [Event.staged]
  cases hfin : tx.finished with
  | true =>
    rw [Transaction.perform_of_finished hfin]
    constructor
    · simp [← htx.finished, hfin]
    · simp [hfin]
    · simp [hfin]
  | false =>
    cases hop : op.isClosing with
    | true =>
      have hclosed : (tx.perform t op).transaction.finished = true := by
        rw [Transaction.perform_of_open hfin]
        apply Transaction.act_finished tx t hop
      constructor
      · simp [hclosed, hcloses, hop]
      · simp [hclosed]
      · simp [hclosed]
    | false =>
      have hact := Transaction.act_stages tx t hop
      rw [← Transaction.perform_of_open hfin] at hact
      have hwrites := Transaction.writes_perform hfin hop id t
      constructor
      · simp [hcloses, hop, hact.finished, htx.finished]
      · intro _
        rw [staged_append, staged_singleton, hstaged, hwrites.1, htx.writes hfin]
      · intro _
        obtain ⟨snapshot, hmem, hview⟩ := htx.view hfin
        use snapshot, List.mem_append_left _ hmem
        rw [hwrites.1, Tables.replay_append, hview]
        apply hwrites.2

end History

namespace SharedStore

variable {base : Tables} {s s' : SharedStore}

theorem lt_length_of_transaction? {id : Nat} {tx : Transaction}
    (h : s.transaction? id = some tx) :
  id < s.transactions.length
  := by
  by_contra hge
  simp [transaction?, List.getElem?_eq_none (Nat.le_of_not_lt hge)] at h

theorem transaction?_set {id : Nat} {tx : Transaction} (h : s.transaction? id = some tx)
    (x : Option Transaction) (id' : Nat) :
  (s.transactions.set id x)[id']?.join = if id' = id then x else s.transaction? id'
  := by
  by_cases heq : id' = id
  · subst heq
    simp [lt_length_of_transaction? h]
  · simp [transaction?, heq, Ne.symm heq]

/-- The contents of the store are the published writes replayed on `base`, and what every
transaction keeps for itself is as the history says. -/
structure Sound (base : Tables) (s : SharedStore) : Prop where
  tables : base.replay s.history.writes = .ok s.tables
  nodup : s.history.published.Nodup
  fresh : ∀ id, s.transactions.length ≤ id →
    s.history.staged id = [] ∧ s.history.finished id = false
  tracks : ∀ id tx, s.transaction? id = some tx → s.history.Tracks id tx

/-- Soundness is about the contents, the transactions and the history. -/
theorem Sound.of_eq (h : Sound base s) (htables : s'.tables = s.tables)
    (htransactions : s'.transactions = s.transactions) (hhistory : s'.history = s.history) :
  Sound base s'
  := by
  constructor
  · rw [htables, hhistory]
    exact h.tables
  · rw [hhistory]
    exact h.nodup
  · rw [htransactions, hhistory]
    exact h.fresh
  · unfold transaction?
    rw [htransactions, hhistory]
    exact h.tracks

/-- An event of no transaction changes nothing for the history of any. -/
theorem Sound.unconcerned (h : Sound base s) {e : Event} (hstaged : ∀ id, e.staged id = [])
    (hcloses : ∀ id, e.closes id = false) (hpublisher : e.publisher = none) :
  Sound base { s with history := s.history ++ [e] }
  := by
  constructor
  · rw [History.writes_concat fun id _ => hstaged id, hpublisher]
    simp only [Option.toList_none, List.flatMap_nil, List.append_nil]
    exact h.tables
  · simpa [History.published, hpublisher] using h.nodup
  · intro id hid
    simpa [hstaged, hcloses] using h.fresh id hid
  · intro id tx htx
    exact (h.tracks id tx htx).concat (hstaged id) (hcloses id)

theorem Sound.begun (h : Sound base s) (name : String) :
  Sound base
    { s with
      transactions := s.transactions ++ [some (.begin name s.tables)]
      history := s.history ++ [.begun s.transactions.length s.tables] }
  := by
  have hsame := h.unconcerned (e := .begun s.transactions.length s.tables)
    (fun _ => rfl) (fun _ => rfl) rfl
  constructor
  · exact hsame.tables
  · exact hsame.nodup
  · intro id hid
    apply hsame.fresh
    exact Nat.le_of_succ_le (by simpa using hid)
  · intro id tx htx
    by_cases hid : id < s.transactions.length
    · apply hsame.tracks
      simpa [transaction?, List.getElem?_append_left hid] using htx
    · obtain ⟨hstaged, hfinished⟩ := h.fresh id (Nat.le_of_not_lt hid)
      have hlast : id = s.transactions.length := by
        have hlt := lt_length_of_transaction? htx
        simp only [List.length_append, List.length_singleton] at hlt
        omega
      subst hlast
      simp only [transaction?, List.getElem?_concat_length, Option.join_some,
        Option.some.injEq] at htx
      subst htx
      constructor
      · simp [Transaction.begin, hfinished, Event.closes]
      · simp [Transaction.begin, hstaged, Event.staged]
      · intro _
        use s.tables, List.mem_append_right _ List.mem_cons_self
        rfl

theorem Sound.dropped (h : Sound base s) {id : Nat} {tx : Transaction}
    (htx : s.transaction? id = some tx) :
  Sound base
    { s with
      transactions := s.transactions.set id none
      history := s.history ++ [.dropped id] }
  := by
  have hsame := h.unconcerned (e := .dropped id) (fun _ => rfl) (fun _ => rfl) rfl
  constructor
  · exact hsame.tables
  · exact hsame.nodup
  · intro id' hid
    apply hsame.fresh
    simpa using hid
  · intro id' tx' htx'
    apply hsame.tracks
    rw [transaction?, transaction?_set htx] at htx'
    split at htx'
    · cases htx'
    · apply htx'

/-- A transaction that published before is finished and stages nothing any more. -/
theorem Sound.staged_of_published (h : Sound base s) {id : Nat} {tx : Transaction}
    (htx : s.transaction? id = some tx) (op : Transaction.Operation) {id' : Nat}
    (hid' : id' ∈ s.history.published) :
  (Event.performed (tx.performance id s.tables op)).staged id' = []
  := by
  simp only [Event.staged]
  split
  · next heq =>
    apply Transaction.staged_of_finished
    rw [(h.tracks id tx htx).finished]
    rw [← heq] at hid'
    exact History.finished_of_mem_published hid'
  · rfl

/-- The contents move exactly when the transaction publishes, and by its own writes. -/
theorem Sound.tables_performed (h : Sound base s) {id : Nat} {tx : Transaction}
    (htx : s.transaction? id = some tx) (op : Transaction.Operation) :
  base.replay (s.perform id tx op).history.writes = .ok (s.perform id tx op).tables
  := by
  have hstaged : ∀ id' ∈ s.history.published,
      (Event.performed (tx.performance id s.tables op)).staged id' = [] :=
    fun _ => h.staged_of_published htx op
  rw [history_perform, tables_perform]
  cases hpub : (tx.performance id s.tables op).publishes with
  | true =>
    obtain ⟨hopen, -, hreplay, hnone⟩ := Transaction.replay_of_publishes hpub
    have hpublisher : (Event.performed (tx.performance id s.tables op)).publisher = some id := by
      simp [Event.publisher, hpub]
    have hwrites := (h.tracks id tx htx).writes hopen
    rw [History.writes_concat, Tables.replay_append, h.tables, hpublisher]
    · simpa [Except.bind, ← hwrites] using hreplay
    · intro id' hid'
      rcases List.mem_append.mp hid' with hid' | -
      · apply hstaged id' hid'
      · simp [Event.staged, hnone]
  | false =>
    have hpublisher : (Event.performed (tx.performance id s.tables op)).publisher = none := by
      simp [Event.publisher, hpub]
    rw [History.writes_concat, hpublisher, Transaction.tables_of_not_publishes hpub]
    · simpa using h.tables
    · intro id' hid'
      apply hstaged id'
      simpa [hpublisher] using hid'

/-- A transaction publishes once. -/
theorem Sound.nodup_performed (h : Sound base s) {id : Nat} {tx : Transaction}
    (htx : s.transaction? id = some tx) (op : Transaction.Operation) :
  (s.perform id tx op).history.published.Nodup
  := by
  rw [history_perform, History.published_append]
  apply List.nodup_append.mpr
  refine ⟨h.nodup, ?_, ?_⟩
  · simp only [History.published, List.filterMap_cons, List.filterMap_nil]
    split
    · apply List.nodup_nil
    · apply List.nodup_singleton
  · -- the transaction that publishes now is not finished and hence did not publish before
    intro id' hid' id'' hid'' heq
    obtain ⟨e, he, hpub⟩ := List.mem_filterMap.mp hid''
    rw [List.mem_singleton.mp he] at hpub
    simp only [Event.publisher, Option.ite_none_right_eq_some] at hpub
    obtain ⟨hpub, hid⟩ := hpub
    obtain ⟨hopen, -⟩ := Transaction.replay_of_publishes hpub
    rw [(h.tracks id tx htx).finished] at hopen
    have hfin := History.finished_of_mem_published hid'
    rw [heq, ← Option.some.inj hid, Transaction.performance_id, hopen] at hfin
    cases hfin

theorem Sound.performed (h : Sound base s) {id : Nat} {tx : Transaction}
    (htx : s.transaction? id = some tx) (op : Transaction.Operation) :
  Sound base (s.perform id tx op)
  := by
  constructor
  · exact h.tables_performed htx op
  · exact h.nodup_performed htx op
  · intro id' hid'
    have hlen : s.transactions.length ≤ id' := by
      simpa using hid'
    have hne : id ≠ id' := by
      have := lt_length_of_transaction? htx
      omega
    simpa [Event.staged, Event.closes, hne] using h.fresh id' hlen
  · intro id' tx' htx'
    rw [transaction?, transactions_perform, transaction?_set htx] at htx'
    split at htx'
    · next heq =>
      cases htx'
      subst heq
      exact (h.tracks id' tx htx).performed s.tables op
    · next hne =>
      apply (h.tracks id' tx' htx').concat
      · simp [Event.staged, Ne.symm hne]
      · simp [Event.closes, Ne.symm hne]

/-- Every action keeps a store sound. -/
theorem Sound.change (h : Sound base s) (hs : Change s s') :
  Sound base s'
  := by
  cases hs with
  | quiet store hstore => exact h.of_eq hstore rfl rfl
  | begun store hstore name => exact (h.begun name).of_eq hstore rfl rfl
  | refused store hstore e =>
    have hsame := h.unconcerned (e := .refused e) (fun _ => rfl) (fun _ => rfl) rfl
    exact hsame.of_eq hstore rfl rfl
  | performed id tx htx op => exact h.performed htx op
  | dropped id tx htx => exact h.dropped htx

/-- A store on which no transaction was begun is sound. -/
theorem sound_of_unused (store : MemoryStore) :
  Sound store.tables { store := store }
  := by
  refine ⟨rfl, List.nodup_nil, fun _ _ => ⟨rfl, rfl⟩, ?_⟩
  intro id tx htx
  simp [transaction?] at htx

/-- A store is sound whatever is done with it. -/
theorem sound_run (store : MemoryStore) (actions : List Action) :
  Sound store.tables (run { store := store } actions)
  := by
  apply run_induction (sound_of_unused store)
  intro s s' h hs
  exact h.change hs

/-- A commit of an open transaction fails exactly when replaying what it staged meets a key that is
present, and then it leaves the contents of the store alone. -/
theorem Sound.commit (h : Sound base s) {id : Nat} {tx : Transaction}
    (htx : s.transaction? id = some tx) (hopen : s.history.finished id = false) :
  (∀ e, (tx.perform s.tables .commit).reply = .error e ↔
      ∃ k, s.tables.Collides (s.history.staged id) k ∧ e = .duplicateKey k.text)
    ∧ (∀ e, (tx.perform s.tables .commit).reply = .error e →
      (tx.perform s.tables .commit).tables = s.tables)
  := by
  have htracks := h.tracks id tx htx
  have hfin : tx.finished = false := htracks.finished.trans hopen
  have hperform : tx.perform s.tables .commit = tx.publish s.tables :=
    Transaction.perform_of_open hfin s.tables .commit
  rw [hperform, ← htracks.writes hfin, Transaction.publish]
  simp only [← Tables.replay_eq_error_iff]
  cases s.tables.replay tx.writes with
  | ok u => simp
  | error e' => simp

/-- A finished transaction refuses every operation, which changes nothing. -/
theorem Sound.refuse (h : Sound base s) {id : Nat} {tx : Transaction}
    (htx : s.transaction? id = some tx) (hfin : s.history.finished id = true)
    (op : Transaction.Operation) :
  (tx.perform s.tables op).reply
      = .error (.validation ("Transaction " ++ tx.name ++ " is already finished"))
    ∧ (s.perform id tx op).tables = s.tables
    ∧ (s.perform id tx op).transactions = s.transactions
  := by
  have hperform : tx.perform s.tables op = ⟨.error tx.finishedError, tx, s.tables⟩ := by
    apply Transaction.perform_of_finished
    rw [(h.tracks id tx htx).finished, hfin]
  rw [tables_perform, transactions_perform, hperform]
  refine ⟨rfl, rfl, ?_⟩
  obtain ⟨hlt, hget⟩ := List.getElem?_eq_some_iff.mp (Option.join_eq_some_iff.mp htx)
  rw [← hget]
  apply List.set_getElem_self

/-- However the operations of any number of transactions follow each other, the contents of the
store are the initial ones with the writes replayed that were staged by the transactions whose
commit succeeded, in the order of the commits, and no transaction publishes twice.  A commit of an
open transaction fails exactly when replaying its writes meets a key that is present, and changes
nothing then; and a finished transaction refuses every operation. -/
theorem serial_replay (store : MemoryStore) (actions : List Action) :
  let s := run { store := store } actions
  store.tables.replay s.history.writes = .ok s.tables
    ∧ s.history.published.Nodup
    ∧ (∀ id tx, s.transaction? id = some tx → s.history.finished id = false →
        ∃ reply : Except Error Unit,
          (s.step (.perform id .commit)).history
              = s.history ++ [.performed ⟨id, tx.view, s.tables, .commit, reply⟩]
            ∧ (∀ e, reply = .error e ↔
                ∃ k, s.tables.Collides (s.history.staged id) k ∧ e = .duplicateKey k.text)
            ∧ (∀ e, reply = .error e → (s.step (.perform id .commit)).tables = s.tables))
    ∧ (∀ id tx op, s.transaction? id = some tx → s.history.finished id = true →
        (s.step (.perform id op)).history
            = s.history ++ [.performed ⟨id, tx.view, s.tables, op,
                .error (.validation ("Transaction " ++ tx.name ++ " is already finished"))⟩]
          ∧ (s.step (.perform id op)).tables = s.tables
          ∧ (s.step (.perform id op)).transactions = s.transactions)
  := by
  have h := sound_run store actions
  refine ⟨h.tables, h.nodup, ?_, ?_⟩
  · intro id tx htx hopen
    rw [step_perform htx]
    use (tx.perform (run { store := store } actions).tables .commit).reply, rfl
    apply h.commit htx hopen
  · intro id tx op htx hfin
    obtain ⟨hreply, htables, htransactions⟩ := h.refuse htx hfin op
    rw [step_perform htx, history_perform, Transaction.performance, hreply]
    exact ⟨rfl, htables, htransactions⟩

end SharedStore

end Storekeeper

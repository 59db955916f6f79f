import Mathlib.Data.Finmap
import Mathlib.Data.Finset.Card
import Storekeeper.Proofs.Store.SerialReplay
import Storekeeper.Proofs.Text.ByteOrder

/-!
# Transactions as finite maps

What a transaction sees is a finite map from keys to documents.  `DocumentMap.perform` says what the
operations do with such a map, and `SharedStore.transaction_refines` that an open transaction, in
whatever order its operations and those of others follow each other, replies as the map does that
starts with its snapshot.  A map tells no missing collection from an emptied one.

The view of the transaction is its snapshot with the staged writes replayed.  So a commit publishes
the view if nobody else committed since the transaction was begun.
-/

namespace Storekeeper

open Transaction (Operation)

/-- A finite map from keys to documents. -/
abbrev DocumentMap := Finmap fun _ : Key => Json

namespace DocumentMap

variable {m : DocumentMap} {k : Key} {c : String}

/-- The number of keys of a collection. -/
def count (m : DocumentMap) (c : String) : Nat := (m.keys.filter fun k => k.collection = c).card

/-- The map without the keys of a collection. -/
def clear (m : DocumentMap) (c : String) : DocumentMap :=
  Finmap.keysLookupEquiv.symm
    ⟨(m.keys.filter fun k => k.collection ≠ c,
      fun k => if k.collection = c then none else m.lookup k), by
      intro k
      by_cases h : k.collection = c
      · simp [h]
      · simp [h, Finmap.lookup_isSome, Finmap.mem_keys]⟩

@[simp]
theorem lookup_clear (m : DocumentMap) (c : String) (k : Key) :
  (m.clear c).lookup k = if k.collection = c then none else m.lookup k
  := Finmap.keysLookupEquiv_symm_apply_lookup _ k

/-- The reply to an operation and the map after it: only an insertion fails, if its key is present,
and changes nothing then. -/
def perform (m : DocumentMap) : (op : Operation) → Except Error op.Reply × DocumentMap
  | .insert k d => if k ∈ m then (.error (.duplicateKey k.text), m) else (.ok (), m.insert k d)
  | .find k => (.ok (m.lookup k), m)
  | .delete k => (.ok (decide (k ∈ m)), m.erase k)
  | .deleteAll c => (.ok (m.count c), m.clear c)
  | .count c => (.ok (m.count c), m)
  | .commit | .rollback => (.ok (), m)

/-- The map after some operations. -/
def after (m : DocumentMap) (ops : List Operation) : DocumentMap :=
  ops.foldl (fun m op => (m.perform op).2) m

/-- Operations with the replies to them. -/
abbrev Results := List (Σ op : Operation, Except Error op.Reply)

/-- The replies to some operations, one after another. -/
def results (m : DocumentMap) : List Operation → Results
  | [] => []
  | op :: ops => ⟨op, (m.perform op).1⟩ :: (m.perform op).2.results ops

theorem after_concat (m : DocumentMap) (ops : List Operation) (op : Operation) :
  m.after (ops ++ [op]) = ((m.after ops).perform op).2
  := by
  simp [after]

theorem results_concat (m : DocumentMap) (ops : List Operation) (op : Operation) :
  m.results (ops ++ [op]) = m.results ops ++ [⟨op, ((m.after ops).perform op).1⟩]
  := by
  induction ops generalizing m with
  | nil => rfl
  | cons op' ops ih =>
    rw [List.cons_append, results, ih]
    rfl

/-- The documents of a collection, each once, in the order of the bytes of their identifiers. -/
def Lists (m : DocumentMap) (c : String) (documents : List Json) : Prop :=
  ∃ ids : List String, ids.Pairwise (fun a b => a.toUTF8.toList < b.toUTF8.toList)
    ∧ (∀ id, id ∈ ids ↔ ⟨c, id⟩ ∈ m)
    ∧ documents.map some = ids.map fun id => m.lookup ⟨c, id⟩

end DocumentMap

/-! ### Tables as maps -/

namespace Entry

theorem dlookup_eq_find? (k : Key) (es : List Entry) :
  (es.map fun e => (⟨e.1, e.2⟩ : Σ _ : Key, Json)).dlookup k = find? k es
  := by
  induction es with
  | nil => rfl
  | cons e es ih =>
    obtain ⟨k', d⟩ := e
    by_cases h : k' = k
    · subst h
      simp [find?]
    · simp [find?, h, Ne.symm h, List.dlookup_cons_ne, ih]

theorem find?_isSome_iff {k : Key} {es : List Entry} :
  (find? k es).isSome = true ↔ k ∈ es.map (·.1)
  := by
  induction es with
  | nil => simp [find?]
  | cons e es ih =>
    obtain ⟨k', d⟩ := e
    by_cases h : k' = k
    · simp [find?, h]
    · simpa [find?, h, Ne.symm h] using ih

theorem find?_of_mem {es : List Entry} (h : Sorted es) {e : Entry} (he : e ∈ es) :
  find? e.1 es = some e.2
  := by
  induction es with
  | nil => cases he
  | cons e' es ih =>
    obtain ⟨hfirst, hrest⟩ := List.pairwise_cons.mp h
    obtain ⟨k, d⟩ := e'
    rcases List.mem_cons.mp he with rfl | he
    · simp [find?]
    · have hne : k ≠ e.1 := by
        intro heq
        have hbefore := hfirst e he
        rw [heq] at hbefore
        exact Key.before_irrefl _ hbefore
      rw [find?, if_neg hne]
      exact ih hrest he

end Entry

namespace Tables

variable (t : Tables) (k : Key) (d : Json) (c : String)

/-- The tables as a finite map. -/
def toMap : DocumentMap := (t.entries.map fun e => ⟨e.1, e.2⟩).toFinmap

@[simp]
theorem lookup_toMap :
  t.toMap.lookup k = t.find? k
  := by
  rw [toMap, Finmap.dlookup_list_toFinmap]
  exact Entry.dlookup_eq_find? k t.entries

@[simp]
theorem mem_toMap :
  k ∈ t.toMap ↔ t.contains k = true
  := by
  rw [← Finmap.lookup_isSome, lookup_toMap]
  rfl

/-- Tables that are the same map are the same. -/
theorem toMap_injective {t u : Tables} (h : t.toMap = u.toMap) :
  t = u
  := by
  apply ext_find?
  intro k
  rw [← lookup_toMap, h, lookup_toMap]

theorem toMap_put :
  (t.put k d).toMap = t.toMap.insert k d
  := by
  apply Finmap.ext_lookup
  intro k'
  by_cases h : k = k'
  · subst h
    simp
  · simp [h, Finmap.lookup_insert_of_ne _ (Ne.symm h)]

theorem toMap_erase :
  (t.erase k).toMap = t.toMap.erase k
  := by
  apply Finmap.ext_lookup
  intro k'
  by_cases h : k' = k
  · subst h
    simp
  · simp [h, Finmap.lookup_erase_ne h]

theorem toMap_clear :
  (t.clear c).toMap = t.toMap.clear c
  := by
  apply Finmap.ext_lookup
  intro k
  simp

/-- A key that is absent is erased without any effect. -/
theorem erase_toMap_of_absent (h : t.contains k = false) :
  t.toMap.erase k = t.toMap
  := by
  apply Finmap.ext_lookup
  intro k'
  by_cases heq : k' = k
  · subst heq
    have hnone : t.find? k' = none := by
      simpa [contains] using h
    simp [hnone]
  · simp [Finmap.lookup_erase_ne heq]

theorem nodup_keys :
  (t.entries.map (·.1)).Nodup
  := by
  apply List.pairwise_map.mpr
  apply t.sorted.imp
  intro a b hab heq
  rw [heq] at hab
  exact Key.before_irrefl _ hab

theorem keys_toMap :
  t.toMap.keys = (t.entries.map (·.1)).toFinset
  := by
  ext k
  rw [Finmap.mem_keys, mem_toMap, List.mem_toFinset]
  exact Entry.find?_isSome_iff

theorem count_toMap :
  t.toMap.count c = t.count c
  := by
  have hkeys : (t.toMap.keys.filter fun k => k.collection = c)
      = ((t.entries.map (·.1)).filter fun k => k.collection == c).toFinset := by
    rw [keys_toMap, List.toFinset_filter]
    simp only [beq_iff_eq]
  rw [DocumentMap.count, hkeys, List.toFinset_card_of_nodup (t.nodup_keys.filter _),
    List.filter_map, List.length_map]
  rfl

/-- The documents of a collection are listed in the order of the bytes of their identifiers. -/
theorem lists_documents :
  t.toMap.Lists c (t.documents c)
  := by
  have hmem : ∀ e ∈ t.collection c, e ∈ t.entries ∧ e.1.collection = c := by
    intro e he
    obtain ⟨he, hc⟩ := List.mem_filter.mp he
    exact ⟨he, eq_of_beq hc⟩
  use (t.collection c).map fun e => e.1.id
  refine ⟨?_, ?_, ?_⟩
  · apply List.pairwise_map.mpr
    apply (t.sorted.filter _).imp_of_mem
    intro a b ha hb hab
    rcases hab with hab | ⟨-, hab⟩
    · rw [(hmem a ha).2, (hmem b hb).2] at hab
      cases String.lt_irrefl _ hab
    · exact Text.toUTF8_lt hab
  · intro id
    rw [mem_toMap, contains, find?, Entry.find?_isSome_iff, List.mem_map, List.mem_map]
    constructor
    · rintro ⟨e, he, rfl⟩
      obtain ⟨hentry, rfl⟩ := hmem e he
      use e, hentry
    · rintro ⟨e, he, hkey⟩
      use e
      rw [collection, List.mem_filter, hkey]
      exact ⟨⟨he, beq_self_eq_true c⟩, rfl⟩
  · rw [documents, List.map_map, List.map_map]
    apply List.map_congr_left
    intro e he
    obtain ⟨hentry, rfl⟩ := hmem e he
    rw [Function.comp_apply, Function.comp_apply, lookup_toMap]
    exact (Entry.find?_of_mem t.sorted hentry).symm

end Tables

/-! ### One operation -/

namespace Transaction

theorem stage_of_apply {ρ : Type} (tx : Transaction) (t : Tables) {w : Write} {view : Tables}
    (h : w.apply tx.view = .ok view) (reply : ρ) :
  tx.stage t w reply = ⟨.ok reply, { tx with view := view, writes := tx.writes ++ [w] }, t⟩
  := by
  rw [stage, h]

/-- A transaction replies to an operation as the map of its view does, and its view becomes what
the map becomes. -/
theorem act_refines (tx : Transaction) (t : Tables) {op : Operation} (h : op.isClosing = false) :
  (tx.act t op).reply = (tx.view.toMap.perform op).1
    ∧ (tx.act t op).transaction.view.toMap = (tx.view.toMap.perform op).2
  := by
  cases op with
  | insert k d =>
    rw [act, DocumentMap.perform]
    by_cases hk : tx.view.contains k = true
    · have hrefused : Write.apply tx.view (.insert k d) = .error (.duplicateKey k.text) := by
        rw [Write.apply, if_pos hk]
      rw [stage, hrefused, if_pos ((tx.view.mem_toMap k).mpr hk)]
      exact ⟨rfl, rfl⟩
    · have hmade : Write.apply tx.view (.insert k d) = .ok (tx.view.put k d) := by
        rw [Write.apply, if_neg hk]
      rw [stage_of_apply tx t hmade, if_neg (mt (tx.view.mem_toMap k).mp hk)]
      exact ⟨rfl, tx.view.toMap_put k d⟩
  | find k =>
    rw [act, DocumentMap.perform, Tables.lookup_toMap]
    exact ⟨rfl, rfl⟩
  | delete k =>
    rw [act, DocumentMap.perform]
    by_cases hk : tx.view.contains k = true
    · rw [if_pos hk, stage_of_apply tx t rfl, decide_eq_true ((tx.view.mem_toMap k).mpr hk)]
      exact ⟨rfl, tx.view.toMap_erase k⟩
    · rw [if_neg hk, decide_eq_false (mt (tx.view.mem_toMap k).mp hk)]
      exact ⟨rfl, (tx.view.erase_toMap_of_absent k (by simpa using hk)).symm⟩
  | deleteAll c =>
    rw [act, DocumentMap.perform, stage_of_apply tx t rfl, Tables.count_toMap]
    exact ⟨rfl, tx.view.toMap_clear c⟩
  | count c =>
    rw [act, DocumentMap.perform, Tables.count_toMap]
    exact ⟨rfl, rfl⟩
  | commit => cases h
  | rollback => cases h

end Transaction

/-! ### Transactions on a shared store -/

/-- What the transaction with the given number performed, with the reply. -/
def Event.results (id : Nat) : Event → DocumentMap.Results
  | performed p => if p.id = id then [⟨p.op, p.reply⟩] else []
  | _ => []

namespace History

/-- What the transaction with the given number performed, in order, with the replies. -/
def results (h : History) (id : Nat) : DocumentMap.Results := h.flatMap (·.results id)

/-- The operations that the transaction with the given number performed, in order. -/
def operations (h : History) (id : Nat) : List Operation := (h.results id).map (·.1)

@[simp]
theorem results_append (h h' : History) (id : Nat) :
  History.results (h ++ h') id = h.results id ++ h'.results id
  := List.flatMap_append

@[simp]
theorem results_singleton (e : Event) (id : Nat) :
  History.results [e] id = e.results id
  := List.flatMap_singleton _ _

@[simp]
theorem operations_append (h h' : History) (id : Nat) :
  History.operations (h ++ h') id = h.operations id ++ h'.operations id
  := by
  rw [operations, results_append, List.map_append]
  rfl

end History

namespace SharedStore

variable {base snapshot : Tables} {s s' : SharedStore} {id : Nat} {tx : Transaction}
  {earlier later : History}

/-- The transaction `tx` was begun after what happened `earlier` on the contents `snapshot`, and has
replied to what it performed `later` as the map of its snapshot does.  Its view is what this map has
become, and the snapshot with the staged writes replayed. -/
structure Refines (base : Tables) (s : SharedStore) (id : Nat) (tx : Transaction)
    (earlier : History) (snapshot : Tables) (later : History) : Prop where
  history : s.history = earlier ++ .begun id snapshot :: later
  committed : base.replay earlier.writes = .ok snapshot
  results : later.results id = snapshot.toMap.results (later.operations id)
  view : tx.view.toMap = snapshot.toMap.after (later.operations id)
  writes : tx.writes = later.staged id
  replay : snapshot.replay (later.staged id) = .ok tx.view
  unchanged : later.published = [] → s.tables = snapshot

/-- An event that is not about a transaction changes nothing for it. -/
theorem Refines.concat (h : Refines base s id tx earlier snapshot later) {e : Event}
    (hresults : e.results id = []) (hstaged : e.staged id = [])
    (hhistory : s'.history = s.history ++ [e])
    (htables : e.publisher = none → s'.tables = s.tables) :
  Refines base s' id tx earlier snapshot (later ++ [e])
  := by
  have hoperations : History.operations [e] id = [] := by
    simp [History.operations, hresults]
  constructor
  · rw [hhistory, h.history, List.append_assoc, List.cons_append]
  · exact h.committed
  · rw [History.results_append, History.results_singleton, hresults, List.append_nil,
      History.operations_append, hoperations, List.append_nil]
    exact h.results
  · rw [History.operations_append, hoperations, List.append_nil]
    exact h.view
  · simp [hstaged, h.writes]
  · simp [hstaged, h.replay]
  · intro hpublished
    rw [History.published_append, List.append_eq_nil_iff] at hpublished
    rw [htables (by simpa [History.published] using hpublished.2), h.unchanged hpublished.1]

/-- An operation of the transaction itself is one of its map. -/
theorem Refines.performed (h : Refines base s id tx earlier snapshot later)
    (hopen : tx.finished = false) {op : Operation} (hop : op.isClosing = false) :
  Refines base (s.perform id tx op) id (tx.perform s.tables op).transaction earlier snapshot
    (later ++ [.performed (tx.performance id s.tables op)])
  := by
  obtain ⟨hreply, hview⟩ := Transaction.act_refines tx s.tables hop
  rw [← Transaction.perform_of_open hopen] at hreply hview
  obtain ⟨hwrites, hreplay⟩ := Transaction.writes_perform hopen hop id s.tables
  have hresults : (Event.performed (tx.performance id s.tables op)).results id
      = [⟨op, (tx.view.toMap.perform op).1⟩] := by
    simp [Event.results, Transaction.performance, hreply]
  have hoperations : History.operations [.performed (tx.performance id s.tables op)] id = [op] := by
    rw [History.operations, History.results_singleton, hresults]
    rfl
  have hstaged : History.staged (later ++ [.performed (tx.performance id s.tables op)]) id
      = later.staged id ++ (tx.performance id s.tables op).staged := by
    simp [Event.staged]
  constructor
  · rw [history_perform, h.history, List.append_assoc, List.cons_append]
  · exact h.committed
  · rw [History.results_append, History.results_singleton, hresults, History.operations_append,
      hoperations, DocumentMap.results_concat, h.results, h.view]
  · rw [History.operations_append, hoperations, DocumentMap.after_concat, ← h.view]
    exact hview
  · rw [hwrites, hstaged, h.writes]
  · rw [hstaged, Tables.replay_append, h.replay]
    exact hreplay
  · intro hpublished
    rw [History.published_append, List.append_eq_nil_iff] at hpublished
    rw [tables_perform, Transaction.tables_perform, h.unchanged hpublished.1]
    rintro rfl
    cases hop

/-- Every open transaction replies as the map of its snapshot does. -/
def AllRefine (base : Tables) (s : SharedStore) : Prop :=
  ∀ id tx, s.transaction? id = some tx → tx.finished = false →
    ∃ earlier snapshot later, Refines base s id tx earlier snapshot later

/-- An event that is about none of the transactions keeps all of them. -/
theorem AllRefine.concat (h : AllRefine base s) {e : Event} (hresults : ∀ id, e.results id = [])
    (hstaged : ∀ id, e.staged id = []) (hhistory : s'.history = s.history ++ [e])
    (htables : s'.tables = s.tables)
    (htransactions : ∀ id tx, s'.transaction? id = some tx → s.transaction? id = some tx) :
  AllRefine base s'
  := by
  intro id tx htx hopen
  obtain ⟨earlier, snapshot, later, hrefines⟩ := h id tx (htransactions id tx htx) hopen
  use earlier, snapshot, later ++ [e]
  exact hrefines.concat (hresults id) (hstaged id) hhistory fun _ => htables

/-- A transaction starts with the map of the contents of the store. -/
theorem AllRefine.begun (h : AllRefine base s) (hs : Sound base s) (store : MemoryStore)
    (hstore : store.tables = s.tables) (name : String) :
  AllRefine base
    { store := store
      transactions := s.transactions ++ [some (.begin name s.tables)]
      history := s.history ++ [.begun s.transactions.length s.tables] }
  := by
  intro id tx htx hopen
  by_cases hid : id < s.transactions.length
  · have hold : s.transaction? id = some tx := by
      simpa [transaction?, List.getElem?_append_left hid] using htx
    obtain ⟨earlier, snapshot, later, hrefines⟩ := h id tx hold hopen
    use earlier, snapshot, later ++ [.begun s.transactions.length s.tables]
    apply hrefines.concat rfl rfl rfl
    intro _
    exact hstore
  · have hlast : id = s.transactions.length := by
      have hlt := lt_length_of_transaction? htx
      simp only [List.length_append, List.length_singleton] at hlt
      omega
    subst hlast
    simp only [transaction?, List.getElem?_concat_length, Option.join_some,
      Option.some.injEq] at htx
    subst htx
    use s.history, s.tables, []
    refine ⟨rfl, hs.tables, rfl, rfl, rfl, rfl, ?_⟩
    intro _
    exact hstore

theorem AllRefine.performed (h : AllRefine base s) (htx : s.transaction? id = some tx)
    (op : Operation) :
  AllRefine base (s.perform id tx op)
  := by
  intro id' tx' htx' hopen
  rw [transaction?, transactions_perform, transaction?_set htx] at htx'
  split at htx'
  · next heq =>
    cases htx'
    subst heq
    cases hfin : tx.finished with
    | true =>
      rw [Transaction.perform_of_finished hfin, hfin] at hopen
      cases hopen
    | false =>
      cases hop : op.isClosing with
      | true =>
        rw [Transaction.perform_of_open hfin, Transaction.act_finished tx s.tables hop] at hopen
        cases hopen
      | false =>
        obtain ⟨earlier, snapshot, later, hrefines⟩ := h id' tx htx hfin
        use earlier, snapshot, later ++ [.performed (tx.performance id' s.tables op)]
        exact hrefines.performed hfin hop
  · next hne =>
    obtain ⟨earlier, snapshot, later, hrefines⟩ := h id' tx' htx' hopen
    use earlier, snapshot, later ++ [.performed (tx.performance id s.tables op)]
    apply hrefines.concat
    · simp [Event.results, Ne.symm hne]
    · simp [Event.staged, Ne.symm hne]
    · rfl
    · intro hpublisher
      apply Transaction.tables_of_not_publishes
      simpa [Event.publisher] using hpublisher

/-- Every action keeps all transactions. -/
theorem AllRefine.change (h : AllRefine base s) (hs : Sound base s) (hchange : Change s s') :
  AllRefine base s'
  := by
  cases hchange with
  | quiet store hstore =>
    intro id tx htx hopen
    obtain ⟨earlier, snapshot, later, hrefines⟩ := h id tx htx hopen
    use earlier, snapshot, later
    refine { hrefines with unchanged := ?_ }
    intro hpublished
    exact hstore.trans (hrefines.unchanged hpublished)
  | begun store hstore name => exact h.begun hs store hstore name
  | refused store hstore e =>
    exact h.concat (fun _ => rfl) (fun _ => rfl) rfl hstore fun _ _ htx => htx
  | performed id tx htx op => exact h.performed htx op
  | dropped id tx htx =>
    refine h.concat (e := .dropped id) (fun _ => rfl) (fun _ => rfl) rfl rfl ?_
    intro id' tx' htx'
    rw [transaction?, transaction?_set htx] at htx'
    split at htx'
    · cases htx'
    · exact htx'

theorem allRefine_run (store : MemoryStore) (actions : List Action) :
  AllRefine store.tables (run { store := store } actions)
  := by
  have hnone : AllRefine store.tables { store := store } := by
    intro id tx htx
    simp [transaction?] at htx
  have hboth := run_induction (P := fun s => Sound store.tables s ∧ AllRefine store.tables s)
    ⟨sound_of_unused store, hnone⟩
    (fun s s' hs hchange => ⟨hs.1.change hchange, hs.2.change hs.1 hchange⟩) actions
  exact hboth.2

/-- A commit of a transaction that was begun on the contents of the store publishes its view. -/
theorem Refines.commit (h : Refines base s id tx earlier snapshot later)
    (hopen : tx.finished = false) (hpublished : later.published = []) :
  (tx.perform s.tables .commit).reply = .ok ()
    ∧ (tx.perform s.tables .commit).tables = tx.view
  := by
  rw [Transaction.perform_of_open hopen, Transaction.act, Transaction.publish, h.writes,
    h.unchanged hpublished, h.replay]
  exact ⟨rfl, rfl⟩

/-- Whatever is done with a store, an open transaction has replied to what it performed as the finite
map does that starts with the contents on which it was begun, and replies so to the next operation.
Its view is this map and nothing more, and the snapshot with the staged writes replayed.  If nobody
published since it was begun, its commit succeeds and publishes the view, the documents of which
are listed in the order of the bytes of their identifiers. -/
theorem transaction_refines (store : MemoryStore) (actions : List Action) (id : Nat)
    (tx : Transaction) (htx : (run { store := store } actions).transaction? id = some tx)
    (hopen : tx.finished = false) :
  let s := run { store := store } actions
  ∃ earlier snapshot later, Refines store.tables s id tx earlier snapshot later
    ∧ (∀ op, op.isClosing = false →
        (s.step (.perform id op)).history
            = s.history ++ [.performed ⟨id, tx.view, s.tables, op, (tx.view.toMap.perform op).1⟩]
          ∧ (s.step (.perform id op)).tables = s.tables
          ∧ ∃ tx', (s.step (.perform id op)).transaction? id = some tx'
            ∧ tx'.finished = false
            ∧ tx'.view.toMap = (tx.view.toMap.perform op).2)
    ∧ (∀ t : Tables, t.toMap = tx.view.toMap → t = tx.view)
    ∧ (later.published = [] →
        (s.step (.perform id .commit)).history
            = s.history ++ [.performed ⟨id, tx.view, s.tables, .commit, .ok ()⟩]
          ∧ (s.step (.perform id .commit)).tables = tx.view
          ∧ ∀ c, tx.view.toMap.Lists c ((s.step (.perform id .commit)).tables.documents c))
  := by
  intro s
  obtain ⟨earlier, snapshot, later, hrefines⟩ := allRefine_run store actions id tx htx hopen
  use earlier, snapshot, later, hrefines
  refine ⟨?_, fun _ => Tables.toMap_injective, ?_⟩
  · intro op hop
    obtain ⟨hreply, hview⟩ := Transaction.act_refines tx s.tables hop
    have hact := Transaction.act_stages tx s.tables hop
    rw [← Transaction.perform_of_open hopen] at hreply hview hact
    rw [step_perform htx, history_perform, tables_perform, Transaction.performance, hreply]
    refine ⟨rfl, hact.tables, ?_⟩
    use (tx.perform s.tables op).transaction
    refine ⟨?_, hact.finished.trans hopen, hview⟩
    rw [transaction?, transactions_perform, transaction?_set htx, if_pos rfl]
  · intro hpublished
    obtain ⟨hreply, htables⟩ := hrefines.commit hopen hpublished
    rw [step_perform htx, history_perform, tables_perform, Transaction.performance, hreply, htables]
    exact ⟨rfl, rfl, tx.view.lists_documents⟩

/-- A transaction fails to replace a document, and empties the collection before it tries again. -/
def replacing : List Action :=
  [.begin "t0", .perform 0 (.insert ⟨"users", "u1"⟩ (.bool false)), .perform 0 (.deleteAll "users"),
    .begin "t1", .perform 0 (.insert ⟨"users", "u1"⟩ (.bool false)), .perform 0 (.count "users")]

theorem transaction_refines_replacing :
  let store : MemoryStore :=
    { tables := .put .empty ⟨"users", "u1"⟩ (.bool true), connected := true }
  (∃ tx, (run { store := store } replacing).transaction? 0 = some tx ∧ tx.finished = false)
    ∧ (run { store := store } (replacing ++ [.perform 0 .commit])).tables.documents "users"
      = [.bool false]
  := by
  intro store
  obtain ⟨earlier, snapshot, later, hrefines, -, -, hcommit⟩ :=
    transaction_refines store replacing 0 _ rfl rfl
  have hpublished : (run { store := store } replacing).history.published = [] := rfl
  rw [hrefines.history, History.published_append, List.append_eq_nil_iff] at hpublished
  constructor
  · exact ⟨_, rfl, rfl⟩
  · rw [run_concat, (hcommit hpublished.2).2.1]
    rfl

end SharedStore

end Storekeeper

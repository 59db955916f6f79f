import Storekeeper.Proofs.Store.WriteConflicts

/-!
# What a commit removes

A transaction deletes documents of its view, but its writes are replayed on the contents of the
store as they are when it commits.  It saw a document that was there when it was begun or that it
inserted, which is `History.saw`.  Whatever a commit removes was seen, unless the transaction
deleted a collection as a whole, to which others have added since:
`SharedStore.removesOnlySeen_iff_cleared` says when a commit removes only what was seen.

Whether there is a document under a key after some writes depends on the last write that is about
the key, and on what was there before only if there is none.  So the documents that a transaction
counts when it deletes a collection and those that are removed by that write differ only under keys
that the transaction did not write before.
-/

namespace Storekeeper

/-! ### Writes about a key -/

namespace Write

/-- Whether a write inserts a document under a key. -/
def inserts (k : Key) : Write → Bool
  | insert k' _ => k' == k
  | delete _ | deleteAll _ => false

/-- Whether a write deletes the document under a key, if there is one. -/
def removes (k : Key) : Write → Bool
  | insert _ _ => false
  | delete k' => k' == k
  | deleteAll c => k.collection == c

/-- Whether a write is about a key. -/
def touches (k : Key) (w : Write) : Bool := w.inserts k || w.removes k

end Write

namespace Tables

variable {t t' u u' : Tables} {w : Write} {ws : List Write} {k : Key}

/-- After a write there is a document under a key if the write inserts it, or leaves alone the one
that was there. -/
theorem contains_apply (h : w.apply t = .ok u) (k : Key) :
  u.contains k = (w.inserts k || (!w.removes k && t.contains k))
  := by
  cases w with
  | insert k' d =>
    rw [Write.apply] at h
    split at h
    · cases h
    · cases h
      simp [Write.inserts, Write.removes]
  | delete k' =>
    cases h
    simp [Write.inserts, Write.removes, bne, Bool.beq_comm]
  | deleteAll c =>
    cases h
    simp [Write.inserts, Write.removes, bne]

/-- Writes that can be replayed can be replayed one by one. -/
theorem exists_of_replay_cons (h : t.replay (w :: ws) = .ok u) :
  ∃ v, w.apply t = .ok v ∧ v.replay ws = .ok u
  := by
  rw [replay_cons] at h
  cases hw : w.apply t with
  | ok v =>
    rw [hw] at h
    exact ⟨v, rfl, h⟩
  | error e =>
    rw [hw] at h
    cases h

/-- Writes that can be replayed can be replayed in parts. -/
theorem exists_of_replay_append {ws' : List Write} (h : t.replay (ws ++ ws') = .ok u) :
  ∃ v, t.replay ws = .ok v ∧ v.replay ws' = .ok u
  := by
  rw [replay_append] at h
  cases hw : t.replay ws with
  | ok v =>
    rw [hw] at h
    exact ⟨v, rfl, h⟩
  | error e =>
    rw [hw] at h
    cases h

/-- Writes that are not about a key leave the document under it alone. -/
theorem contains_of_untouched (h : t.replay ws = .ok u) (hk : ws.any (·.touches k) = false) :
  u.contains k = t.contains k
  := by
  induction ws generalizing t with
  | nil =>
    cases h
    rfl
  | cons w ws ih =>
    obtain ⟨v, hv, hu⟩ := exists_of_replay_cons h
    obtain ⟨hw, hws⟩ := Bool.or_eq_false_iff.mp hk
    obtain ⟨hins, hrem⟩ := Bool.or_eq_false_iff.mp hw
    rw [ih hu hws, contains_apply hv, hins, hrem]
    rfl

/-- Writes of which one is about a key make it depend on them alone whether there is a document
under the key. -/
theorem contains_of_touched (ht : t.replay ws = .ok t') (hu : u.replay ws = .ok u')
    (hk : ws.any (·.touches k) = true) :
  t'.contains k = u'.contains k
  := by
  induction ws generalizing t u with
  | nil => cases hk
  | cons w ws ih =>
    obtain ⟨v, hv, ht⟩ := exists_of_replay_cons ht
    obtain ⟨v', hv', hu⟩ := exists_of_replay_cons hu
    cases hrest : ws.any (·.touches k) with
    | true => exact ih ht hu hrest
    | false =>
      rw [contains_of_untouched ht hrest, contains_of_untouched hu hrest, contains_apply hv,
        contains_apply hv']
      -- what the last write about the key does to it does not depend on what was there
      rw [List.any_cons, hrest, Bool.or_false] at hk
      rcases Bool.or_eq_true_iff.mp hk with hins | hrem
      · simp [hins]
      · simp [hrem]

/-- A document that is there after some writes was there before, or one of them inserts it. -/
theorem contains_or_inserts (h : t.replay ws = .ok u) (hk : u.contains k = true) :
  t.contains k = true ∨ ∃ w ∈ ws, w.inserts k = true
  := by
  induction ws generalizing t with
  | nil =>
    cases h
    exact .inl hk
  | cons w ws ih =>
    obtain ⟨v, hv, hu⟩ := exists_of_replay_cons h
    rcases ih hu with hk | ⟨w', hw', hins⟩
    · rw [contains_apply hv] at hk
      rcases Bool.or_eq_true_iff.mp hk with hins | hkept
      · exact .inr ⟨w, List.mem_cons_self, hins⟩
      · exact .inl (Bool.and_eq_true_iff.mp hkept).2
    · exact .inr ⟨w', List.mem_cons_of_mem _ hw', hins⟩

/-- A document that some write removes and none inserts is not there after them. -/
theorem not_contains_of_removes (h : t.replay ws = .ok u) (hk : ∃ w ∈ ws, w.removes k = true)
    (hins : ∀ w ∈ ws, w.inserts k = false) :
  u.contains k = false
  := by
  induction ws generalizing t with
  | nil =>
    obtain ⟨w, hw, -⟩ := hk
    cases hw
  | cons w ws ih =>
    obtain ⟨v, hv, hu⟩ := exists_of_replay_cons h
    obtain ⟨hw, hws⟩ := List.forall_mem_cons.mp hins
    by_cases hrest : ∃ w ∈ ws, w.removes k = true
    · exact ih hu hrest hws
    · obtain ⟨w', hw', hrem⟩ := hk
      rcases List.mem_cons.mp hw' with rfl | hw'
      · -- the document is gone after the first write, and no other inserts it
        rw [← Bool.not_eq_true]
        intro hafter
        rcases contains_or_inserts hu hafter with hmid | ⟨w'', hw'', hins''⟩
        · rw [contains_apply hv, hw, hrem] at hmid
          cases hmid
        · cases (hws w'' hw'').symm.trans hins''
      · exact absurd ⟨w', hw', hrem⟩ hrest

end Tables

/-! ### What a transaction saw -/

namespace Event

/-- Whether the transaction with the given number saw a document under a key: in the contents with
which it was begun, or because it inserted it. -/
def shows (id : Nat) (k : Key) : Event → Bool
  | begun id' snapshot => id' == id && snapshot.contains k
  | performed p => p.id == id && p.staged.any (·.inserts k)
  | _ => false

end Event

namespace History

variable {h h' : History} {id : Nat} {k : Key}

/-- Whether the transaction with the given number saw a document under a key. -/
def saw (h : History) (id : Nat) (k : Key) : Bool := h.any (·.shows id k)

theorem saw_append_left (hk : h.saw id k = true) :
  History.saw (h ++ h') id k = true
  := by
  rw [saw, List.any_append]
  exact Bool.or_eq_true_iff.mpr (.inl hk)

theorem saw_of_begun {snapshot : Tables} (hb : .begun id snapshot ∈ h)
    (hk : snapshot.contains k = true) :
  h.saw id k = true
  := by
  apply List.any_eq_true.mpr
  use .begun id snapshot, hb
  simp [Event.shows, hk]

/-- A transaction saw what it inserted. -/
theorem saw_of_inserts {w : Write} (hw : w ∈ h.staged id) (hk : w.inserts k = true) :
  h.saw id k = true
  := by
  obtain ⟨e, he, hw⟩ := List.mem_flatMap.mp hw
  apply List.any_eq_true.mpr
  use e, he
  cases e with
  | performed p =>
    simp only [Event.staged] at hw
    split at hw
    · next hid =>
      simp only [Event.shows, hid, beq_self_eq_true, Bool.true_and]
      exact List.any_eq_true.mpr ⟨w, hw, hk⟩
    · cases hw
  | _ => cases hw

/-- An open transaction saw what is in its view. -/
theorem Tracks.saw_of_view {tx : Transaction} (htx : h.Tracks id tx) (hopen : tx.finished = false)
    (hk : tx.view.contains k = true) :
  h.saw id k = true
  := by
  obtain ⟨snapshot, hb, hview⟩ := htx.view hopen
  rcases Tables.contains_or_inserts hview hk with hk | ⟨w, hw, hins⟩
  · exact saw_of_begun hb hk
  · rw [htx.writes hopen] at hw
    exact saw_of_inserts hw hins

end History

/-- A transaction that deletes a single document has it in its view. -/
theorem Transaction.view_of_delete {tx : Transaction} {id : Nat} {t : Tables} {op : Operation}
    {k : Key} (h : .delete k ∈ (tx.performance id t op).staged) :
  tx.finished = false ∧ tx.view.contains k = true
  := by
  cases hfin : tx.finished with
  | true =>
    rw [staged_of_finished hfin] at h
    cases h
  | false =>
    refine ⟨rfl, ?_⟩
    cases op with
    | delete k' =>
      simp only [performance, Performance.staged, perform_of_open hfin, act] at h
      by_cases hk : tx.view.contains k' = true
      · have hstaged : (.delete k : Write) ∈ [Write.delete k'] := by
          simpa [hk, stage, Write.apply, Operation.staged] using h
        cases List.mem_singleton.mp hstaged
        exact hk
      · simp [hk, Operation.staged] at h
    | insert k' d =>
      simp only [performance, Performance.staged] at h
      split at h
      · simp [Operation.staged] at h
      · cases h
    | deleteAll c =>
      simp only [performance, Performance.staged] at h
      split at h
      · simp [Operation.staged] at h
      · cases h
    | _ =>
      simp only [performance, Performance.staged] at h
      split at h
      · cases h
      · cases h

/-- A commit that succeeds makes the writes of its transaction, which is open. -/
theorem Transaction.replay_of_commit {tx : Transaction} {t : Tables}
    (h : (tx.perform t .commit).reply = .ok ()) :
  tx.finished = false ∧ t.replay tx.writes = .ok (tx.perform t .commit).tables
  := by
  have hpublishes : (tx.performance 0 t .commit).publishes = true := by
    simp [Performance.publishes, performance, h, Operation.isCommit, Except.isOk, Except.toBool]
  obtain ⟨hopen, -, hreplay, -⟩ := replay_of_publishes hpublishes
  use hopen, hreplay

namespace SharedStore

variable {store : MemoryStore} {actions : List Action} {id : Nat} {tx : Transaction} {k : Key}

/-- A transaction saw what it deleted, unless it deleted the whole collection. -/
theorem saw_of_delete (h : .delete k ∈ (run { store := store } actions).history.staged id) :
  (run { store := store } actions).history.saw id k = true
  := by
  obtain ⟨e, he, hw⟩ := List.mem_flatMap.mp h
  obtain ⟨before, after, hsplit⟩ := List.append_of_mem he
  cases e with
  | performed p =>
    simp only [Event.staged] at hw
    split at hw
    · next hid =>
      obtain ⟨s, tx, hs, rfl, htx, hp⟩ := exists_performance hsplit
      rw [hp] at hw
      obtain ⟨hopen, hview⟩ := Transaction.view_of_delete hw
      rw [hsplit, ← hid]
      exact History.saw_append_left ((hs.tracks _ _ htx).saw_of_view hopen hview)
    · cases hw
  | _ => cases hw

/-! ### A commit -/

/-- The commit of the transaction with the given number succeeds if it is next. -/
def CanCommit (s : SharedStore) (id : Nat) : Prop :=
  ∃ tx, s.transaction? id = some tx ∧ (tx.perform s.tables .commit).reply = .ok ()

/-- A commit of the transaction with the given number removes no document that the transaction did
not see. -/
def RemovesOnlySeen (s : SharedStore) (id : Nat) : Prop :=
  ∀ k, s.tables.contains k = true → (s.step (.perform id .commit)).tables.contains k = false →
    s.history.saw id k = true

/-- A commit that succeeds makes all the writes that the transaction staged. -/
theorem Sound.replay_of_canCommit {base : Tables} {s : SharedStore} (hs : s.Sound base)
    (h : s.CanCommit id) :
  s.tables.replay (s.history.staged id) = .ok (s.step (.perform id .commit)).tables
  := by
  obtain ⟨tx, htx, hok⟩ := h
  obtain ⟨hopen, hreplay⟩ := Transaction.replay_of_commit hok
  rw [← (hs.tracks id tx htx).writes hopen, step_perform htx, tables_perform, hreplay]

/-- A commit removes only what the transaction saw exactly if it saw everything that is present in
the collections that it deleted as a whole. -/
theorem removesOnlySeen_iff_cleared (h : (run { store := store } actions).CanCommit id) :
  (run { store := store } actions).RemovesOnlySeen id ↔
    ∀ c k, .deleteAll c ∈ (run { store := store } actions).history.staged id → k.collection = c →
      (run { store := store } actions).tables.contains k = true →
        (run { store := store } actions).history.saw id k = true
  := by
  have hreplay := (sound_run store actions).replay_of_canCommit h
  constructor
  · rintro hseen c k hc rfl hk
    by_contra hunseen
    -- a document that was not seen is not inserted, so it is gone after the commit
    have hgone : ((run { store := store } actions).step (.perform id .commit)).tables.contains k
        = false := by
      apply Tables.not_contains_of_removes hreplay
      · exact ⟨_, hc, by simp [Write.removes]⟩
      · intro w hw
        rw [← Bool.not_eq_true]
        intro hins
        exact hunseen (History.saw_of_inserts hw hins)
    exact hunseen (hseen k hk hgone)
  · intro hcleared k hk hgone
    cases htouched : ((run { store := store } actions).history.staged id).any (·.touches k) with
    | false =>
      rw [Tables.contains_of_untouched hreplay htouched, hk] at hgone
      cases hgone
    | true =>
      obtain ⟨w, hw, htouches⟩ := List.any_eq_true.mp htouched
      cases w with
      | insert k' d =>
        apply History.saw_of_inserts hw
        simpa [Write.touches, Write.removes] using htouches
      | delete k' =>
        obtain rfl : k' = k := by
          simpa [Write.touches, Write.inserts, Write.removes] using htouches
        exact saw_of_delete hw
      | deleteAll c =>
        apply hcleared c k hw _ hk
        simpa [Write.touches, Write.inserts, Write.removes] using htouches

/-- When a transaction deleted the collection `c` it saw the contents `view`, and `writes` were
those that it had staged before.  The documents that its commit removes by that write were all
counted. -/
def RemovesOnlyCounted (s : SharedStore) (writes : List Write) (view : Tables) (c : String) :
    Prop :=
  ∃ t, s.tables.replay writes = .ok t
    ∧ ∀ k, k.collection = c → t.contains k = true → view.contains k = true

/-- A transaction that deletes a collection counts what is in its view.  What its commit removes by
that write was counted exactly if the transaction was begun with everything that is present in the
collection at the commit, except for keys that it wrote before. -/
theorem removesOnlyCounted_iff (h : (run { store := store } actions).CanCommit id)
    {before after : History} {view tables : Tables} {c : String} {n : Nat}
    (hsplit : (run { store := store } actions).history
      = before ++ .performed ⟨id, view, tables, .deleteAll c, .ok n⟩ :: after) :
  n = view.count c
    ∧ ∃ snapshot, .begun id snapshot ∈ before
      ∧ ((run { store := store } actions).RemovesOnlyCounted (before.staged id) view c ↔
        ∀ k, k.collection = c → (before.staged id).any (·.touches k) = false →
          (run { store := store } actions).tables.contains k = true →
            snapshot.contains k = true)
  := by
  have hreplay := (sound_run store actions).replay_of_canCommit h
  obtain ⟨s, tx, hs, rfl, htx, hp⟩ := exists_performance hsplit
  obtain ⟨rfl, -, hreply⟩ : view = tx.view ∧ tables = s.tables
      ∧ .ok n = (tx.perform s.tables (.deleteAll c)).reply := by
    simpa [Transaction.performance] using hp
  cases hfin : tx.finished with
  | true =>
    rw [Transaction.perform_of_finished hfin] at hreply
    cases hreply
  | false =>
    have htracks := hs.tracks id tx htx
    obtain ⟨snapshot, hb, hview⟩ := htracks.view hfin
    rw [htracks.writes hfin] at hview
    rw [hsplit, History.staged_append] at hreplay
    obtain ⟨t, ht, -⟩ := Tables.exists_of_replay_append hreplay
    constructor
    · rw [Transaction.perform_of_open hfin] at hreply
      cases hreply
      rfl
    · use snapshot, hb
      constructor
      · rintro ⟨t', ht', hcounted⟩ k hk huntouched hpresent
        rw [← Tables.contains_of_untouched hview huntouched]
        apply hcounted k hk
        rw [Tables.contains_of_untouched ht' huntouched]
        exact hpresent
      · intro hknown
        use t, ht
        intro k hk hpresent
        cases htouched : (s.history.staged id).any (·.touches k) with
        | true =>
          rw [Tables.contains_of_touched hview ht htouched]
          exact hpresent
        | false =>
          rw [Tables.contains_of_untouched hview htouched]
          rw [Tables.contains_of_untouched ht htouched] at hpresent
          exact hknown k hk htouched hpresent

end SharedStore

end Storekeeper

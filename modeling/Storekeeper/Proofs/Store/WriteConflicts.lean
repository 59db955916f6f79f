import Storekeeper.Proofs.Store.SerialReplay

/-!
# Conflicting writes

Two transactions overlap if each is begun before the other commits.  Under snapshot isolation the
first of them to commit wins: no two overlapping transactions that commit write the same key, which
is `History.FirstCommitterWins`.

The store looks for conflicts only when a replayed write inserts a document.  So whether a commit
succeeds depends on the keys that the transaction inserts before it deletes them: it succeeds
exactly when none of them is present.  `SharedStore.firstCommitterWins_iff` says in which histories
this is enough, and `SharedStore.lostUpdate` is one in which it is not.
-/

namespace Storekeeper

/-! ### Keys that are inserted first -/

/-- Whether the first of the writes that is about a key inserts a document under it. -/
def Write.insertsFirst (k : Key) : List Write → Bool
  | [] => false
  | .insert k' _ :: ws => k' == k || insertsFirst k ws
  | .delete k' :: ws => k' != k && insertsFirst k ws
  | .deleteAll c :: ws => k.collection != c && insertsFirst k ws

namespace Tables

@[simp]
theorem contains_put (t : Tables) (k k' : Key) (d : Json) :
  (t.put k d).contains k' = (k == k' || t.contains k')
  := by
  by_cases h : k = k' <;> simp [contains, h]

@[simp]
theorem contains_erase (t : Tables) (k k' : Key) :
  (t.erase k).contains k' = (k' != k && t.contains k')
  := by
  by_cases h : k' = k <;> simp [contains, h]

@[simp]
theorem contains_clear (t : Tables) (name : String) (k : Key) :
  (t.clear name).contains k = (k.collection != name && t.contains k)
  := by
  by_cases h : k.collection = name <;> simp [contains, h]

/-- A key that is inserted first is absent where the writes can be replayed. -/
theorem not_contains_of_insertsFirst {t u : Tables} {ws : List Write} (h : t.replay ws = .ok u)
    {k : Key} (hk : Write.insertsFirst k ws = true) :
  t.contains k = false
  := by
  induction ws generalizing t with
  | nil => cases hk
  | cons w ws ih =>
    rw [replay_cons] at h
    cases w with
    | insert k' d =>
      simp only [Write.apply] at h
      split at h
      · cases h
      · next hk' =>
        by_cases heq : k' = k
        · rw [heq] at hk'
          simpa using hk'
        · have hrest := ih h (by simpa [Write.insertsFirst, heq] using hk)
          simpa [heq] using hrest
    | delete k' =>
      obtain ⟨hne, hk⟩ : k' ≠ k ∧ Write.insertsFirst k ws = true := by
        simpa [Write.insertsFirst] using hk
      simpa [Ne.symm hne] using ih h hk
    | deleteAll c =>
      obtain ⟨hne, hk⟩ : k.collection ≠ c ∧ Write.insertsFirst k ws = true := by
        simpa [Write.insertsFirst] using hk
      simpa [hne] using ih h hk

/-- Writes that can be replayed on some tables can be replayed on others exactly when no key that
they insert first is present there. -/
theorem replay_isOk_iff {t u v : Tables} {ws : List Write} (h : t.replay ws = .ok v) :
  (u.replay ws).isOk = true ↔ ∀ k, Write.insertsFirst k ws = true → u.contains k = false
  := by
  constructor
  · intro hu k hk
    cases hr : u.replay ws with
    | ok u' => apply not_contains_of_insertsFirst hr hk
    | error e => simp [hr, Except.isOk, Except.toBool] at hu
  · intro hfree
    induction ws generalizing t u with
    | nil => rfl
    | cons w ws ih =>
      rw [replay_cons] at h ⊢
      cases w with
      | insert k d =>
        have hk : u.contains k = false := hfree k (by simp [Write.insertsFirst])
        simp only [Write.apply, hk] at h ⊢
        split at h
        · cases h
        · apply ih h
          intro k' hk'
          -- the key that was inserted just now is not inserted first once more
          have hne : k ≠ k' := by
            rintro rfl
            simpa using not_contains_of_insertsFirst h hk'
          simpa [hne] using hfree k' (by simp [Write.insertsFirst, hk'])
      | delete k =>
        apply ih h
        intro k' hk'
        by_cases heq : k' = k
        · simp [heq]
        · simpa [heq] using hfree k' (by simp [Write.insertsFirst, hk', Ne.symm heq])
      | deleteAll c =>
        apply ih h
        intro k' hk'
        by_cases heq : k'.collection = c
        · simp [heq]
        · simpa [heq] using hfree k' (by simp [Write.insertsFirst, hk', heq])

end Tables

/-! ### What a transaction writes -/

/-- Whether an operation on a given view, with a given reply, wrote a key: inserted it, deleted it
from the view, or removed it from the view with its collection. -/
def Transaction.Operation.writes (view : Tables) (k : Key) : (op : Operation) → op.Reply → Bool
  | insert k' _, _ => k' == k
  | delete k', true => k' == k
  | delete _, false => false
  | deleteAll c, _ => k.collection == c && view.contains k
  | find _, _ | count _, _ | commit, _ | rollback, _ => false

/-- Whether a key was written. -/
def Performance.writes (p : Performance) (k : Key) : Bool :=
  match p.reply with
  | .ok reply => p.op.writes p.view k reply
  | .error _ => false

theorem Performance.not_writes_of_publishes (p : Performance) (h : p.publishes = true) (k : Key) :
  p.writes k = false
  := by
  obtain ⟨id, view, tables, op, reply⟩ := p
  obtain ⟨hop, -⟩ := Bool.and_eq_true_iff.mp h
  cases op with
  | commit =>
    cases reply with
    | ok u => rfl
    | error e => rfl
  | _ => cases hop

namespace Event

/-- Whether the transaction with the given number wrote a key. -/
def writes (id : Nat) (k : Key) : Event → Bool
  | performed p => p.id == id && p.writes k
  | _ => false

/-- Whether the transaction with the given number was begun. -/
def begins (id : Nat) : Event → Bool
  | begun id' _ => id' == id
  | _ => false

end Event

namespace History

/-- Whether the transaction with the given number wrote a key. -/
def wrote (h : History) (id : Nat) (k : Key) : Bool := h.any (·.writes id k)

/-- What happened since the transaction with the given number was begun. -/
def since (h : History) (id : Nat) : History := h.dropWhile fun e => !e.begins id

/-- No key was written by two transactions that were both begun before the other committed. -/
def FirstCommitterWins (h : History) : Prop :=
  ∀ i j k, i ≠ j → j ∈ (h.since i).published → i ∈ (h.since j).published →
    h.wrote i k = true → h.wrote j k = false

@[simp]
theorem wrote_append (h h' : History) (id : Nat) (k : Key) :
  History.wrote (h ++ h') id k = (h.wrote id k || h'.wrote id k)
  := List.any_append

@[simp]
theorem wrote_cons (e : Event) (h : History) (id : Nat) (k : Key) :
  History.wrote (e :: h) id k = (e.writes id k || h.wrote id k)
  := List.any_cons

/-- What happens later is added to what happened since a transaction was begun. -/
theorem since_append {h : History} {id : Nat} {snapshot : Tables} (hb : .begun id snapshot ∈ h)
    (h' : History) :
  History.since (h ++ h') id = h.since id ++ h'
  := by
  induction h with
  | nil => cases hb
  | cons e h ih =>
    cases he : e.begins id with
    | true => simp [since, he]
    | false =>
      have hmem : .begun id snapshot ∈ h := by
        rcases List.mem_cons.mp hb with rfl | hmem
        · simp [Event.begins] at he
        · apply hmem
      simpa [since, he] using ih hmem

theorem mem_published_of_mem_since {h : History} {id id' : Nat}
    (hid : id' ∈ (h.since id).published) :
  id' ∈ h.published
  := (List.dropWhile_sublist _).filterMap _ |>.subset hid

/-- A transaction that published its writes did so at some moment. -/
theorem exists_of_mem_published {h : History} {id : Nat} (hid : id ∈ h.published) :
  ∃ before p after, h = before ++ .performed p :: after ∧ p.publishes = true ∧ p.id = id
  := by
  obtain ⟨e, he, hpub⟩ := List.mem_filterMap.mp hid
  obtain ⟨before, after, rfl⟩ := List.append_of_mem he
  cases e with
  | performed p =>
    simp only [Event.publisher, Option.ite_none_right_eq_some, Option.some.injEq] at hpub
    use before, p, after, rfl, hpub.1, hpub.2
  | _ => cases hpub

end History

/-! ### Commits in a history -/

namespace SharedStore

variable {store : MemoryStore} {actions : List Action} {before after : History} {p : Performance}

/-- Whatever a history says a transaction performed, it performed on a sound store. -/
theorem exists_performance
    (h : (run { store := store } actions).history = before ++ .performed p :: after) :
  ∃ s tx, Sound store.tables s ∧ s.history = before ∧ s.transaction? p.id = some tx
    ∧ p = tx.performance p.id s.tables p.op
  := by
  obtain ⟨done, a, hbefore, hstep⟩ := exists_step_of_history (s := { store := store }) rfl h
  use run { store := store } done
  have hchange := step_change (run { store := store } done) a
  generalize (run { store := store } done).step a = s' at hstep hchange
  rw [← hbefore] at hstep
  cases hchange with
  | performed id tx htx op =>
    obtain rfl : tx.performance id _ op = p := by simpa using hstep
    use tx, sound_run store done, hbefore, htx
    rfl
  | _ => simp at hstep

/-- A finished transaction writes nothing any more. -/
theorem writes_of_finished
    (h : (run { store := store } actions).history = before ++ .performed p :: after)
    (hfin : before.finished p.id = true) (k : Key) :
  p.writes k = false
  := by
  obtain ⟨s, tx, hs, rfl, htx, hp⟩ := exists_performance h
  rw [hp, Performance.writes]
  simp [Transaction.performance, hs.refuse htx hfin]

/-- A commit of an open transaction publishes its writes exactly when no key that the transaction
inserts first is present. -/
theorem publishes_iff
    (h : (run { store := store } actions).history = before ++ .performed p :: after)
    (hop : p.op.isCommit = true) (hopen : before.finished p.id = false) :
  p.publishes = true ↔
    ∀ k, Write.insertsFirst k (before.staged p.id) = true → p.tables.contains k = false
  := by
  obtain ⟨s, tx, hs, rfl, htx, hp⟩ := exists_performance h
  have htracks := hs.tracks _ _ htx
  have hfin : tx.finished = false := htracks.finished.trans hopen
  obtain ⟨snapshot, -, hview⟩ := htracks.view hfin
  have htables : p.tables = s.tables := by
    rw [hp]
    rfl
  rw [← htracks.writes hfin, htables, ← Tables.replay_isOk_iff hview]
  cases hcommit : p.op with
  | commit =>
    rw [hp, hcommit]
    simp only [Performance.publishes, Transaction.performance,
      Transaction.perform_of_open hfin, Transaction.act, Transaction.publish]
    cases s.tables.replay tx.writes with
    | ok u => simp [Transaction.Operation.isCommit, Except.isOk, Except.toBool]
    | error e => simp [Transaction.Operation.isCommit, Except.isOk, Except.toBool]
  | _ => simp [hcommit, Transaction.Operation.isCommit] at hop

/-- A transaction that publishes its writes was begun and is not finished before. -/
theorem open_of_publishes
    (h : (run { store := store } actions).history = before ++ .performed p :: after)
    (hpub : p.publishes = true) :
  before.finished p.id = false ∧ ∃ snapshot, .begun p.id snapshot ∈ before
  := by
  obtain ⟨s, tx, hs, rfl, htx, hp⟩ := exists_performance h
  rw [hp] at hpub
  obtain ⟨hfin, -⟩ := Transaction.replay_of_publishes hpub
  have htracks := hs.tracks _ _ htx
  obtain ⟨snapshot, hmem, -⟩ := htracks.view hfin
  use htracks.finished.symm.trans hfin, snapshot

/-- A transaction writes nothing from its commit on. -/
theorem wrote_before
    (h : (run { store := store } actions).history = before ++ after) {id : Nat}
    (hfin : before.finished id = true) {k : Key}
    (hk : (run { store := store } actions).history.wrote id k = true) :
  before.wrote id k = true
  := by
  by_contra hnot
  rw [h, History.wrote_append, Bool.or_eq_true, or_iff_right hnot] at hk
  obtain ⟨e, he, hwrites⟩ := List.any_eq_true.mp hk
  obtain ⟨middle, rest, rfl⟩ := List.append_of_mem he
  cases e with
  | performed p =>
    obtain ⟨hid, hp⟩ : p.id = id ∧ p.writes k = true := by
      simpa [Event.writes] using hwrites
    rw [← List.append_assoc] at h
    rw [writes_of_finished h (by simp [hid, hfin]) k] at hp
    cases hp
  | _ => cases hwrites

/-- A commit that succeeds after a transaction was begun is among those since then. -/
theorem mem_published_since (hpub : p.publishes = true) {id : Nat} {snapshot : Tables}
    (hb : .begun id snapshot ∈ before) :
  p.id ∈ (History.since (before ++ .performed p :: after) id).published
  := by
  rw [History.since_append hb, History.published_append]
  apply List.mem_append_right
  simp [History.published, Event.publisher, hpub]

/-- A transaction that published its writes was begun before. -/
theorem exists_begun_of_mem_published {id : Nat}
    (h : (run { store := store } actions).history = before ++ after)
    (hid : id ∈ before.published) :
  ∃ snapshot, .begun id snapshot ∈ before
  := by
  obtain ⟨first, q, rest, rfl, hpub, rfl⟩ := History.exists_of_mem_published hid
  rw [List.append_assoc, List.cons_append] at h
  obtain ⟨-, snapshot, hmem⟩ := open_of_publishes h hpub
  use snapshot
  exact List.mem_append_left _ hmem

/-- Where transaction `i` commits before transaction `p.id`, all that makes them conflict happens
before the latter commits. -/
theorem conflict_before
    (h : (run { store := store } actions).history = before ++ .performed p :: after)
    (hpub : p.publishes = true) {i : Nat} (hi : i ∈ before.published)
    (hsince : i ∈ ((run { store := store } actions).history.since p.id).published) {k : Key}
    (hwrote : (run { store := store } actions).history.wrote i k = true)
    (hwrote' : (run { store := store } actions).history.wrote p.id k = true) :
  i ∈ (before.since p.id).published ∧ before.wrote i k = true ∧ before.wrote p.id k = true
  := by
  have hnodup := (sound_run store actions).nodup
  obtain ⟨-, snapshot, hmem⟩ := open_of_publishes h hpub
  refine ⟨?_, ?_, ?_⟩
  · rw [h, History.since_append hmem, History.published_append] at hsince
    rcases List.mem_append.mp hsince with hsince | hlater
    · apply hsince
    · -- it would have published a second time
      rw [h, History.published_append] at hnodup
      exact absurd hlater (List.disjoint_of_nodup_append hnodup hi)
  · apply wrote_before h _ hwrote
    apply History.finished_of_mem_published hi
  · rw [← List.singleton_append, ← List.append_assoc] at h
    have hk : History.wrote (before ++ [.performed p]) p.id k = true := by
      apply wrote_before h _ hwrote'
      apply History.finished_of_mem_published
      simp [History.published, Event.publisher, hpub]
    simpa [History.wrote, Event.writes, p.not_writes_of_publishes hpub] using hk

/-- If every commit of a transaction that wrote a key after another one that committed since it was
begun wrote it meets a key that is present, then no two transactions that overlap wrote the key. -/
theorem wrote_eq_false_of_detected (k : Key)
    (hdetected : ∀ (before : History) (p : Performance) (after : History),
      (run { store := store } actions).history = before ++ .performed p :: after →
      p.op.isCommit = true → before.finished p.id = false →
      (∃ i, i ∈ (before.since p.id).published ∧ before.wrote i k = true
        ∧ before.wrote p.id k = true) →
      ∃ k', Write.insertsFirst k' (before.staged p.id) = true ∧ p.tables.contains k' = true)
    {i j : Nat} (hne : i ≠ j)
    (hj : j ∈ ((run { store := store } actions).history.since i).published)
    (hi : i ∈ ((run { store := store } actions).history.since j).published)
    (hwrote : (run { store := store } actions).history.wrote i k = true) :
  (run { store := store } actions).history.wrote j k = false
  := by
  -- of two commits the later one would have to meet a key that is present
  have hlater : ∀ (before : History) (p : Performance) (after : History) (i : Nat),
      (run { store := store } actions).history = before ++ .performed p :: after →
      p.publishes = true → i ∈ before.published →
      i ∈ ((run { store := store } actions).history.since p.id).published →
      (run { store := store } actions).history.wrote i k = true →
      (run { store := store } actions).history.wrote p.id k = false := by
    intro before p after i h hpub hi hsince hwrote
    by_contra hwrote'
    have hconflict := conflict_before h hpub hi hsince hwrote (by simpa using hwrote')
    have hop : p.op.isCommit = true := (Bool.and_eq_true_iff.mp hpub).1
    have hopen := (open_of_publishes h hpub).1
    obtain ⟨k', hk', hpresent⟩ := hdetected before p after h hop hopen ⟨i, hconflict⟩
    rw [(publishes_iff h hop hopen).mp hpub k' hk'] at hpresent
    cases hpresent
  obtain ⟨before, p, after, h, hpub, rfl⟩ :=
    History.exists_of_mem_published (History.mem_published_of_mem_since hj)
  have hi' := History.mem_published_of_mem_since hi
  rw [h, History.published_append] at hi'
  rcases List.mem_append.mp hi' with hbefore | hafter
  · apply hlater before p after i h hpub hbefore hi hwrote
  · obtain ⟨middle, q, rest, hq, hpub', rfl⟩ := History.exists_of_mem_published hafter
    rw [hq, ← List.append_assoc] at h
    cases middle with
    | nil =>
      cases hq
      exact absurd rfl hne
    | cons e middle =>
      cases hq
      by_contra hwrote'
      have hfirst : p.id ∈ History.published (before ++ .performed p :: middle) := by
        simp [History.published, Event.publisher, hpub]
      rw [hlater _ q rest p.id h hpub' hfirst hj (by simpa using hwrote')] at hwrote
      cases hwrote

/-- Whether the first committer wins in a history is decided at the commits of transactions that
wrote a key after another one that committed since they were begun wrote it: the first committer
wins exactly when each of them inserts some key first that is present then. -/
theorem firstCommitterWins_iff (store : MemoryStore) (actions : List Action) :
  (run { store := store } actions).history.FirstCommitterWins ↔
    ∀ (before : History) (p : Performance) (after : History),
      (run { store := store } actions).history = before ++ .performed p :: after →
      p.op.isCommit = true → before.finished p.id = false →
      (∃ i k, i ∈ (before.since p.id).published ∧ before.wrote i k = true
        ∧ before.wrote p.id k = true) →
      ∃ k, Write.insertsFirst k (before.staged p.id) = true ∧ p.tables.contains k = true
  := by
  constructor
  · rintro hwins before p after h hop hopen ⟨i, k, hi, hwrote, hwrote'⟩
    by_contra hfree
    have hpublished := History.mem_published_of_mem_since hi
    have hpub : p.publishes = true := by
      apply (publishes_iff h hop hopen).mpr
      intro k' hk'
      by_contra hpresent
      exact hfree ⟨k', hk', by simpa using hpresent⟩
    obtain ⟨snapshot, hmem⟩ := exists_begun_of_mem_published h hpublished
    obtain ⟨snapshot', hmem'⟩ := (open_of_publishes h hpub).2
    have hlost : History.wrote (before ++ .performed p :: after) p.id k = false := by
      rw [h] at hwins
      apply hwins i p.id k
      · rintro rfl
        rw [History.finished_of_mem_published hpublished] at hopen
        cases hopen
      · apply mem_published_since hpub hmem
      · rw [History.since_append hmem', History.published_append]
        apply List.mem_append_left _ hi
      · simp [hwrote]
    simp [hwrote'] at hlost
  · intro hdetected i j k hne hj hi hwrote
    apply wrote_eq_false_of_detected k _ hne hj hi hwrote
    rintro before p after h hop hopen ⟨i, hconflict⟩
    apply hdetected before p after h hop hopen ⟨i, k, hconflict⟩

/-- Two transactions read a document and replace it, one after the other has done so. -/
def lostUpdate : List Action :=
  let k : Key := ⟨"users", "u1"⟩
  [.connect, .begin "t0", .perform 0 (.insert k (.bool true)), .perform 0 .commit,
    .begin "t1", .begin "t2", .perform 1 (.find k), .perform 2 (.find k),
    .perform 1 (.delete k), .perform 1 (.insert k (.str "first")),
    .perform 2 (.delete k), .perform 2 (.insert k (.str "second")),
    .perform 1 .commit, .perform 2 .commit]

/-- Both transactions commit, and what the first of them wrote is lost. -/
theorem not_firstCommitterWins_lostUpdate :
  ¬ (run { store := {} } lostUpdate).history.FirstCommitterWins
  := by
  intro hwins
  have hlost := hwins 1 2 ⟨"users", "u1"⟩ (by decide) (by decide) (by decide) (by decide)
  exact absurd hlost (by decide)

end SharedStore

end Storekeeper

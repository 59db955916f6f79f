import Mathlib.Algebra.GroupWithZero.Nat
import Storekeeper.Proofs.Manager.Tasks
import Storekeeper.Proofs.Store.WriteConflicts

/-!
# Seeding a store

The task `seed` looks in the contents with which its transaction was begun for the default records
that are missing, and its commit inserts them unless one of them is there by then.  Of any number of
calls that seed at the same time the first one to return inserts all that is missing.  A call that
was begun before then fails, if anything was missing, and all others find nothing to do.

`Call.Seeds` lists all that a step of such a call can do, `Traffic.Stage` says what the calls have
made of the store at any time, and `Traffic.SeedsOnce` what comes of them in the end.
-/

namespace Storekeeper

namespace StoredRecord

/-- Where a record is stored. -/
def key (r : StoredRecord) : Key := ⟨r.collection, r.id⟩

/-- The write that inserts a record. -/
def write (r : StoredRecord) : Write := .insert r.key r.document

end StoredRecord

/-- Where the default records are stored. -/
def Record.defaultKeys : List Key :=
  [⟨"users", "seed-user-admin"⟩, ⟨"users", "seed-user-member"⟩,
    ⟨"projects", "seed-project-apollo"⟩, ⟨"projects", "seed-project-gemini"⟩,
    ⟨"project_members", "seed-member-apollo-admin"⟩,
    ⟨"project_members", "seed-member-apollo-member"⟩,
    ⟨"project_members", "seed-member-gemini-member"⟩,
    ⟨"project_tasks", "seed-task-apollo-1"⟩, ⟨"project_tasks", "seed-task-apollo-2"⟩]

/-- The default records are stored in the same places whenever they are created. -/
theorem Record.map_key_defaults (now : Instant) :
  (defaults now).map StoredRecord.key = defaultKeys
  := rfl

theorem Record.nodup_defaultKeys :
  defaultKeys.Nodup
  := by
  decide

namespace Tables

/-- The tables with the documents of some records put under their keys. -/
def putAll (t : Tables) (rs : List StoredRecord) : Tables :=
  rs.foldl (fun t r => t.put r.key r.document) t

/-- Those of some records that are not there. -/
def absent (t : Tables) (rs : List StoredRecord) : List StoredRecord :=
  rs.filter fun r => !t.contains r.key

/-- The keys of the default records that are not there. -/
def lacking (t : Tables) : List Key := Record.defaultKeys.filter fun k => !t.contains k

/-- The tables with the default records that were not there. -/
def seeded (t : Tables) (now : Instant) : Tables := t.putAll (t.absent (Record.defaults now))

theorem map_key_absent (t : Tables) (rs : List StoredRecord) :
  (t.absent rs).map StoredRecord.key = (rs.map StoredRecord.key).filter fun k => !t.contains k
  := by
  rw [List.filter_map]
  rfl

theorem absent_put (t : Tables) {k : Key} {rs : List StoredRecord} (d : Json)
    (h : k ∉ rs.map StoredRecord.key) :
  (t.put k d).absent rs = t.absent rs
  := by
  apply List.filter_congr
  intro r hr
  have hne : k ≠ r.key := by
    rintro rfl
    exact h (List.mem_map_of_mem hr)
  simp [contains_put, hne]

theorem find?_putAll_of_notMem (t : Tables) {rs : List StoredRecord} {k : Key}
    (h : k ∉ rs.map StoredRecord.key) :
  (t.putAll rs).find? k = t.find? k
  := by
  induction rs generalizing t with
  | nil => rfl
  | cons r rs ih =>
    rw [List.map_cons, List.mem_cons, not_or] at h
    obtain ⟨hne, hrest⟩ := h
    apply (ih _ hrest).trans
    rw [find?_put, if_neg (Ne.symm hne)]

/-- Records with keys of their own are put in their places. -/
theorem find?_putAll_of_mem (t : Tables) {rs : List StoredRecord}
    (hrs : (rs.map StoredRecord.key).Nodup) {r : StoredRecord} (h : r ∈ rs) :
  (t.putAll rs).find? r.key = some r.document
  := by
  induction rs generalizing t with
  | nil => cases h
  | cons r' rs ih =>
    obtain ⟨hr, hrs⟩ := List.nodup_cons.mp hrs
    rcases List.mem_cons.mp h with rfl | h
    · apply (find?_putAll_of_notMem _ hr).trans
      rw [find?_put, if_pos rfl]
    · apply ih _ hrs h

/-- Records that are not there can be inserted. -/
theorem replay_putAll (t : Tables) {rs : List StoredRecord}
    (hrs : (rs.map StoredRecord.key).Nodup) (h : ∀ r ∈ rs, t.contains r.key = false) :
  t.replay (rs.map StoredRecord.write) = .ok (t.putAll rs)
  := by
  induction rs generalizing t with
  | nil => rfl
  | cons r rs ih =>
    obtain ⟨hr, hrs⟩ := List.nodup_cons.mp hrs
    obtain ⟨hfree, hrest⟩ := List.forall_mem_cons.mp h
    rw [List.map_cons, replay_cons, StoredRecord.write, Write.apply, hfree]
    apply ih _ hrs
    intro r' hr'
    have hne : r.key ≠ r'.key := by
      intro heq
      exact hr (heq ▸ List.mem_map_of_mem hr')
    simp [contains_put, hne, hrest r' hr']

/-- Where the first of some records is present they cannot be inserted. -/
theorem replay_of_contains (t : Tables) {r : StoredRecord} (rs : List StoredRecord)
    (h : t.contains r.key = true) :
  t.replay ((r :: rs).map StoredRecord.write) = .error (.duplicateKey r.key.text)
  := by
  rw [List.map_cons, replay_cons, StoredRecord.write, Write.apply, if_pos h]
  rfl

section

variable (t : Tables) (now : Instant)

theorem map_key_absent_defaults :
  (t.absent (Record.defaults now)).map StoredRecord.key = t.lacking
  := by
  rw [map_key_absent, Record.map_key_defaults]
  rfl

theorem replay_seeded :
  t.replay ((t.absent (Record.defaults now)).map StoredRecord.write) = .ok (t.seeded now)
  := by
  apply replay_putAll
  · rw [map_key_absent_defaults]
    apply Record.nodup_defaultKeys.filter
  · intro r hr
    simpa using (List.mem_filter.mp hr).2

/-- Nothing changes under the keys of documents that were there, or that are none of the default
records. -/
theorem find?_seeded_of_notMem {k : Key} (h : k ∉ t.lacking) :
  (t.seeded now).find? k = t.find? k
  := by
  apply find?_putAll_of_notMem
  rw [map_key_absent_defaults]
  exact h

/-- Each default record is there, unless there was another document in its place. -/
theorem find?_seeded_of_mem {r : StoredRecord} (h : r ∈ Record.defaults now) :
  (t.seeded now).find? r.key = some ((t.find? r.key).getD r.document)
  := by
  cases hr : t.find? r.key with
  | some d =>
    rw [find?_seeded_of_notMem, hr, Option.getD_some]
    simp [lacking, contains, hr]
  | none =>
    rw [Option.getD_none]
    apply find?_putAll_of_mem
    · rw [map_key_absent_defaults]
      apply Record.nodup_defaultKeys.filter
    · apply List.mem_filter.mpr
      simp [h, contains, hr]

theorem lacking_seeded :
  (t.seeded now).lacking = []
  := by
  apply List.filter_eq_nil_iff.mpr
  intro k hk
  rw [← Record.map_key_defaults now] at hk
  obtain ⟨r, hr, rfl⟩ := List.mem_map.mp hk
  simp [contains, find?_seeded_of_mem t now hr]

theorem absent_of_lacking_eq_nil {t : Tables} (h : t.lacking = []) :
  t.absent (Record.defaults now) = []
  := by
  apply List.map_eq_nil_iff.mp
  rw [map_key_absent_defaults, h]

theorem length_absent_defaults :
  (t.absent (Record.defaults now)).length = t.lacking.length
  := by
  rw [← map_key_absent_defaults t now, List.length_map]

end

end Tables

/-! ### The outlook of seeding -/

namespace Maintenance

/-- What it comes to to insert those of some records that are missing. -/
theorem outlook_insertMissing (tx : Transaction) (hopen : tx.finished = false) (n : Nat)
    {rs : List StoredRecord} (hrs : (rs.map StoredRecord.key).Nodup) :
  ((insertMissing n rs).outlook tx).transaction.writes
      = tx.writes ++ (tx.view.absent rs).map StoredRecord.write
    ∧ ((insertMissing n rs).outlook tx).result = .ok (n + (tx.view.absent rs).length)
  := by
  induction rs generalizing n tx with
  | nil => simp [insertMissing, Work.outlook, Tables.absent]
  | cons r rs ih =>
    obtain ⟨hr, hrs⟩ := List.nodup_cons.mp hrs
    have hfind : tx.perform .empty (.find ⟨r.collection, r.id⟩)
        = ⟨.ok (tx.view.find? r.key), tx, .empty⟩ := Transaction.perform_of_open hopen _ _
    simp only [insertMissing, Work.require, Work.outlook, hfind, Outlook.later]
    cases hd : tx.view.find? r.key with
    | some d =>
      have habsent : tx.view.absent (r :: rs) = tx.view.absent rs := by
        simp [Tables.absent, Tables.contains, hd]
      rw [habsent]
      apply ih tx hopen n hrs
    | none =>
      have habsent : tx.view.absent (r :: rs) = r :: tx.view.absent rs := by
        simp [Tables.absent, Tables.contains, hd]
      have hinsert : tx.perform .empty (.insert ⟨r.collection, r.id⟩ r.document)
          = ⟨.ok (),
            { tx with view := tx.view.put r.key r.document, writes := tx.writes ++ [r.write] },
            .empty⟩ := by
        have hfree : ¬ tx.view.contains ⟨r.collection, r.id⟩ = true := by
          simp [Tables.contains, StoredRecord.key] at hd ⊢
          exact hd
        rw [Transaction.perform_of_open hopen, Transaction.act, Transaction.stage, Write.apply,
          if_neg hfree]
        rfl
      simp only [Work.outlook, hinsert, Outlook.later]
      obtain ⟨hwrites, hresult⟩ := ih
        { tx with view := tx.view.put r.key r.document, writes := tx.writes ++ [r.write] } hopen
        (n + 1) hrs
      rw [habsent]
      rw [Tables.absent_put _ _ hr] at hwrites hresult
      constructor
      · rw [hwrites, List.map_cons, List.append_assoc, List.singleton_append]
      · rw [hresult, List.length_cons, Nat.add_assoc, Nat.add_comm 1]

theorem length_outlook_insertMissing (tx : Transaction) (n : Nat) (rs : List StoredRecord) :
  ((insertMissing n rs).outlook tx).length ≤ 2 * rs.length
  := by
  induction rs generalizing n tx with
  | nil => exact Nat.le_refl 0
  | cons r rs ih =>
    simp only [insertMissing, Work.require, Work.outlook, Outlook.later, List.length_cons]
    cases (tx.perform .empty (.find ⟨r.collection, r.id⟩)).reply with
    | error e =>
      simp only [Work.fail, Work.outlook]
      omega
    | ok found =>
      cases found with
      | some d =>
        have hrest := ih (tx.perform .empty (.find ⟨r.collection, r.id⟩)).transaction n
        simp only [Work.outlook]
        omega
      | none =>
        simp only [Work.outlook, Outlook.later]
        generalize (tx.perform .empty (.find ⟨r.collection, r.id⟩)).transaction = tx
        cases (tx.perform .empty (.insert ⟨r.collection, r.id⟩ r.document)).reply with
        | error e =>
          simp only [Work.fail, Work.outlook]
          omega
        | ok reply =>
          have hrest :=
            ih (tx.perform .empty (.insert ⟨r.collection, r.id⟩ r.document)).transaction (n + 1)
          simp only
          omega

/-- Seeding inserts the default records that are missing. -/
theorem outlook_seed (now : Instant) (name : String) (snapshot : Tables) :
  ((seed.work now).outlook (.begin name snapshot)).transaction.writes
      = (snapshot.absent (Record.defaults now)).map StoredRecord.write
    ∧ ((seed.work now).outlook (.begin name snapshot)).result = .ok snapshot.lacking.length
  := by
  have hkeys : ((Record.defaults now).map StoredRecord.key).Nodup := Record.nodup_defaultKeys
  obtain ⟨hwrites, hresult⟩ := outlook_insertMissing (.begin name snapshot) rfl 0 hkeys
  use hwrites
  rw [Nat.zero_add] at hresult
  apply hresult.trans
  rw [← Tables.length_absent_defaults snapshot now]
  rfl

end Maintenance

/-! ### Steps of a call that seeds -/

/-- All that can come of a step of a call that seeds a store which is connected, where the history
says with which contents its transaction was begun. -/
inductive Call.Seeds (h : History) (i : Nat) (m : Manager) : Call.Step → Prop where
  | going {m' : Manager} {c : Call} (hm : m.Resembles m') (hc : c.task? = some .seed) :
    Seeds h i m (m', .going c)
  | seeded {now : Instant} {snapshot tables : Tables} {journal : List Notice}
      (hb : .begun i snapshot ∈ h)
      (hr : m.store.tables.replay
        ((snapshot.absent (Record.defaults now)).map StoredRecord.write) = .ok tables) :
    Seeds h i m
      ({ m with journal := journal, store := { m.store with tables := tables } },
        .done (.maintained (.ok snapshot.lacking.length)))
  | failed {now : Instant} {snapshot : Tables} {e : Error} {journal : List Notice}
      (hb : .begun i snapshot ∈ h)
      (hr : m.store.tables.replay
        ((snapshot.absent (Record.defaults now)).map StoredRecord.write) = .error e) :
    Seeds h i m
      ({ m.recordError (Redaction.sanitize e.message) with journal := journal },
        .done (.maintained (.error (.error e))))

namespace Call

variable {h : History} {i : Nat} {m : Manager}

theorem seeds_maintain (hm : Maintenance.seed.permitted.contains m.settings.environment = true) :
  Seeds h i m ((maintain .seed).advance m)
  := by
  simp only [advance, Maintenance.start, hm, if_true]
  exact .going ⟨m.journal, m.store.transactions, rfl⟩ rfl

theorem seeds_maintaining {phase : Run Nat} (hf : phase.Follows h i .seed)
    (hc : m.store.connected = true) :
  Seeds h i m ((maintaining .seed phase).advance m)
  := by
  cases hp : (phase.advance m).2 with
  | going phase' =>
    have hm := hf.resembles hc hp
    rw [advance]
    generalize phase.advance m = step at hp hm
    obtain ⟨m', progress⟩ := step
    cases hp
    exact .going hm rfl
  | done r =>
    rcases hf.cases_of_done hc hp with ⟨r, value, rfl⟩ | ⟨r, failure, rfl⟩
    · obtain ⟨now, name, snapshot, hb, hopen, htx, hvalue⟩ := hf.committing
      obtain ⟨hwrites, hresult⟩ := Maintenance.outlook_seed now name snapshot
      rw [htx] at hwrites
      cases hvalue.symm.trans hresult
      rcases Run.commit_cases m hopen snapshot.lacking.length with
        ⟨journal, tables, hreplay, hcommit⟩ | ⟨journal, e, hreplay, hcommit⟩
      · rw [hwrites] at hreplay
        simp only [advance, Run.advance, hcommit, lift, maintenanceResult]
        exact .seeded hb hreplay
      · rw [hwrites] at hreplay
        simp only [advance, Run.advance, hcommit, lift, maintenanceResult]
        exact .failed hb hreplay
    · obtain ⟨now, name, snapshot, hfailure⟩ := hf.aborting
      cases hfailure.symm.trans (Maintenance.outlook_seed now name snapshot).2

end Call

/-! ### Calls that seed among others -/

/-- A run begins its own transaction on the contents of the store. -/
theorem Run.eq_of_event?_begun {α : Type} {run : Run α} {m : Manager} {i j : Nat}
    {snapshot : Tables} (h : run.event? m j = some (.begun i snapshot)) :
  i = j ∧ snapshot = m.store.tables
  := by
  cases run with
  | beginning options work =>
    simp only [event?] at h
    split at h
    · cases h
      exact ⟨rfl, rfl⟩
    · cases h
  | _ => cases h

namespace Traffic

variable {first : Traffic} {moves : List Move} {i : Nat}

/-- A call is for what was asked, however many calls were made since. -/
theorem task?_of_asked (hf : first.calls = []) {done : List Move} (hd : done <+: moves)
    {r : Request} (hr : (asked moves)[i]? = some r) {c : Call}
    (hc : (first.run done).call? i = some c) :
  c.task? = r.task?
  := by
  have hanswers := answers_run hf done
  have hlt := lt_length_of_call? hc
  obtain ⟨rest, rfl⟩ := hd
  rw [hanswers.length] at hlt
  rw [asked_append, List.getElem?_append_left hlt] at hr
  rw [hanswers.task i c hc]
  rw [hr, Option.bind_some]

/-- A transaction is begun on the contents of the store at the time. -/
theorem exists_of_begun {snapshot : Tables} (h : .begun i snapshot ∈ first.history moves) :
  ∃ done c, done ++ [.advance i] <+: moves ∧ (first.run done).call? i = some c
    ∧ snapshot = (first.run done).contents
  := by
  obtain ⟨before, after, hsplit⟩ := List.append_of_mem h
  obtain ⟨done, move, hp, -, hmove⟩ := exists_of_record hsplit
  obtain ⟨j, c, rfl, hc, hr, he⟩ := exists_of_shown hmove
  obtain ⟨phase, hw, he⟩ := Option.bind_eq_some_iff.mp he
  obtain ⟨rfl, rfl⟩ := Run.eq_of_event?_begun he
  exact ⟨done, c, hp, hc, rfl⟩

/-- The store is connected all the time, and its contents change by the steps of calls that seed
only. -/
structure OnlySeeded (first : Traffic) (moves : List Move) : Prop where
  connected : ∀ done, done <+: moves → (first.run done).manager.store.connected = true
  writers : ∀ done move, done ++ [move] <+: moves →
    (first.run (done ++ [move])).contents = (first.run done).contents
      ∨ ∃ i c, move = .advance i ∧ (first.run done).call? i = some c ∧ c.task? = some .seed

theorem OnlySeeded.shorten (h : first.OnlySeeded moves) {done : List Move} (hd : done <+: moves) :
  first.OnlySeeded done
  := by
  constructor
  · intro done' hp
    apply h.connected _ (hp.trans hd)
  · intro done' move hp
    apply h.writers _ _ (hp.trans hd)

/-- The number of documents that calls returned which succeeded. -/
def inserted (results : List (Nat × Except Failure Nat)) : Nat :=
  (results.map fun r => r.2.toOption.getD 0).sum

/-- What calls that seed make of the contents `t₀` of a store: nothing until one of them has
returned, and afterwards the default records are there. -/
inductive Stage (t₀ : Tables) : Tables → List (Nat × Except Failure Nat) → Prop where
  | fresh : Stage t₀ t₀ []
  | seeded (now : Instant) {results : List (Nat × Except Failure Nat)} (hne : results ≠ [])
      (htotal : inserted results = t₀.lacking.length)
      (hfailed : ∀ i failure, (i, .error failure) ∈ results →
        ∃ k ∈ t₀.lacking, failure = .error (.duplicateKey k.text)) :
    Stage t₀ (t₀.seeded now) results

namespace Stage

variable {t₀ t u snapshot : Tables} {results : List (Nat × Except Failure Nat)} {now : Instant}

theorem eq_of_nil (h : Stage t₀ t []) :
  t = t₀
  := by
  cases h with
  | fresh => rfl
  | seeded now hne => exact absurd rfl hne

theorem eq_or_lacking (h : Stage t₀ t results) :
  t = t₀ ∨ t.lacking = []
  := by
  cases h with
  | fresh => exact .inl rfl
  | seeded now => exact .inr (t₀.lacking_seeded now)

theorem total (h : Stage t₀ t results) (hne : results ≠ []) :
  inserted results = t₀.lacking.length
  := by
  cases h with
  | fresh => exact absurd rfl hne
  | seeded now hne htotal => exact htotal

theorem lacking (h : Stage t₀ t results) (hne : results ≠ []) :
  t.lacking = []
  := by
  cases h with
  | fresh => exact absurd rfl hne
  | seeded now => exact t₀.lacking_seeded now

theorem present (h : Stage t₀ t results) (hne : results ≠ []) :
  ∃ now, ∀ r ∈ Record.defaults now, t.find? r.key = some ((t₀.find? r.key).getD r.document)
  := by
  cases h with
  | fresh => exact absurd rfl hne
  | seeded now =>
    use now
    intro r hr
    apply t₀.find?_seeded_of_mem now hr

theorem kept (h : Stage t₀ t results) {k : Key} (hk : k ∉ t₀.lacking) :
  t.find? k = t₀.find? k
  := by
  cases h with
  | fresh => rfl
  | seeded now => apply t₀.find?_seeded_of_notMem now hk

theorem duplicate (h : Stage t₀ t results) {i : Nat} {failure : Failure}
    (hmem : (i, .error failure) ∈ results) :
  ∃ k ∈ t₀.lacking, failure = .error (.duplicateKey k.text)
  := by
  cases h with
  | fresh => cases hmem
  | seeded now hne htotal hfailed => apply hfailed i failure hmem

/-- Once the default records are there, what was to be inserted before is refused. -/
theorem replay_seeded {now' : Instant} {r : StoredRecord} {rs : List StoredRecord}
    (h : t₀.absent (Record.defaults now) = r :: rs) :
  r.key ∈ t₀.lacking
    ∧ (t₀.seeded now').replay ((t₀.absent (Record.defaults now)).map StoredRecord.write)
      = .error (.duplicateKey r.key.text)
  := by
  have hr : r.key ∈ t₀.lacking := by
    rw [← t₀.map_key_absent_defaults now, h]
    apply List.mem_cons_self
  use hr
  rw [h]
  apply Tables.replay_of_contains
  have hthere := List.filter_eq_nil_iff.mp (t₀.lacking_seeded now') r.key (List.mem_filter.mp hr).1
  simpa using hthere

/-- A call that succeeds either inserts all that is missing or finds nothing missing. -/
theorem commit (h : Stage t₀ t results) (hfresh : results = [] → snapshot = t₀)
    (hsnapshot : snapshot = t₀ ∨ snapshot.lacking = [])
    (hr : t.replay ((snapshot.absent (Record.defaults now)).map StoredRecord.write) = .ok u)
    (i : Nat) :
  Stage t₀ u (results ++ [(i, .ok snapshot.lacking.length)])
  := by
  cases h with
  | fresh =>
    obtain rfl := hfresh rfl
    cases hr.symm.trans (Tables.replay_seeded _ now)
    apply Stage.seeded
    · simp
    · simp [inserted, Except.toOption]
    · simp
  | seeded now' hne htotal hfailed =>
    have habsent : snapshot.absent (Record.defaults now) = [] := by
      rcases hsnapshot with rfl | hlacking
      · cases habsent : snapshot.absent (Record.defaults now) with
        | nil => rfl
        | cons r rs => cases hr.symm.trans (replay_seeded habsent).2
      · apply Tables.absent_of_lacking_eq_nil now hlacking
    have hlength := snapshot.length_absent_defaults now
    rw [habsent, List.length_nil] at hlength
    rw [habsent] at hr
    cases hr
    rw [← hlength]
    apply Stage.seeded
    · simp
    · simpa [inserted, Except.toOption] using htotal
    · simpa using hfailed

/-- A call that fails finds a document under a key that was free when it was begun. -/
theorem refuse (h : Stage t₀ t results) (hfresh : results = [] → snapshot = t₀)
    (hsnapshot : snapshot = t₀ ∨ snapshot.lacking = []) {e : Error}
    (hr : t.replay ((snapshot.absent (Record.defaults now)).map StoredRecord.write) = .error e)
    (i : Nat) :
  Stage t₀ t (results ++ [(i, .error (.error e))])
  := by
  cases h with
  | fresh =>
    obtain rfl := hfresh rfl
    cases hr.symm.trans (Tables.replay_seeded _ now)
  | seeded now' hne htotal hfailed =>
    have hduplicate : ∃ k ∈ t₀.lacking, e = .duplicateKey k.text := by
      rcases hsnapshot with rfl | hlacking
      · cases habsent : snapshot.absent (Record.defaults now) with
        | nil =>
          rw [habsent] at hr
          cases hr
        | cons r rs =>
          obtain ⟨hkey, hrefused⟩ := replay_seeded habsent
          cases hr.symm.trans hrefused
          use r.key
      · rw [Tables.absent_of_lacking_eq_nil now hlacking] at hr
        cases hr
    obtain ⟨k, hk, rfl⟩ := hduplicate
    apply Stage.seeded
    · simp
    · simpa [inserted, Except.toOption] using htotal
    · intro j failure hj
      rcases List.mem_append.mp hj with hj | hj
      · apply hfailed j failure hj
      · cases List.mem_singleton.mp hj
        use k

end Stage

theorem settings_run (first : Traffic) (moves : List Move) :
  (first.run moves).manager.settings = first.manager.settings
  := by
  apply run_induction (P := fun s => s.manager.settings = first.manager.settings) rfl
  intro s move hs
  rw [(s.step_change move).settings, hs]

theorem contents_settle (s : Traffic) (i : Nat) (step : Call.Step) :
  (s.settle i step).contents = step.1.store.tables
  := by
  rw [contents, manager_settle]

/-- What comes of a step of a call that seeds, which never has to wait. -/
theorem seeds_of_call? (hf : first.calls = [])
    (henv : Maintenance.seed.permitted.contains first.manager.settings.environment = true)
    (hconn : (first.run moves).manager.store.connected = true) {c : Call}
    (hc : (first.run moves).call? i = some c) (ht : c.task? = some .seed) :
  c.isReady (first.run moves).manager = true
    ∧ Call.Seeds (first.history moves) i (first.run moves).manager
      (c.advance (first.run moves).manager)
  := by
  cases c with
  | maintain task =>
    cases ht
    use rfl
    apply Call.seeds_maintain
    rw [settings_run]
    exact henv
  | maintaining task phase =>
    cases ht
    have hfollows := follows_run hf moves i .seed phase hc
    use hfollows.isReady _
    apply Call.seeds_maintaining hfollows hconn
  | _ => cases ht

/-- The calls that seed go from one stage to the other. -/
theorem stage_run (hf : first.calls = [])
    (henv : Maintenance.seed.permitted.contains first.manager.settings.environment = true)
    (h : first.OnlySeeded moves) (done : List Move) (hd : done <+: moves) :
  Stage first.contents (first.run done).contents (first.returned .seed done)
  := by
  induction moves using List.reverseRecOn generalizing done with
  | nil =>
    rw [List.prefix_nil.mp hd]
    exact .fresh
  | append_singleton moves move ih =>
    have hstage := ih (h.shorten (List.prefix_append _ _))
    rcases List.prefix_concat_iff.mp hd with rfl | hd
    case inr => apply hstage done hd
    have hnow := hstage moves List.prefix_rfl
    rw [returned, record_concat]
    -- The contents with which a transaction was begun are those of an earlier stage.
    have hsnapshot : ∀ {i snapshot}, .begun i snapshot ∈ first.history moves →
        (first.returned .seed moves = [] → snapshot = first.contents)
          ∧ (snapshot = first.contents ∨ snapshot.lacking = []) := by
      intro i snapshot hb
      obtain ⟨done, c, hd, -, rfl⟩ := exists_of_begun hb
      have hdone := (List.prefix_append _ _).trans hd
      constructor
      · intro hnone
        have hstart := hstage done hdone
        have hempty := first.returned_mono .seed hdone
        rw [hnone, List.prefix_nil] at hempty
        rw [hempty] at hstart
        apply hstart.eq_of_nil
      · apply (hstage done hdone).eq_or_lacking
    by_cases hseed : ∃ i c, move = .advance i ∧ (first.run moves).call? i = some c
        ∧ c.task? = some .seed
    · obtain ⟨i, c, rfl, hc, ht⟩ := hseed
      obtain ⟨hr, hseeds⟩ := seeds_of_call? hf henv
        (h.connected moves (List.prefix_append _ _)) hc ht
      rw [shown_advance _ hc hr, run_concat, step_advance hc hr, contents_settle, Call.returned?,
        ht]
      generalize c.advance (first.run moves).manager = step at hseeds
      cases hseeds with
      | going hm hg =>
        obtain ⟨journal, transactions, rfl⟩ := hm
        simp only [Option.toList_none, List.append_nil]
        exact hnow
      | seeded hb hreplay =>
        obtain ⟨hfresh, hbegun⟩ := hsnapshot hb
        apply hnow.commit hfresh hbegun hreplay
      | failed hb hreplay =>
        obtain ⟨hfresh, hbegun⟩ := hsnapshot hb
        apply hnow.refuse hfresh hbegun hreplay
    · have hsilent : (first.run moves).shown (Call.returned? .seed) move = none := by
        apply Option.eq_none_iff_forall_ne_some.mpr
        rintro ⟨j, result⟩ hshown
        obtain ⟨i, c, rfl, hc, hr, hreturned⟩ := exists_of_shown hshown
        obtain ⟨rfl, ht, hd⟩ := Call.returned?_eq_some hreturned
        exact hseed ⟨_, c, rfl, hc, ht⟩
      rw [hsilent, Option.toList_none, List.append_nil]
      rcases h.writers moves move List.prefix_rfl with hsame | hwriter
      · rw [hsame]
        exact hnow
      · exact absurd hwriter hseed

/-- Of a call that has not returned yet all steps went on with it. -/
theorem exists_going_before {done : List Move} (hp : done ++ [.advance i] <+: moves) {c c' : Call}
    (hc : (first.run done).call? i = some c) (hr : c.isReady (first.run done).manager = true)
    (hc' : (first.run moves).call? i = some c') :
  ∃ c'', (c.advance (first.run done).manager).2 = .going c''
  := by
  cases hg : (c.advance (first.run done).manager).2 with
  | going c'' => exact ⟨c'', rfl⟩
  | done o =>
    obtain ⟨rest, rfl⟩ := hp
    have hreturned : (first.run (done ++ [.advance i])).call? i = none := by
      rw [run_concat, step_advance hc hr]
      apply call?_settle_done hg
    have hlt : i < (first.run (done ++ [.advance i])).calls.length := by
      rw [run_concat, step_advance hc hr, length_calls_settle]
      apply lt_length_of_call? hc
    rw [run_append, call?_run_eq_none hlt hreturned rest] at hc'
    cases hc'

/-- What a call returns with a step is recorded. -/
theorem mem_returned {task : Maintenance} {done : List Move} (hp : done ++ [.advance i] <+: moves)
    {result : Except Failure Nat}
    (ho : (first.run done).outcome? i = some (.maintained result))
    (ht : ∀ c, (first.run done).call? i = some c → c.task? = some task) :
  (i, result) ∈ first.returned task moves
  := by
  obtain ⟨c, hc, hr, hd⟩ := outcome?_eq_some_iff.mp ho
  have hshown : (first.run done).shown (Call.returned? task) (.advance i) = some (i, result) := by
    rw [shown_advance _ hc hr, Call.returned?, hd]
    apply if_pos (ht c hc)
  obtain ⟨after, hsplit⟩ := record_of_prefix hp hshown
  rw [returned, hsplit]
  simp

/-- What is recorded was returned with a step. -/
theorem exists_of_mem_returned {task : Maintenance} {result : Except Failure Nat}
    (h : (i, result) ∈ first.returned task moves) :
  ∃ done, done ++ [.advance i] <+: moves
    ∧ (first.run done).outcome? i = some (.maintained result)
  := by
  obtain ⟨before, after, hsplit⟩ := List.append_of_mem h
  obtain ⟨done, move, hp, -, hmove⟩ := exists_of_record hsplit
  obtain ⟨j, c, rfl, hc, hr, hreturned⟩ := exists_of_shown hmove
  obtain ⟨rfl, -, hd⟩ := Call.returned?_eq_some hreturned
  use done, hp
  apply outcome?_eq_some_iff.mpr
  use c, hc, hr, hd

/-! ### Every missing record is inserted once -/

/-- What calls that seed do together. -/
structure SeedsOnce (first : Traffic) (moves : List Move) : Prop where
  /-- As soon as a call has returned, what was missing has been inserted, and counted once. -/
  total : first.returned .seed moves ≠ [] →
    inserted (first.returned .seed moves) = first.contents.lacking.length
  /-- Then all default records are present, with the document that was there before, if any. -/
  present : first.returned .seed moves ≠ [] →
    ∃ now, ∀ r ∈ Record.defaults now,
      (first.run moves).contents.find? r.key
        = some ((first.contents.find? r.key).getD r.document)
  /-- All other documents, and those that were there before, stay as they are all the time. -/
  kept : ∀ k, k ∉ first.contents.lacking →
    (first.run moves).contents.find? k = first.contents.find? k
  /-- A call that fails does so because of a default record that another has inserted, and leaves
  no trace but one error that is counted when it returns. -/
  failed : ∀ done i failure, done ++ [.advance i] <+: moves →
    (asked done)[i]? = some (.maintain .seed) →
    (first.run done).outcome? i = some (.maintained (.error failure)) →
    (∃ k ∈ first.contents.lacking, failure = .error (.duplicateKey k.text))
      ∧ ((first.run done).manager.recordError (Redaction.sanitize failure.message)).Resembles
          (first.run (done ++ [.advance i])).manager
      ∧ ∀ before, before ++ [.advance i] <+: done →
        (first.run before).manager.Resembles (first.run (before ++ [.advance i])).manager
  /-- A call that is made after one has returned returns 0 and changes nothing. -/
  again : ∀ before after, moves = before ++ .ask (.maintain .seed) :: after →
    first.returned .seed before ≠ [] →
    (∀ result, ((asked before).length, result) ∈ first.returned .seed moves → result = .ok 0)
      ∧ ∀ done, done ++ [.advance (asked before).length] <+: moves →
        (first.run done).manager.Resembles
          (first.run (done ++ [.advance (asked before).length])).manager
  /-- Every call returns when it has gone on often enough. -/
  returns : ∀ before after, moves = before ++ .ask (.maintain .seed) :: after →
    2 * Record.defaultKeys.length + 3 ≤ after.countP (·.advances (asked before).length) →
    ∃ result, ((asked before).length, result) ∈ first.returned .seed moves

namespace OnlySeeded

variable (hf : first.calls = [])
  (henv : Maintenance.seed.permitted.contains first.manager.settings.environment = true)
  (h : first.OnlySeeded moves)

include hf henv h

/-- A step of a call that seeds. -/
theorem seeds {done : List Move} (hd : done <+: moves)
    (hasked : (asked moves)[i]? = some (.maintain .seed)) {c : Call}
    (hc : (first.run done).call? i = some c) :
  c.isReady (first.run done).manager = true
    ∧ Call.Seeds (first.history done) i (first.run done).manager
      (c.advance (first.run done).manager)
  := by
  apply seeds_of_call? hf henv (h.connected done hd) hc
  rw [task?_of_asked hf hd hasked hc]
  rfl

/-- A step of a call that seeds leaves no trace, unless the call returns. -/
theorem resembles {done : List Move} (hd : done ++ [.advance i] <+: moves)
    (hasked : (asked moves)[i]? = some (.maintain .seed))
    (hgoing : ∀ c, (first.run done).call? i = some c →
      ∃ c', (c.advance (first.run done).manager).2 = .going c') :
  (first.run done).manager.Resembles (first.run (done ++ [.advance i])).manager
  := by
  rw [run_concat]
  cases hc : (first.run done).call? i with
  | none =>
    simp only [step, hc]
    exact ⟨_, _, rfl⟩
  | some c =>
    obtain ⟨hr, hseeds⟩ := h.seeds hf henv ((List.prefix_append _ _).trans hd) hasked hc
    obtain ⟨c', hg⟩ := hgoing c hc
    rw [step_advance hc hr, manager_settle]
    generalize c.advance (first.run done).manager = step at hseeds hg
    cases hseeds with
    | going hm ht => exact hm
    | _ => cases hg

theorem failed {done : List Move} {failure : Failure} (hd : done ++ [.advance i] <+: moves)
    (hasked : (asked done)[i]? = some (.maintain .seed))
    (ho : (first.run done).outcome? i = some (.maintained (.error failure))) :
  (∃ k ∈ first.contents.lacking, failure = .error (.duplicateKey k.text))
    ∧ ((first.run done).manager.recordError (Redaction.sanitize failure.message)).Resembles
        (first.run (done ++ [.advance i])).manager
    ∧ ∀ before, before ++ [.advance i] <+: done →
      (first.run before).manager.Resembles (first.run (before ++ [.advance i])).manager
  := by
  have hshort : done <+: moves := (List.prefix_append _ _).trans hd
  have hbefore := h.shorten hshort
  obtain ⟨c, hc, hr, hdone⟩ := outcome?_eq_some_iff.mp ho
  obtain ⟨-, hseeds⟩ := hbefore.seeds hf henv List.prefix_rfl hasked hc
  refine ⟨?_, ?_, ?_⟩
  · have hmem : (i, .error failure) ∈ first.returned .seed (done ++ [.advance i]) := by
      apply mem_returned List.prefix_rfl ho
      intro c hc
      apply task?_of_asked hf List.prefix_rfl hasked hc
    apply (stage_run hf henv h _ hd).duplicate hmem
  · rw [run_concat, step_advance hc hr, manager_settle]
    generalize c.advance (first.run done).manager = step at hseeds hdone
    cases hseeds with
    | failed hb hreplay =>
      cases hdone
      exact ⟨_, _, rfl⟩
    | _ => cases hdone
  · intro before hb
    apply hbefore.resembles hf henv hb hasked
    intro c' hc'
    obtain ⟨hr', -⟩ := hbefore.seeds hf henv ((List.prefix_append _ _).trans hb) hasked hc'
    apply exists_going_before hb hc' hr' hc

omit henv h in
/-- A call was made before it goes on. -/
theorem prefix_of_call? {before after done : List Move}
    (hmoves : moves = before ++ .ask (.maintain .seed) :: after) (hd : done <+: moves) {c : Call}
    (hc : (first.run done).call? (asked before).length = some c) :
  before <+: done
  := by
  have hbefore : before <+: moves := ⟨_, hmoves.symm⟩
  rcases List.prefix_or_prefix_of_prefix hd hbefore with ⟨rest, rfl⟩ | hlater
  · have hlt := lt_length_of_call? hc
    rw [(answers_run hf done).length, asked_append, List.length_append] at hlt
    omega
  · exact hlater

/-- The steps of a call that is made after one has returned. -/
theorem again {before after : List Move}
    (hmoves : moves = before ++ .ask (.maintain .seed) :: after)
    (hne : first.returned .seed before ≠ []) {done : List Move}
    (hd : done ++ [.advance (asked before).length] <+: moves) :
  (first.run done).manager.Resembles
      (first.run (done ++ [.advance (asked before).length])).manager
    ∧ ∀ result, (first.run done).outcome? (asked before).length = some (.maintained result) →
      result = .ok 0
  := by
  have hasked : (asked moves)[(asked before).length]? = some (.maintain .seed) := by
    rw [hmoves, asked_append, List.getElem?_append_right (Nat.le_refl _), Nat.sub_self]
    rfl
  have hshort : done <+: moves := (List.prefix_append _ _).trans hd
  -- Whoever goes on with the call finds the default records in the store.
  have hlacking : ∀ done, done <+: moves → ∀ c,
      (first.run done).call? (asked before).length = some c →
        (first.run done).contents.lacking = [] := by
    intro done hd c hc
    apply (stage_run hf henv h done hd).lacking
    intro hnone
    have hreturned := first.returned_mono .seed (prefix_of_call? hf hmoves hd hc)
    rw [hnone] at hreturned
    exact hne (List.prefix_nil.mp hreturned)
  rw [run_concat]
  cases hc : (first.run done).call? (asked before).length with
  | none =>
    simp only [step, outcome?, hc]
    exact ⟨⟨_, _, rfl⟩, fun result ho => by cases ho⟩
  | some c =>
    obtain ⟨hr, hseeds⟩ := h.seeds hf henv hshort hasked hc
    have houtcome : ∀ result,
        (first.run done).outcome? (asked before).length = some (.maintained result) →
          (c.advance (first.run done).manager).2 = .done (.maintained result) := by
      intro result ho
      obtain ⟨c', hc', -, hdone⟩ := outcome?_eq_some_iff.mp ho
      cases hc.symm.trans hc'
      exact hdone
    -- So nothing was missing when its transaction was begun.
    have hsnapshot : ∀ {snapshot}, .begun (asked before).length snapshot ∈ first.history done →
        snapshot.lacking = [] := by
      intro snapshot hb
      obtain ⟨done', c', hd', hc', rfl⟩ := exists_of_begun hb
      apply hlacking done' (((List.prefix_append _ _).trans hd').trans hshort) c' hc'
    rw [step_advance hc hr, manager_settle]
    generalize c.advance (first.run done).manager = step at hseeds houtcome
    cases hseeds with
    | going hm ht =>
      use hm
      intro result ho
      cases houtcome result ho
    | seeded hb hreplay =>
      rw [Tables.absent_of_lacking_eq_nil _ (hsnapshot hb)] at hreplay
      cases hreplay
      constructor
      · exact ⟨_, _, rfl⟩
      · intro result ho
        cases houtcome result ho
        rw [hsnapshot hb, List.length_nil]
    | failed hb hreplay =>
      rw [Tables.absent_of_lacking_eq_nil _ (hsnapshot hb)] at hreplay
      cases hreplay

end OnlySeeded

theorem length_outlook_seed (now : Instant) (tx : Transaction) :
  ((Maintenance.seed.work now).outlook tx).length ≤ 2 * Record.defaultKeys.length
  := by
  rw [← Record.map_key_defaults now, List.length_map]
  apply Maintenance.length_outlook_insertMissing

/-- Calls that seed a store which is connected insert every missing record once, in whatever way
their steps alternate and whatever else happens that does not write to the store. -/
theorem seedsOnce_of_onlySeeded (settings : Settings) (chance : Chance) (now : Nat)
    (store : MemoryStore) (moves : List Move)
    (henv : settings.environment ∈ Maintenance.seed.permitted)
    (h : (opened settings chance now store).OnlySeeded moves) :
  (opened settings chance now store).SeedsOnce moves
  := by
  have henv' : Maintenance.seed.permitted.contains
      (opened settings chance now store).manager.settings.environment = true :=
    List.contains_iff_mem.mpr henv
  have hstage := stage_run rfl henv' h moves List.prefix_rfl
  constructor
  case total => apply hstage.total
  case present => apply hstage.present
  case kept =>
    intro k hk
    apply hstage.kept hk
  case failed =>
    intro done i failure hd hasked ho
    apply h.failed rfl henv' hd hasked ho
  case again =>
    intro before after hmoves hne
    constructor
    · intro result hmem
      obtain ⟨done, hd, ho⟩ := exists_of_mem_returned hmem
      apply (h.again rfl henv' hmoves hne hd).2 result ho
    · intro done hd
      apply (h.again rfl henv' hmoves hne hd).1
  case returns =>
    rintro before after rfl hcount
    have hasked : ((opened settings chance now store).run before).calls.length
        = (asked before).length := (answers_run rfl before).length
    have hdue : (((opened settings chance now store).run before).step
        (.ask (.maintain .seed))).Due .seed (2 * Record.defaultKeys.length) (asked before).length
          (2 * Record.defaultKeys.length + 3) := by
      apply Due.asked _ (Nat.le_refl _)
      rw [call?_ask, if_pos hasked.symm]
      rfl
    obtain ⟨result, hmem⟩ := hdue.exists_returned length_outlook_seed hcount
    use result
    rw [returned, record_append]
    apply List.mem_append_right
    exact hmem

/-- Whether a move is a call that seeds or a step of a call, or leaves the contents of the store
alone anyway. -/
def Move.isSeeding : Move → Bool
  | ask (.maintain .seed) | advance _ | watch _ | elapse _ | plan _ => true
  | ask _ | meddle _ => false

theorem task?_of_isSeeding {move : Move} {r : Request} (hm : move.isSeeding = true)
    (hr : move.request? = some r) :
  r.task? = some .seed
  := by
  cases move with
  | ask r' =>
    cases hr
    cases r with
    | maintain task =>
      cases task with
      | reset => cases hm
      | seed => rfl
    | _ => cases hm
  | _ => cases hr

/-- Calls that seed write to the store, and none else where only such calls are made. -/
theorem onlySeeded_of_isSeeding (hf : first.calls = [])
    (hconn : first.manager.store.connected = true)
    (henv : Maintenance.seed.permitted.contains first.manager.settings.environment = true)
    (hm : ∀ move ∈ moves, move.isSeeding = true) :
  first.OnlySeeded moves
  := by
  induction moves using List.reverseRecOn with
  | nil =>
    constructor
    · intro done hd
      rw [List.prefix_nil.mp hd]
      exact hconn
    · intro done move hd
      simpa using List.prefix_nil.mp hd
  | append_singleton moves move ih =>
    have hbefore := ih fun move hmem => hm move (List.mem_append_left _ hmem)
    have hnow := hbefore.connected moves List.prefix_rfl
    have htask : ∀ i c, (first.run moves).call? i = some c → c.task? = some .seed := by
      intro i c hc
      have hanswers := answers_run hf moves
      have hlt := lt_length_of_call? hc
      rw [hanswers.length] at hlt
      rw [hanswers.task i c hc, List.getElem?_eq_getElem hlt, Option.bind_some]
      obtain ⟨move, hmem, hr⟩ := List.mem_filterMap.mp (List.getElem_mem hlt)
      apply task?_of_isSeeding _ hr
      apply hm move (List.mem_append_left _ hmem)
    have hstep : ((first.run moves).step move).manager.store.connected = true
        ∧ (((first.run moves).step move).contents = (first.run moves).contents
          ∨ ∃ i c, move = .advance i ∧ (first.run moves).call? i = some c
            ∧ c.task? = some .seed) := by
      have hchange := (first.run moves).step_change move
      have hmove := hm move (List.mem_append_right _ (List.mem_singleton.mpr rfl))
      generalize (first.run moves).step move = s' at hchange
      cases hchange with
      | advanced i c hc hr =>
        refine ⟨?_, .inr ⟨i, c, rfl, hc, htask i c hc⟩⟩
        obtain ⟨-, hseeds⟩ := seeds_of_call? hf henv hnow hc (htask i c hc)
        rw [manager_settle]
        generalize c.advance (first.run moves).manager = step at hseeds
        cases hseeds with
        | going hg =>
          obtain ⟨journal, transactions, rfl⟩ := hg
          exact hnow
        | _ => exact hnow
      | watched k l hl hr =>
        obtain ⟨pings, metrics, state, loops, journal, hloop⟩ :=
          (first.run moves).manager.advanceLoop_eq l
        rw [contents, hloop]
        exact ⟨hnow, .inl rfl⟩
      | meddled store => cases hmove
      | _ => exact ⟨hnow, .inl rfl⟩
    rw [← run_concat] at hstep
    constructor
    · intro done hd
      rcases List.prefix_concat_iff.mp hd with rfl | hd
      · exact hstep.1
      · apply hbefore.connected done hd
    · intro done move' hd
      rcases List.prefix_concat_iff.mp hd with hlast | hd
      · obtain ⟨rfl, hmove⟩ := List.append_inj' hlast rfl
        cases hmove
        exact hstep.2
      · apply hbefore.writers done move' hd

/-- A manager in the development environment, of a store with a document in the place of a default
record. -/
def partlySeeded : Traffic :=
  opened { environment := .development, url := "memory://localhost/projects" }
    { draw := fun _ => 0, name := fun _ => "" } 0
    { tables := .put .empty ⟨"users", "seed-user-admin"⟩ (.str "mine"), connected := true }

/-- Two callers seed a store at the same time, and one does so later. -/
def rivalry : List Move :=
  [.ask (.maintain .seed), .ask (.maintain .seed), .advance 0, .advance 1, .advance 1, .advance 0]
    ++ List.replicate 18 (.advance 1) ++ List.replicate 18 (.advance 0)
    ++ [.ask (.maintain .seed)] ++ List.replicate 12 (.advance 2)

/-- The second caller inserts the eight records that are missing, the first one fails, and the third
one finds nothing to do. -/
theorem seedsOnce_rivalry :
  (partlySeeded.OnlySeeded rivalry ∧ partlySeeded.SeedsOnce rivalry)
    ∧ partlySeeded.returned .seed rivalry
      = [(1, .ok 8), (0, .error (.error (.duplicateKey "users/seed-user-member"))), (2, .ok 0)]
  := by
  have honly : partlySeeded.OnlySeeded rivalry := by
    apply onlySeeded_of_isSeeding rfl rfl rfl
    decide
  exact ⟨⟨honly, seedsOnce_of_onlySeeded _ _ _ _ _ (by decide) honly⟩, rfl⟩

end Traffic

end Storekeeper

import Storekeeper.Proofs.Manager.Resetting
import Storekeeper.Proofs.Manager.Seeding

/-!
# What maintenance tasks do

Where a task is permitted, what it returns and what it makes of the store is settled by the contents
that it finds, as long as nobody else changes them before it returns: `Maintenance.number` and
`Maintenance.result` say what.  Its steps alternate with those of other calls in any way, and it
returns as soon as it has gone on often enough.

Where a task is not permitted its first step is its last, and all that is left of it is a line of
the log.  `Traffic.maintenance_exact` says both.
-/

namespace Storekeeper

/-! ### Cleared collections -/

namespace Tables

variable (t : Tables) (cs : List String)

theorem collection_clearAll (c : String) :
  (t.clearAll cs).collection c = if c ∈ cs then [] else t.collection c
  := by
  unfold collection clearAll keep
  rw [List.filter_filter]
  split
  · next hc =>
    apply List.filter_eq_nil_iff.mpr
    intro e he
    simp only [Bool.and_eq_true, beq_iff_eq, Bool.not_eq_true', List.contains_eq_mem,
      decide_eq_false_iff_not]
    rintro ⟨rfl, hnot⟩
    exact hnot hc
  · next hc =>
    apply List.filter_congr
    intro e he
    by_cases heq : e.1.collection = c
    · simp [heq, hc]
    · simp [heq]

theorem documents_clearAll {c : String} (h : c ∈ cs) :
  (t.clearAll cs).documents c = []
  := by
  rw [documents, collection_clearAll, if_pos h]
  rfl

theorem total_clearAll :
  (t.clearAll cs).total cs = 0
  := by
  have hcounts : cs.map (t.clearAll cs).count = cs.map fun _ => 0 := by
    apply List.map_congr_left
    intro c hc
    rw [count, collection_clearAll, if_pos hc]
    rfl
  rw [total, hcounts]
  simp

theorem clearAll_clearAll :
  (t.clearAll cs).clearAll cs = t.clearAll cs
  := by
  apply ext_find?
  intro k
  unfold clearAll
  rw [find?_keep]
  split
  · rfl
  · next hk => rw [find?_keep, if_neg hk]

/-- Where the known collections are empty, all default records are missing. -/
theorem lacking_clearAll :
  (t.clearAll Record.collections).lacking = Record.defaultKeys
  := by
  have hknown : ∀ k ∈ Record.defaultKeys, Record.collections.contains k.collection = true := by
    decide
  apply List.filter_eq_self.mpr
  intro k hk
  rw [contains_clearAll, hknown k hk]
  rfl

end Tables

/-! ### What a task comes to -/

namespace Maintenance

/-- What a task returns that finds the given contents. -/
def number (t : Tables) : Maintenance → Nat
  | reset => t.total Record.collections
  | seed => t.lacking.length

/-- What a task makes of the given contents, with records created at `now`. -/
def result (now : Instant) (t : Tables) : Maintenance → Tables
  | reset => t.clearAll Record.collections
  | seed => t.seeded now

/-- The number of operations that a task performs at most. -/
def operations : Maintenance → Nat
  | reset => Record.collections.length
  | seed => 2 * Record.defaultKeys.length

/-- The number of steps after which a call for a task returns at the latest. -/
def steps (task : Maintenance) : Nat := task.operations + 3

theorem length_outlook_clearAll (tx : Transaction) (n : Nat) (cs : List String) :
  ((clearAll n cs).outlook tx).length ≤ cs.length
  := by
  induction cs generalizing n tx with
  | nil => exact Nat.le_refl 0
  | cons c cs ih =>
    simp only [clearAll, Work.require, Work.outlook, Outlook.later, List.length_cons]
    apply Nat.succ_le_succ
    cases (tx.perform .empty (.deleteAll c)).reply with
    | error e => exact Nat.zero_le _
    | ok removed => exact ih _ _

theorem length_outlook_work (task : Maintenance) (now : Instant) (tx : Transaction) :
  ((task.work now).outlook tx).length ≤ task.operations
  := by
  cases task with
  | reset => apply length_outlook_clearAll
  | seed => exact Traffic.length_outlook_seed now tx

/-- A task returns `number` and its writes lead to `result`, if nothing changes meanwhile. -/
theorem outlook_work (task : Maintenance) (now : Instant) (name : String) (t : Tables) :
  ((task.work now).outlook (.begin name t)).result = .ok (task.number t)
    ∧ t.replay ((task.work now).outlook (.begin name t)).transaction.writes
      = .ok (task.result now t)
  := by
  cases task with
  | reset =>
    obtain ⟨hwrites, hresult⟩ :=
      outlook_clearAll (.begin name t) rfl 0 Record.nodup_collections
    rw [Nat.zero_add] at hresult
    use hresult
    apply (congrArg t.replay hwrites).trans
    exact t.replay_clearAll Record.collections
  | seed =>
    obtain ⟨hwrites, hresult⟩ := outlook_seed now name t
    use hresult
    rw [hwrites]
    exact t.replay_seeded now

end Maintenance

/-! ### A task that nobody disturbs -/

/-- What a task comes to depends on the contents with which its transaction was begun only. -/
theorem Run.Follows.of_begun {h h' : History} {i : Nat} {task : Maintenance} {run : Run Nat}
    (hf : run.Follows h i task) (hh : ∀ snapshot, .begun i snapshot ∈ h → .begun i snapshot ∈ h') :
  run.Follows h' i task
  := by
  cases hf with
  | beginning options now => exact .beginning options now
  | begun now name snapshot length hb he => exact .begun now name snapshot length (hh _ hb) he

/-- A run for a task was not begun yet, or was begun on the contents `t` and goes on as foreseen.  It
returns after at most `n` steps. -/
structure Run.Foresees (task : Maintenance) (t : Tables) (n : Nat) (run : Run Nat) : Prop where
  within : run.Within task task.operations n
  follows : run.Follows [.begun 0 t] 0 task

namespace Run.Foresees

variable {task : Maintenance} {t : Tables} {n : Nat} {run phase : Run Nat} {m : Manager}

/-- A run that goes on stays as foreseen. -/
theorem going (h : run.Foresees task t (n + 1)) (ht : m.store.tables = t)
    (hg : (run.advance m).2 = .going phase) :
  phase.Foresees task t n
  := by
  constructor
  · rcases h.within.advance task.length_outlook_work m with ⟨r, hd⟩ | ⟨phase', hg', hw⟩
    · cases hg.symm.trans hd
    · cases hg.symm.trans hg'
      exact hw
  · apply (h.follows.advance hg).of_begun
    intro snapshot hb
    rcases List.mem_append.mp hb with hb | hb
    · exact hb
    · rw [(Run.eq_of_event?_begun (Option.mem_toList.mp hb)).2, ht]
      exact List.mem_cons_self

/-- A run that returns makes of the contents what the task makes of them. -/
theorem done (h : run.Foresees task t n) (hconn : m.store.connected = true)
    (ht : m.store.tables = t) {r : RunResult Nat} (hd : (run.advance m).2 = .done r) :
  r.outcome = .ok (task.number t)
    ∧ ∃ now, (run.advance m).1.store.tables = task.result now t
  := by
  subst ht
  rcases h.follows.cases_of_done hconn hd with ⟨r', value, rfl⟩ | ⟨r', failure, rfl⟩
  · obtain ⟨now, name, snapshot, hb, hopen, htx, hvalue⟩ := h.follows.committing
    cases List.mem_singleton.mp hb
    obtain ⟨hresult, hreplay⟩ := task.outlook_work now name m.store.tables
    cases hvalue.symm.trans hresult
    rw [htx] at hreplay
    rcases Run.commit_cases m hopen (task.number m.store.tables) with
      ⟨journal, tables, htables, hcommit⟩ | ⟨journal, e, hfailed, -⟩
    · cases hreplay.symm.trans htables
      rw [Run.advance, hcommit] at hd ⊢
      cases hd
      exact ⟨rfl, now, rfl⟩
    · cases hreplay.symm.trans hfailed
  · obtain ⟨now, name, snapshot, hfailure⟩ := h.follows.aborting
    cases hfailure.symm.trans (task.outlook_work now name snapshot).1

end Run.Foresees

/-- A call is for a task that finds the contents `t`, and returns after at most `n` steps. -/
inductive Call.Foresees (task : Maintenance) (t : Tables) : Nat → Call → Prop
  | asked {n : Nat} (hn : n = task.steps) : Foresees task t n (.maintain task)
  | running {n : Nat} {phase : Run Nat} (hf : phase.Foresees task t n) :
    Foresees task t n (.maintaining task phase)

namespace Call.Foresees

variable {task : Maintenance} {t : Tables} {n : Nat} {c : Call} {m : Manager}

theorem pos (h : c.Foresees task t n) :
  0 < n
  := by
  cases h with
  | asked hn =>
    rw [hn]
    exact Nat.succ_pos _
  | running hf => exact hf.within.pos

theorem isReady (h : c.Foresees task t n) (m : Manager) :
  c.isReady m = true
  := by
  cases h with
  | asked hn => rfl
  | running hf => exact hf.within.isReady m.now

/-- A call that goes on leaves the contents alone and will return one step sooner, or it returns and
makes of the contents what its task makes of them. -/
theorem advance (h : c.Foresees task t (n + 1))
    (hpermitted : task.permitted.contains m.settings.environment = true)
    (hconn : m.store.connected = true) (ht : m.store.tables = t) :
  (∃ c', (c.advance m).2 = .going c' ∧ c'.Foresees task t n ∧ (c.advance m).1.store.tables = t)
    ∨ (c.advance m).2 = .done (.maintained (.ok (task.number t)))
      ∧ ∃ now, (c.advance m).1.store.tables = task.result now t
  := by
  have hfinish : ∀ m (r : RunResult Nat),
      (Call.maintenanceResult task m r).1.store = m.store :=
    fun m r => task.store_finish m r.outcome
  cases h with
  | asked hn =>
    left
    have hstart : (task.start m).2
        = .going (.beginning m.settings.transactionDefaults (task.work m.instant)) := by
      simp only [Maintenance.start, hpermitted, if_true]
      cases task with
      | reset => rfl
      | seed => rfl
    refine ⟨_, Call.snd_lift_going hstart, .running ⟨?_, .beginning _ _⟩, ?_⟩
    · rw [Nat.succ.inj hn]
      exact .beginning _ _ (Nat.le_refl _)
    · rw [Call.advance, Call.store_lift _ _ hfinish, task.store_start, ht]
  | @running phase hf =>
    rw [Call.advance, Call.store_lift _ _ hfinish]
    cases hp : (phase.advance m).2 with
    | going phase' =>
      left
      obtain ⟨journal, transactions, hm⟩ := hf.follows.resembles hconn hp
      refine ⟨_, Call.snd_lift_going hp, .running (hf.going ht hp), ?_⟩
      rw [hm, ← ht]
    | done r =>
      right
      obtain ⟨houtcome, hresult⟩ := hf.done hconn ht hp
      refine ⟨?_, hresult⟩
      rw [Call.snd_lift_done hp, Call.maintenanceResult, houtcome]

end Call.Foresees

namespace Traffic

variable {s : Traffic} {task : Maintenance} {t : Tables} {i n : Nat} {moves : List Move}

/-- What the call with the given number returned during a run. -/
def outcomes (s : Traffic) (i : Nat) (moves : List Move) : List Outcome :=
  s.record (fun s move => if move.advances i then s.outcome? i else none) moves

@[simp]
theorem advances_self (i : Nat) :
  Move.advances i (.advance i) = true
  := beq_self_eq_true i

theorem outcomes_advance (s : Traffic) (i : Nat) (moves : List Move) :
  s.outcomes i (.advance i :: moves)
    = (s.outcome? i).toList ++ (s.step (.advance i)).outcomes i moves
  := by
  rw [outcomes, record, advances_self, if_pos rfl]
  rfl

theorem outcomes_beside (s : Traffic) {move : Move} (hm : move.advances i = false)
    (moves : List Move) :
  s.outcomes i (move :: moves) = (s.step move).outcomes i moves
  := by
  rw [outcomes, record, hm]
  rfl

/-- Nobody but the call with the given number changes the contents of the store, which is connected
whenever the call goes on. -/
inductive Undisturbed (i : Nat) : Traffic → List Move → Prop
  | nil (s : Traffic) : Undisturbed i s []
  | advance {s : Traffic} {moves : List Move} (hconn : s.manager.store.connected = true)
      (h : Undisturbed i (s.step (.advance i)) moves) : Undisturbed i s (.advance i :: moves)
  | beside {s : Traffic} {move : Move} {moves : List Move} (hm : move.advances i = false)
      (hsame : (s.step move).contents = s.contents) (h : Undisturbed i (s.step move) moves) :
    Undisturbed i s (move :: moves)

/-- The call with the given number is for a task that is permitted and finds the contents `t`.  It
returns after at most `n` steps. -/
structure Pending (s : Traffic) (task : Maintenance) (t : Tables) (i n : Nat) : Prop where
  contents : s.contents = t
  permitted : task.permitted.contains s.manager.settings.environment = true
  call : ∃ c, s.call? i = some c ∧ c.Foresees task t n

theorem Pending.asked (s : Traffic)
    (hpermitted : task.permitted.contains s.manager.settings.environment = true) :
  (s.step (.ask (.maintain task))).Pending task s.contents s.calls.length task.steps
  := by
  refine ⟨rfl, hpermitted, .maintain task, ?_, .asked rfl⟩
  rw [call?_ask, if_pos rfl]
  rfl

/-- A call stays as it is while others go on. -/
theorem Pending.beside (h : s.Pending task t i n) {move : Move} (hm : move.advances i = false)
    (hsame : (s.step move).contents = s.contents) :
  (s.step move).Pending task t i n
  := by
  obtain ⟨c, hc, hf⟩ := h.call
  refine ⟨?_, ?_, c, call?_step hm hc, hf⟩
  · rw [hsame, h.contents]
  · rw [(s.step_change move).settings]
    exact h.permitted

/-- The step of a call for a task goes on with it, or the call returns. -/
theorem Pending.advance (h : s.Pending task t i (n + 1))
    (hconn : s.manager.store.connected = true) :
  (s.outcome? i = none ∧ (s.step (.advance i)).Pending task t i n)
    ∨ s.outcome? i = some (.maintained (.ok (task.number t)))
      ∧ (s.step (.advance i)).call? i = none
      ∧ ∃ now, (s.step (.advance i)).contents = task.result now t
  := by
  obtain ⟨c, hc, hf⟩ := h.call
  have hr := hf.isReady s.manager
  have hsettings := (s.step_change (.advance i)).settings
  rw [step_advance hc hr] at hsettings ⊢
  rcases hf.advance h.permitted hconn h.contents with ⟨c', hg, hf', ht⟩ | ⟨hd, hresult⟩
  · left
    constructor
    · simp only [outcome?, hc, hr, hg, if_true]
    · refine ⟨?_, ?_, c', call?_settle_going (lt_length_of_call? hc) hg, hf'⟩
      · rw [contents_settle, ht]
      · rw [hsettings]
        exact h.permitted
  · right
    refine ⟨outcome?_eq_some_iff.mpr ⟨c, hc, hr, hd⟩, call?_settle_done hd, ?_⟩
    rw [contents_settle]
    exact hresult

/-- A call that returned returns nothing more, and the contents stay as they are. -/
theorem Undisturbed.after (h : Undisturbed i s moves) (hc : ∀ done, (s.run done).call? i = none) :
  s.outcomes i moves = [] ∧ (s.run moves).contents = s.contents
  := by
  induction h with
  | nil s => exact ⟨rfl, rfl⟩
  | @advance s moves hconn h ih =>
    have hnone : s.call? i = none := hc []
    have hstep : s.step (.advance i) = s := by
      simp only [step, hnone]
    have houtcome : s.outcome? i = none := by
      simp only [outcome?, hnone]
    rw [hstep] at ih
    rw [outcomes_advance, run_cons, hstep, houtcome]
    exact ih hc
  | @beside s move moves hm hsame h ih =>
    obtain ⟨ho, hcontents⟩ := ih fun done => hc (move :: done)
    rw [outcomes_beside s hm, run_cons, hcontents, hsame]
    exact ⟨ho, rfl⟩

/-- A call for a task that nobody disturbs returns when it has gone on often enough. -/
theorem Pending.run (h : s.Pending task t i n) (hu : Undisturbed i s moves)
    (hn : n ≤ moves.countP (·.advances i)) :
  s.outcomes i moves = [.maintained (.ok (task.number t))]
    ∧ ∃ now, (s.run moves).contents = task.result now t
  := by
  induction hu generalizing n with
  | nil s =>
    obtain ⟨c, -, hf⟩ := h.call
    have hpos := hf.pos
    rw [List.countP_nil] at hn
    omega
  | @advance s moves hconn hu ih =>
    obtain ⟨c, hc, hf⟩ := h.call
    obtain ⟨n, rfl⟩ := Nat.exists_eq_add_one_of_ne_zero (Nat.ne_zero_of_lt hf.pos)
    rw [List.countP_cons, advances_self, if_pos rfl] at hn
    rw [outcomes_advance, run_cons]
    rcases h.advance hconn with ⟨ho, h'⟩ | ⟨ho, hc', now, hcontents⟩
    · rw [ho]
      exact ih h' (Nat.le_of_succ_le_succ hn)
    · have hlt : i < (s.step (.advance i)).calls.length := by
        rw [step_advance hc (hf.isReady _), length_calls_settle]
        exact lt_length_of_call? hc
      obtain ⟨hnothing, hsame⟩ := hu.after fun done => call?_run_eq_none hlt hc' done
      rw [ho, hnothing, hsame]
      exact ⟨rfl, now, hcontents⟩
  | @beside s move moves hm hsame hu ih =>
    rw [List.countP_cons, hm] at hn
    rw [outcomes_beside s hm, run_cons]
    exact ih (h.beside hm hsame) hn

/-- A call for a task that is made now returns `n` when it has gone on often enough, unless it is
disturbed, and what has come of it then is as `P` says. -/
def Yields (s : Traffic) (task : Maintenance) (n : Nat) (P : Traffic → Prop) : Prop :=
  ∀ moves, Undisturbed s.calls.length (s.step (.ask (.maintain task))) moves →
    task.steps ≤ moves.countP (·.advances s.calls.length) →
      (s.step (.ask (.maintain task))).outcomes s.calls.length moves = [.maintained (.ok n)]
        ∧ P ((s.step (.ask (.maintain task))).run moves)

/-- A task that is permitted returns what the contents say, and makes of them what it is to make. -/
theorem yields_of_permitted {P : Traffic → Prop}
    (hpermitted : task.permitted.contains s.manager.settings.environment = true)
    (h : ∀ u : Traffic, u.manager.settings = s.manager.settings →
      (∃ now, u.contents = task.result now s.contents) → P u) :
  s.Yields task (task.number s.contents) P
  := by
  intro moves hu hn
  obtain ⟨hreturned, hresult⟩ := (Pending.asked s hpermitted).run hu hn
  use hreturned
  apply h _ _ hresult
  exact settings_run (s.step (.ask (.maintain task))) moves

end Traffic

/-! ### Tasks that are not permitted -/

/-- The line of the log by which a task is refused. -/
def Maintenance.refusal (task : Maintenance) (environment : Environment) : LogLine :=
  ⟨.warning, "Refusing maintenance operation",
    [("operation", .str task.name), ("environment", .str environment.name)]⟩

theorem Hook.events_write (hook : Hook) (m : Manager) (line : LogLine) :
  hook.events (m.write line).journal = hook.events m.journal
  := rfl

namespace Traffic

variable {s : Traffic} {task : Maintenance}

/-- A call for a task that is made now returns that it is forbidden as soon as it goes on, whatever
has happened by then.  It leaves a line of the log, while the contents of the store, its counters,
the events, the state of the connection, the health report and all else stay as they are. -/
def Refuses (s : Traffic) (task : Maintenance) : Prop :=
  ∀ moves, moves.countP (·.advances s.calls.length) = 0 →
    let u := (s.step (.ask (.maintain task))).run moves
    u.outcome? s.calls.length
        = some (.maintained (.error (.error
            (.maintenanceForbidden task.name s.manager.settings.environment))))
      ∧ (u.step (.advance s.calls.length)).manager
        = u.manager.write (task.refusal s.manager.settings.environment)
      ∧ ∀ hook : Hook, hook.events (u.step (.advance s.calls.length)).manager.journal
        = hook.events u.manager.journal

/-- A call stays as it is as long as it does not go on. -/
theorem call?_run_beside {i : Nat} {c : Call} (hc : s.call? i = some c) {moves : List Move}
    (hn : moves.countP (·.advances i) = 0) :
  (s.run moves).call? i = some c
  := by
  induction moves generalizing s with
  | nil => exact hc
  | cons move moves ih =>
    rw [List.countP_eq_zero, List.forall_mem_cons, ← List.countP_eq_zero] at hn
    exact ih (call?_step (by simpa using hn.1) hc) hn.2

theorem refuses_of_not_permitted
    (h : task.permitted.contains s.manager.settings.environment = false) :
  s.Refuses task
  := by
  intro moves hn u
  have hc : u.call? s.calls.length = some (.maintain task) := by
    apply call?_run_beside _ hn
    rw [call?_ask, if_pos rfl]
    rfl
  have hsettings : u.manager.settings = s.manager.settings :=
    settings_run (s.step (.ask (.maintain task))) moves
  have hadvance : (Call.maintain task).advance u.manager
      = (u.manager.write (task.refusal s.manager.settings.environment),
          .done (.maintained (.error (.error
            (.maintenanceForbidden task.name s.manager.settings.environment))))) := by
    rw [← hsettings] at h ⊢
    simp only [Call.advance, Maintenance.start, h, Bool.false_eq_true, if_false]
    rfl
  have hmanager : (u.step (.advance s.calls.length)).manager
      = u.manager.write (task.refusal s.manager.settings.environment) := by
    rw [step_advance hc rfl, manager_settle, hadvance]
  refine ⟨?_, hmanager, ?_⟩
  · apply outcome?_eq_some_iff.mpr
    use .maintain task, hc, rfl
    rw [hadvance]
  · intro hook
    rw [hmanager, Hook.events_write]

/-- A call that seeds inserts all default records. -/
def SeedsAll (s : Traffic) : Prop :=
  ∀ now, s.Yields .seed (Record.defaults now).length fun u =>
    ∃ now', u.contents = s.contents.seeded now'

theorem seedsAll_of_lacking (henv : s.manager.settings.environment = .test)
    (h : s.contents.lacking = Record.defaultKeys) :
  s.SeedsAll
  := by
  intro now
  have hnumber : (Record.defaults now).length = Maintenance.seed.number s.contents := by
    rw [Maintenance.number, h, ← Record.map_key_defaults now, List.length_map]
  rw [hnumber]
  apply yields_of_permitted
  · rw [henv]
    rfl
  · intro u hsettings hresult
    exact hresult

/-- A reset in the test environment returns the number of documents that it clears. -/
theorem yields_reset {P : Traffic → Prop} (henv : s.manager.settings.environment = .test)
    (h : ∀ u : Traffic, u.manager.settings.environment = .test →
      u.contents = s.contents.clearAll Record.collections → P u) :
  s.Yields .reset (s.contents.total Record.collections) P
  := by
  have hpermitted : Maintenance.reset.permitted.contains s.manager.settings.environment = true := by
    rw [henv]
    rfl
  apply yields_of_permitted hpermitted
  rintro u hsettings ⟨now, hcontents⟩
  apply h u _ hcontents
  rw [hsettings, henv]

/-- In the test environment a reset returns the number of documents in the known collections, leaves
these empty and all others as they are; a second one returns 0, and a call that seeds then inserts
all default records.  In any other environment a reset is refused and leaves everything as it was,
and so does seeding in staging and production. -/
theorem maintenance_exact (s : Traffic) :
  (s.manager.settings.environment = .test →
    s.Yields .reset (s.contents.total Record.collections) fun u =>
      (∀ c ∈ Record.collections, u.contents.documents c = [])
        ∧ (∀ c, c ∉ Record.collections → u.contents.collection c = s.contents.collection c)
        ∧ u.SeedsAll
        ∧ u.Yields .reset 0 fun u' => u'.contents = u.contents ∧ u'.SeedsAll)
    ∧ (s.manager.settings.environment ≠ .test → s.Refuses .reset)
    ∧ (s.manager.settings.environment = .staging ∨ s.manager.settings.environment = .production →
      s.Refuses .seed)
  := by
  refine ⟨?_, ?_, ?_⟩
  · intro henv
    apply yields_reset henv
    intro u henv' hcleared
    have hlacking : u.contents.lacking = Record.defaultKeys := by
      rw [hcleared]
      exact s.contents.lacking_clearAll
    refine ⟨?_, ?_, seedsAll_of_lacking henv' hlacking, ?_⟩
    · intro c hc
      rw [hcleared]
      exact s.contents.documents_clearAll _ hc
    · intro c hc
      rw [hcleared, Tables.collection_clearAll, if_neg hc]
    · have hnone : u.contents.total Record.collections = 0 := by
        rw [hcleared]
        exact s.contents.total_clearAll _
      rw [← hnone]
      apply yields_reset henv'
      intro u' henv'' hcleared'
      have hsame : u'.contents = u.contents := by
        rw [hcleared', hcleared]
        exact s.contents.clearAll_clearAll _
      use hsame
      apply seedsAll_of_lacking henv''
      rw [hsame, hlacking]
  · intro henv
    apply refuses_of_not_permitted
    cases he : s.manager.settings.environment with
    | test => exact absurd he henv
    | _ => rfl
  · intro henv
    apply refuses_of_not_permitted
    rcases henv with henv | henv
    · rw [henv]
      rfl
    · rw [henv]
      rfl

/-- The steps of a reset, among which somebody else asks for the status and time passes. -/
def resetting : List Move :=
  [.advance 0, .ask .askStatus, .advance 0, .advance 1, .elapse 5, .advance 0, .advance 0,
    .advance 0, .advance 0, .advance 0]

theorem maintenance_exact_occupied :
  (occupied.manager.settings.environment = .test
      ∧ Undisturbed 0 (occupied.step (.ask (.maintain .reset))) resetting)
    ∧ (occupied.step (.ask (.maintain .reset))).outcomes 0 resetting = [.maintained (.ok 1)]
    ∧ ((occupied.step (.ask (.maintain .reset))).run resetting).contents.documents "users" = []
    ∧ (opened { environment := .production, url := "memory://localhost/projects" }
        { draw := fun _ => 0, name := fun _ => "" } 0 {}).Refuses .reset
  := by
  have hundisturbed : Undisturbed 0 (occupied.step (.ask (.maintain .reset))) resetting := by
    apply Undisturbed.advance rfl
    apply Undisturbed.beside rfl rfl
    apply Undisturbed.advance rfl
    apply Undisturbed.beside rfl rfl
    apply Undisturbed.beside rfl rfl
    apply Undisturbed.advance rfl
    apply Undisturbed.advance rfl
    apply Undisturbed.advance rfl
    apply Undisturbed.advance rfl
    apply Undisturbed.advance rfl
    apply Undisturbed.nil
  obtain ⟨hreturned, hempty, -⟩ :=
    (maintenance_exact occupied).1 rfl resetting hundisturbed (by decide)
  refine ⟨⟨rfl, hundisturbed⟩, hreturned, hempty "users" (by decide), ?_⟩
  apply (maintenance_exact _).2.1
  decide

end Traffic

end Storekeeper

import Storekeeper.Proofs.Manager.Clock
import Storekeeper.Proofs.Manager.Tasks
import Storekeeper.Proofs.Store.SerialReplay

/-!
# What a run comes to

A unit of work that leaves it to its run to finish the transaction looks at the view of the
transaction only.  What it comes to, how long it sleeps until then and what it writes are therefore
settled when the transaction is begun, and with the time limit the verdict of the run is too.  Only
the commit looks at the contents of the store again.

Every run ends as foretold, whatever others do meanwhile: `Run.Exits` says how each of its steps
shows in the contents of the store and in the health report.
-/

namespace Storekeeper

/-! ### Units of work that leave their transaction open -/

namespace Work

variable {α : Type}

/-- Whether a unit of work leaves it to others to finish its transaction. -/
def LeavesOpen : Work α → Prop
  | finish _ => True
  | perform op next => op.isClosing = false ∧ ∀ reply, (next reply).LeavesOpen
  | sleep _ next | log _ next | report _ next => next.LeavesOpen

/-- How long a unit of work sleeps in the transaction `tx`, all in all. -/
def duration (tx : Transaction) : Work α → Nat
  | finish _ => 0
  | perform op next =>
    duration (tx.perform .empty op).transaction (next (tx.perform .empty op).reply)
  | sleep time next => time + duration tx next
  | log _ next | report _ next => duration tx next

/-- How often a unit of work performs an operation or sleeps in the transaction `tx`. -/
def steps (tx : Transaction) : Work α → Nat
  | finish _ => 0
  | perform op next =>
    steps (tx.perform .empty op).transaction (next (tx.perform .empty op).reply) + 1
  | sleep _ next => steps tx next + 1
  | log _ next | report _ next => steps tx next

/-- What a unit of work writes in the transaction `tx`. -/
def staged (tx : Transaction) (work : Work α) : List Write := (work.outlook tx).transaction.writes

/-- What comes of a unit of work that starts at a time and has to end by a deadline. -/
def verdict (limit start deadline : Nat) (tx : Transaction) (work : Work α) : Except Failure α :=
  if start + work.duration tx ≤ deadline then (work.outlook tx).result
  else .error (.error (.transactionTimeout limit))

theorem verdict_sleep (limit start deadline : Nat) (tx : Transaction) (time : Nat)
    (next : Work α) :
  (sleep time next).verdict limit start deadline tx
    = next.verdict limit (start + time) deadline tx
  := by
  have hend : start + (sleep time next).duration tx = start + time + next.duration tx :=
    (Nat.add_assoc _ _ _).symm
  unfold verdict
  rw [hend]
  rfl

end Work

/-! ### Steps of a run -/

namespace Run

variable {α : Type}

/-- A run is going to come to the given result with the given writes, after so many steps at
most. -/
inductive Awaits (now : Nat) (result : Except Failure α) (writes : List Write) :
    Nat → Run α → Prop where
  | performing {r : Running} {op : Transaction.Operation} {next : Except Error op.Reply → Work α}
      {n : Nat} (h : (Work.perform op next).LeavesOpen) (hopen : r.transaction.finished = false)
      (hnow : now ≤ r.deadline)
      (hr : (Work.perform op next).verdict r.options.timeout now r.deadline r.transaction = result)
      (hw : (Work.perform op next).staged r.transaction = writes)
      (hn : (Work.perform op next).steps r.transaction < n) :
    Awaits now result writes n (performing r op next)
  | sleeping {r : Running} {due : Nat} {next : Work α} {n : Nat} (h : next.LeavesOpen)
      (hopen : r.transaction.finished = false) (hnow : now ≤ due) (hnow' : now ≤ r.deadline)
      (hr : next.verdict r.options.timeout due r.deadline r.transaction = result)
      (hw : next.staged r.transaction = writes) (hn : next.steps r.transaction + 1 < n) :
    Awaits now result writes n (sleeping r due next)
  | committing {r : Running} {value : α} {n : Nat} (hopen : r.transaction.finished = false)
      (hr : .ok value = result) (hw : r.transaction.writes = writes) (hn : 0 < n) :
    Awaits now result writes n (committing r value)
  | aborting {r : Running} {failure : Failure} {n : Nat} (hr : .error failure = result)
      (hn : 0 < n) :
    Awaits now result writes n (aborting r failure)

/-- A unit of work goes on to its next operation, or to where it sleeps or ends. -/
theorem awaits_proceed (m : Manager) (r : Running) {work : Work α} (h : work.LeavesOpen)
    (hopen : r.transaction.finished = false) (hnow : m.now ≤ r.deadline) {n : Nat}
    (hn : work.steps r.transaction < n) :
  ∃ phase journal, proceed m r work = ({ m with journal := journal }, .going phase)
    ∧ phase.Awaits m.now (work.verdict r.options.timeout m.now r.deadline r.transaction)
      (work.staged r.transaction) n
  := by
  induction work generalizing m r n with
  | finish result =>
    have hn : 0 < n := hn
    have hverdict : (Work.finish result).verdict r.options.timeout m.now r.deadline r.transaction
        = result := if_pos hnow
    rw [hverdict]
    cases result with
    | ok value => exact ⟨_, m.journal, rfl, .committing hopen rfl rfl hn⟩
    | error failure => exact ⟨_, m.journal, rfl, .aborting rfl hn⟩
  | perform op next ih => exact ⟨_, m.journal, rfl, .performing h hopen hnow rfl rfl hn⟩
  | sleep time next ih =>
    refine ⟨_, m.journal, rfl, .sleeping h hopen (Nat.le_add_right _ _) hnow ?_ rfl hn⟩
    exact (next.verdict_sleep _ _ _ _ _).symm
  | log line next ih => exact ih (m.write line) r h hopen hnow hn
  | report report next ih =>
    exact ih m { r with reports := r.reports ++ [report] } h hopen hnow hn

/-- The transaction of a run is begun on the contents of the store. -/
theorem awaits_start (m : Manager) (hc : m.store.connected = true) (options : Transaction.Options)
    {work : Work α} (h : work.LeavesOpen) {tx : Transaction}
    (htx : tx = .begin (m.chance.name m.store.transactions) m.store.tables) :
  ∃ phase journal transactions,
    (beginning options work).advance m
      = ({ m with
            store := { m.store with transactions := transactions }, journal := journal },
          .going phase)
    ∧ phase.Awaits m.now
      (work.verdict options.timeout m.now (m.now + options.timeout) tx) (work.staged tx)
      (work.steps tx + 1)
  := by
  subst htx
  have hstart : ∃ journal transactions, (beginning options work).advance m
      = proceed
          { m with store := { m.store with transactions := transactions }, journal := journal }
          { options := options, started := m.now, deadline := m.now + options.timeout
            transaction := .begin (m.chance.name m.store.transactions) m.store.tables }
          work := by
    simp only [advance, start, Manager.begin, MemoryStore.begin, hc, if_true]
    exact ⟨_, _, rfl⟩
  obtain ⟨journal, transactions, hstart⟩ := hstart
  obtain ⟨phase, journal', hp, he⟩ := awaits_proceed
    { m with store := { m.store with transactions := transactions }, journal := journal }
    { options := options, started := m.now, deadline := m.now + options.timeout
      transaction := .begin (m.chance.name m.store.transactions) m.store.tables }
    h rfl (Nat.le_add_right _ _) (Nat.lt_succ_self _)
  exact ⟨phase, journal', transactions, hstart.trans hp, he⟩

/-- A run that cannot begin its transaction counts one error. -/
theorem start_of_not_connected (m : Manager) (hc : m.store.connected = false)
    (options : Transaction.Options) (work : Work α) :
  ∃ journal transactions,
    (beginning options work).advance m
      = ({ m.recordError (Redaction.sanitize Error.notConnected.message) with
            store := { m.store with transactions := transactions }, journal := journal },
          .done { outcome := .error (.error .notConnected) })
  := by
  simp only [advance, start, Manager.begin, MemoryStore.begin, hc, if_false, Bool.false_eq_true]
  exact ⟨_, _, rfl⟩

/-- A rollback leaves the contents of the store alone and counts one error. -/
theorem abort_eq (m : Manager) (r : Running) (failure : Failure) :
  ∃ journal,
    (abort m r failure : Step α)
      = ({ m.recordError (Redaction.sanitize failure.message) with journal := journal },
          .done ⟨r.reports, .error failure⟩)
  := by
  have htables : (r.transaction.perform m.store.tables .rollback).tables = m.store.tables := by
    apply Transaction.tables_perform
    simp
  have hm : ∃ journal,
      (m.perform r.transaction .rollback).2.2 = { m with journal := journal } := by
    simp only [Manager.perform, htables]
    split
    · exact ⟨m.journal, rfl⟩
    · exact ⟨_, rfl⟩
  obtain ⟨journal, hm⟩ := hm
  unfold abort
  split
  · next hp =>
    rw [hp] at hm
    subst hm
    exact ⟨_, rfl⟩
  · next hp =>
    rw [hp] at hm
    subst hm
    exact ⟨_, rfl⟩

namespace Awaits

variable {m : Manager} {run : Run α} {result : Except Failure α} {writes : List Write} {n : Nat}

/-- What comes of a step of a run that is going to come to a result: it goes on, and nothing but the
journal changes, or it ends, and it makes its writes or counts one error. -/
theorem advance (h : run.Awaits m.now result writes n) (hr : run.isReady m.now = true) :
  (∃ phase journal k, run.advance m = ({ m with journal := journal }, .going phase) ∧ k < n
      ∧ phase.Awaits m.now result writes k)
    ∨ (∃ value tables journal reports, result = .ok value
      ∧ m.store.tables.replay writes = .ok tables
      ∧ run.advance m
        = ({ m with store := { m.store with tables := tables }, journal := journal },
            .done ⟨reports, .ok value⟩))
    ∨ ∃ failure journal reports,
      (result = .error failure
        ∨ ∃ value e, result = .ok value ∧ m.store.tables.replay writes = .error e
          ∧ failure = .error e)
      ∧ run.advance m
        = ({ m.recordError (Redaction.sanitize failure.message) with journal := journal },
            .done ⟨reports, .error failure⟩)
  := by
  cases h with
  | @performing r op next n hopen' hopen hnow hresult hw hn =>
    left
    obtain ⟨hop, hnext⟩ := hopen'
    obtain ⟨journal, hm⟩ := m.perform_of_not_closing r.transaction hop
    have hopen : (r.transaction.perform .empty op).transaction.finished = false := by
      rw [r.transaction.finished_perform _ hop, hopen]
    obtain ⟨phase, journal', hp, he⟩ := awaits_proceed { m with journal := journal }
      { r with transaction := (r.transaction.perform .empty op).transaction }
      (hnext (r.transaction.perform .empty op).reply) hopen hnow (Nat.lt_succ_self _)
    refine ⟨phase, journal', _, ?_, hn, ?_⟩
    · rw [Run.advance, hm, ← hp]
    · subst hresult hw
      exact he
  | @sleeping r due next n hnext hopen hnow hnow' hresult hw hn =>
    left
    by_cases hdue : due ≤ m.now
    · -- It wakes up at the time it wanted to.
      obtain rfl : m.now = due := Nat.le_antisymm hnow hdue
      obtain ⟨phase, journal, hp, he⟩ := awaits_proceed m r hnext hopen hnow' (Nat.lt_succ_self _)
      refine ⟨phase, journal, _, ?_, hn, ?_⟩
      · rw [Run.advance, if_pos hdue, hp]
      · subst hresult hw
        exact he
    · -- Its time is over before.
      have hover : r.deadline ≤ m.now := by
        simpa [Run.isReady, hdue] using hr
      have hlate : ¬ due + next.duration r.transaction ≤ r.deadline := by omega
      refine ⟨_, m.journal, 1, by rw [Run.advance, if_neg hdue], by omega, ?_⟩
      apply Awaits.aborting _ Nat.zero_lt_one
      rw [← hresult, Work.verdict, if_neg hlate]
  | @committing r value n hopen hresult hw hn =>
    right
    subst hresult hw
    rcases commit_cases m hopen value with
      ⟨journal, tables, hreplay, hc⟩ | ⟨journal, e, hreplay, hc⟩
    · exact .inl ⟨value, tables, journal, r.reports, rfl, hreplay, hc⟩
    · exact .inr ⟨.error e, journal, r.reports, .inr ⟨value, e, rfl, hreplay, rfl⟩, hc⟩
  | @aborting r failure n hresult hn =>
    right
    right
    obtain ⟨journal, ha⟩ := abort_eq m r failure
    exact ⟨failure, journal, r.reports, .inl hresult.symm, ha⟩

/-- The steps that are left are at least the one with which the run ends. -/
theorem pos {now : Nat} (h : run.Awaits now result writes n) :
  0 < n
  := by
  cases h with
  | performing _ _ _ _ _ hn => omega
  | sleeping _ _ _ _ _ _ hn => omega
  | committing _ _ _ hn => exact hn
  | aborting _ hn => exact hn

/-- A run that has to wait lets the clock go on until then. -/
theorem later {now now' : Nat} (h : run.Awaits now result writes n)
    (hr : run.isReady now = false) (hnow : ∀ due, run.alarm = some due → now' ≤ due) :
  run.Awaits now' result writes n
  := by
  cases h with
  | @sleeping r due next n hnext hopen _ _ hresult hw hn =>
    have hmin := hnow _ rfl
    exact .sleeping hnext hopen (by omega) (by omega) hresult hw hn
  | _ => cases hr

end Awaits

end Run

/-! ### Runs among other calls -/

namespace Turn

/-- A step that neither the contents of the store nor the health report shows. -/
def LeavesAlone (t : Turn) : Prop :=
  t.after.store.tables = t.before.store.tables ∧ t.after.metrics = t.before.metrics

/-- A step that returns a value and leaves the given contents in the store. -/
def Succeeds (t : Turn) (value : Nat) (tables : Tables) : Prop :=
  (∃ reports, t.result? = some (.ran ⟨reports, .ok value⟩)) ∧ t.after.store.tables = tables
    ∧ t.after.metrics = t.before.metrics

/-- A step that returns a failure, leaves the contents of the store as they are and counts one
error. -/
def Fails (t : Turn) (failure : Failure) : Prop :=
  (∃ reports, t.result? = some (.ran ⟨reports, .error failure⟩))
    ∧ t.after.store.tables = t.before.store.tables
    ∧ t.after.metrics
      = { t.before.metrics with
          errorCount := t.before.metrics.errorCount + 1
          lastError := some (Redaction.sanitize failure.message)
          lastErrorAt := some t.before.instant }

/-- The last step of a run whose unit of work came to a result in time or not: it commits the
writes, and returns the value, where none of them collides with the contents of the store. -/
def Concludes (t : Turn) (writes : List Write) : Except Failure Nat → Prop
  | .error failure => t.Fails failure
  | .ok value =>
    (∃ tables, t.before.store.tables.replay writes = .ok tables ∧ t.Succeeds value tables)
      ∨ ∃ key, t.before.store.tables.Collides writes key
        ∧ t.Fails (.error (.duplicateKey key.text))

/-- The transaction that a run begins with its first step. -/
def transaction (first : Turn) : Transaction :=
  .begin (first.before.chance.name first.before.store.transactions) first.before.store.tables

section

variable {m m' : Manager} {phase phase' : Run Nat} {reports : List Report}

/-- A step with which a run goes on. -/
theorem leavesAlone_run (h : phase.advance m = (m', .going phase'))
    (ht : m'.store.tables = m.store.tables) (hm : m'.metrics = m.metrics) :
  (⟨m, .run phase⟩ : Turn).result? = none ∧ (⟨m, .run phase⟩ : Turn).LeavesAlone
  := by
  simp only [LeavesAlone, result?, after, Call.advance, h, Call.lift]
  exact ⟨trivial, ht, hm⟩

/-- A step with which a run ends well. -/
theorem succeeds_run {value : Nat} (h : phase.advance m = (m', .done ⟨reports, .ok value⟩))
    (hm : m'.metrics = m.metrics) :
  (⟨m, .run phase⟩ : Turn).Succeeds value m'.store.tables
  := by
  simp only [Succeeds, result?, after, Call.advance, h, Call.lift]
  exact ⟨⟨reports, rfl⟩, trivial, hm⟩

/-- A step with which a run fails. -/
theorem fails_run {failure : Failure} (h : phase.advance m = (m', .done ⟨reports, .error failure⟩))
    (ht : m'.store.tables = m.store.tables)
    (hm : m'.metrics = (m.recordError (Redaction.sanitize failure.message)).metrics) :
  (⟨m, .run phase⟩ : Turn).Fails failure
  := by
  simp only [Fails, result?, after, Call.advance, h, Call.lift]
  exact ⟨⟨reports, rfl⟩, ht, hm⟩

/-- A run that ends comes to its result. -/
theorem concludes_run {result : Except Failure Nat} {writes : List Write} {n : Nat}
    (h : phase.Awaits m.now result writes n) (hr : phase.isReady m.now = true)
    (hd : (⟨m, .run phase⟩ : Turn).result?.isSome = true) :
  (⟨m, .run phase⟩ : Turn).Concludes writes result
  := by
  rcases h.advance hr with ⟨phase', journal, k, he, -⟩
    | ⟨value, tables, journal, reports, rfl, hreplay, he⟩
    | ⟨failure, journal, reports, rfl | ⟨value, e, rfl, hreplay, rfl⟩, he⟩
  · rw [(leavesAlone_run he rfl rfl).1] at hd
    cases hd
  · left
    exact ⟨tables, hreplay, succeeds_run he rfl⟩
  · exact fails_run he rfl rfl
  · right
    obtain ⟨key, hcollides, rfl⟩ := (m.store.tables.replay_eq_error_iff writes e).mp hreplay
    exact ⟨key, hcollides, fails_run he rfl rfl⟩

end

end Turn

/-- What the steps of a run with the given options come to, the first of which begins its
transaction. -/
structure Run.Exits (options : Transaction.Options) (work : Work Nat) (first : Turn)
    (rest : List Turn) : Prop where
  short : rest.length ≤ work.steps first.transaction + 1
  silent : ∀ t ∈ first :: rest, t.result? = none → t.LeavesAlone
  refused : first.before.store.connected = false → rest = [] ∧ first.Fails (.error .notConnected)
  concludes : first.before.store.connected = true →
    ∀ t ∈ first :: rest, t.result?.isSome = true →
      t.Concludes (work.staged first.transaction)
        (work.verdict options.timeout first.before.now (first.before.now + options.timeout)
          first.transaction)

namespace Traffic

/-- A run has not begun yet, or it has begun a transaction and comes to what was settled then. -/
inductive Foretold (options : Transaction.Options) (work : Work Nat) (s : Traffic) :
    Call → List Turn → Prop where
  | beginning : Foretold options work s (.run (.beginning options work)) []
  | begun {phase : Run Nat} {first : Turn} {rest : List Turn} {n : Nat}
      (hc : first.before.store.connected = true)
      (hsilent : ∀ t ∈ first :: rest, t.result? = none ∧ t.LeavesAlone)
      (hn : rest.length + n ≤ work.steps first.transaction + 1)
      (h : phase.Awaits s.manager.now
        (work.verdict options.timeout first.before.now (first.before.now + options.timeout)
          first.transaction)
        (work.staged first.transaction) n) :
    Foretold options work s (.run phase) (first :: rest)

namespace Foretold

variable {options : Transaction.Options} {work : Work Nat} {s : Traffic} {c : Call}
  {turns : List Turn}

/-- What happens between the steps of a run does not change what it comes to. -/
theorem beside {i : Nat} {move : Move} (h : s.Foretold options work c turns)
    (hc : s.call? i = some c) (ha : s.allows i move = true) :
  (s.step move).Foretold options work c turns
  := by
  cases h with
  | beginning => exact .beginning
  | begun hconnected hsilent hn h =>
    apply begun hconnected hsilent hn
    rcases now_beside hc ha with hnow | ⟨hr, hdue⟩
    · rwa [hnow]
    · exact h.later hr hdue

/-- A run that goes on still comes to what was settled. -/
theorem settle (hopen : work.LeavesOpen) (h : s.Foretold options work c turns)
    (hr : c.isReady s.manager = true) {i : Nat} {c' : Call}
    (hg : (c.advance s.manager).2 = .going c') :
  (s.settle i (c.advance s.manager)).Foretold options work c' (turns ++ [⟨s.manager, c⟩])
  := by
  cases h with
  | beginning =>
    cases hc : s.manager.store.connected with
    | true =>
      obtain ⟨phase, journal, transactions, he, hphase⟩ :=
        Run.awaits_start s.manager hc options hopen rfl
      have hturn := Turn.leavesAlone_run he rfl rfl
      rw [Call.advance, he] at hg ⊢
      cases hg
      apply begun hc
      · simpa using hturn
      · exact Nat.le_of_eq (Nat.zero_add _)
      · exact hphase
    | false =>
      obtain ⟨journal, transactions, he⟩ := Run.start_of_not_connected s.manager hc options work
      rw [Call.advance, he] at hg
      cases hg
  | @begun phase first rest n hc hsilent hn h =>
    rcases h.advance hr with ⟨phase', journal, k, he, hk, h'⟩ | ⟨_, _, _, _, -, -, he⟩
      | ⟨_, _, _, -, he⟩
    · have hturn := Turn.leavesAlone_run he rfl rfl
      rw [Call.advance, he] at hg ⊢
      cases hg
      rw [List.cons_append]
      refine begun hc ?_ ?_ h'
      · rw [← List.cons_append, List.forall_mem_append, List.forall_mem_singleton]
        exact ⟨hsilent, hturn⟩
      · rw [List.length_append, List.length_singleton]
        omega
    · rw [Call.advance, he] at hg
      cases hg
    · rw [Call.advance, he] at hg
      cases hg

/-- A run that has not returned yet shows neither in the store nor in the health report. -/
theorem exits (h : s.Foretold options work c turns) {first : Turn} {rest : List Turn}
    (ht : turns = first :: rest) :
  Run.Exits options work first rest
  := by
  cases h with
  | beginning => cases ht
  | begun hc hsilent hn h =>
    cases ht
    have hpos := h.pos
    constructor
    case short => omega
    case silent => exact fun t ht _ => (hsilent t ht).2
    case refused =>
      intro hc'
      rw [hc] at hc'
      cases hc'
    case concludes =>
      intro _ t ht hresult
      rw [(hsilent t ht).1] at hresult
      cases hresult

/-- With its last step a run comes to what was settled. -/
theorem exits_of_done (hopen : work.LeavesOpen) (h : s.Foretold options work c turns)
    (hr : c.isReady s.manager = true) {o : Outcome} (hd : (c.advance s.manager).2 = .done o)
    {first : Turn} {rest : List Turn} (ht : turns ++ [⟨s.manager, c⟩] = first :: rest) :
  Run.Exits options work first rest
  := by
  have hresult : (⟨s.manager, c⟩ : Turn).result? = some o := by rw [Turn.result?, hd]
  have hsome : ¬ (⟨s.manager, c⟩ : Turn).result? = none := by simp [hresult]
  cases h with
  | beginning =>
    cases ht
    cases hc : s.manager.store.connected with
    | true =>
      obtain ⟨phase, journal, transactions, he, -⟩ :=
        Run.awaits_start s.manager hc options hopen rfl
      rw [Call.advance, he] at hd
      cases hd
    | false =>
      obtain ⟨journal, transactions, he⟩ := Run.start_of_not_connected s.manager hc options work
      constructor
      case short => exact Nat.zero_le _
      case silent => simp [hsome]
      case refused => exact fun _ => ⟨rfl, Turn.fails_run he rfl rfl⟩
      case concludes => simp [hc]
  | @begun phase first rest n hc hsilent hn h =>
    cases ht
    have hpos := h.pos
    constructor
    case short =>
      rw [List.append_eq, List.length_append, List.length_singleton]
      omega
    case silent =>
      rw [List.append_eq, ← List.cons_append, List.forall_mem_append, List.forall_mem_singleton]
      exact ⟨fun t ht _ => (hsilent t ht).2, fun hnone => absurd hnone hsome⟩
    case refused => simp [hc]
    case concludes =>
      intro _
      rw [List.append_eq, ← List.cons_append, List.forall_mem_append, List.forall_mem_singleton]
      constructor
      · intro t ht hsome
        rw [(hsilent t ht).1] at hsome
        cases hsome
      · exact Turn.concludes_run h hr

/-- A run that cannot go on waits for a time. -/
theorem isReady_or_alarm (h : s.Foretold options work c turns) (m : Manager) :
  c.isReady m = true ∨ ∃ due, c.alarm = some due
  := by
  cases h with
  | beginning => exact .inl rfl
  | begun _ _ _ h =>
    cases h with
    | sleeping => exact .inr ⟨_, rfl⟩
    | _ => exact .inl rfl

end Foretold

variable {i : Nat} {s : Traffic} {options : Transaction.Options} {work : Work Nat}

/-- What was settled when the transaction of a run was begun holds as long as it goes on. -/
theorem foretold_run (hopen : work.LeavesOpen)
    (hc : s.call? i = some (.run (.beginning options work))) {moves : List Move}
    (hp : s.punctual i moves = true) :
  (∃ c', (s.run moves).call? i = some c'
      ∧ (s.run moves).Foretold options work c' (s.turns i moves))
    ∨ ∃ s' c' turns o, Foretold options work s' c' turns ∧ c'.isReady s'.manager = true
      ∧ (c'.advance s'.manager).2 = .done o ∧ (s.run moves).call? i = none
      ∧ s.turns i moves = turns ++ [⟨s'.manager, c'⟩]
  :=
  turns_induction (A := fun _ => True) (J := Foretold options work)
    (fun _ _ _ _ _ h hc _ ha => h.beside hc ha) (fun _ _ _ _ h _ hr hg => h.settle hopen hr hg)
    hc .beginning moves (fun _ _ => trivial) hp

/-- Every run comes to what its unit of work comes to. -/
theorem exits_of_turns (hopen : work.LeavesOpen)
    (hc : s.call? i = some (.run (.beginning options work))) {moves : List Move}
    (hp : s.punctual i moves = true) {first : Turn} {rest : List Turn}
    (ht : s.turns i moves = first :: rest) :
  Run.Exits options work first rest
  := by
  rcases foretold_run hopen hc hp with ⟨c', -, h⟩ | ⟨s', c', turns, o, h, hr, hd, -, hturns⟩
  · exact h.exits ht
  · exact h.exits_of_done hopen hr hd (hturns.symm.trans ht)

/-- A run that has begun its transaction can be brought to return. -/
theorem exists_returned_of_begun (hopen : work.LeavesOpen)
    (hc : s.call? i = some (.run (.beginning options work))) {moves : List Move}
    (hp : s.punctual i moves = true) (hne : s.turns i moves ≠ []) :
  ∃ more, s.punctual i (moves ++ more) = true
    ∧ ∃ t ∈ s.turns i (moves ++ more), t.result?.isSome = true
  := by
  obtain ⟨first, rest, ht⟩ := List.exists_cons_of_ne_nil hne
  cases hc' : (s.run moves).call? i with
  | none =>
    rw [← List.append_nil moves] at hp hc'
    exact ⟨[], hp, exists_result hc hp hc'⟩
  | some c' =>
    have happend : ∀ {more}, (s.run moves).punctual i more = true →
        s.punctual i (moves ++ more) = true := by
      intro more hp'
      rw [punctual_append, hp, hp']
      rfl
    have hbound : ∀ more : List Move, (∀ move ∈ more, True) →
        (s.run moves).punctual i more = true →
        ((s.run moves).turns i more).length ≤ work.steps first.transaction + 1 := by
      intro more _ hp'
      have hturns : s.turns i (moves ++ more) = first :: (rest ++ (s.run moves).turns i more) := by
        rw [turns_append, ht, List.cons_append]
      have hshort := (exits_of_turns hopen hc (happend hp') hturns).short
      rw [List.length_append] at hshort
      omega
    have halive : ∀ more : List Move, (∀ move ∈ more, True) →
        (s.run moves).punctual i more = true → ∀ d, ((s.run moves).run more).call? i = some d →
          d.isReady ((s.run moves).run more).manager = true ∨ ∃ due, d.alarm = some due := by
      intro more _ hp' d hd
      rw [← run_append] at hd ⊢
      rcases foretold_run hopen hc (happend hp') with ⟨d', hd', h⟩ | ⟨_, _, _, _, -, -, -, hn, -⟩
      · cases hd.symm.trans hd'
        exact h.isReady_or_alarm _
      · rw [hd] at hn
        cases hn
    obtain ⟨more, -, hp', t, ht', hresult⟩ :=
      exists_returned trivial (fun _ => trivial) hbound halive hc' [] (by simp) rfl
    refine ⟨more, happend hp', t, ?_, hresult⟩
    rw [turns_append]
    exact List.mem_append_right _ ht'

/-- Every run can be brought to return. -/
theorem exists_returned_of_run (hopen : work.LeavesOpen)
    (hc : s.call? i = some (.run (.beginning options work))) {moves : List Move}
    (hp : s.punctual i moves = true) :
  ∃ more, s.punctual i (moves ++ more) = true
    ∧ ∃ t ∈ s.turns i (moves ++ more), t.result?.isSome = true
  := by
  by_cases hne : s.turns i moves = []
  · -- The number of its steps is bounded only when its transaction is begun.
    rcases foretold_run hopen hc hp with ⟨c', hc', h⟩ | ⟨_, _, _, _, -, -, -, -, hturns⟩
    · rw [hne] at h
      cases h
      have hp' : s.punctual i (moves ++ [.advance i]) = true := by
        rw [punctual_append, hp]
        rfl
      have hne' : s.turns i (moves ++ [.advance i]) ≠ [] := by
        rw [turns_append, hne, turns_advance hc' rfl]
        simp
      obtain ⟨more, hmore⟩ := exists_returned_of_begun hopen hc hp' hne'
      rw [List.append_assoc] at hmore
      exact ⟨_, hmore⟩
    · simp [hne] at hturns
  · exact exists_returned_of_begun hopen hc hp hne

/-- A run comes to what its unit of work comes to in time, whatever others do meanwhile.  It is
refused without a connection, and otherwise it makes the writes of its unit of work and returns its
value, or it counts one error and returns the failure of its unit of work, of its time limit or of
its commit; no other step of it shows.  And in whatever way it is interleaved with others, it can be
brought to return. -/
theorem exits_run (s : Traffic) (i : Nat) (defaults : Transaction.Options)
    (overrides : Transaction.Overrides) (work : Work Nat) (hopen : work.LeavesOpen)
    (hc : s.call? i = some (.run (.beginning (overrides.merge defaults) work)))
    (moves : List Move) (hp : s.punctual i moves = true) :
  (∀ first rest, s.turns i moves = first :: rest →
      Run.Exits (overrides.merge defaults) work first rest)
    ∧ ∃ more, s.punctual i (moves ++ more) = true
      ∧ ∃ t ∈ s.turns i (moves ++ more), t.result?.isSome = true
  := by
  constructor
  · intro first rest ht
    exact exits_of_turns hopen hc hp ht
  · exact exists_returned_of_run hopen hc hp

/-- A unit of work that inserts a document and sleeps for half a second. -/
def nap : Work Nat :=
  .require (.insert ⟨"users", "u1"⟩ (.bool true)) fun _ => .sleep 500 (.finish (.ok 1))

/-- The moves of a caller who wakes up at the last moment. -/
def awakening : List Move :=
  [.advance 0, .advance 0, .elapse 500, .advance 0, .advance 0]

theorem exits_awakening :
  ∃ first rest, (prepared.step (.ask (.run { timeout := some 500 } nap))).turns 0 awakening
      = first :: rest
    ∧ first.before.store.connected = true
    ∧ Run.Exits { timeout := 500 } nap first rest
    ∧ (first :: rest).getLast?.bind Turn.result? = some (.ran ⟨[], .ok 1⟩)
  := by
  have hopen : nap.LeavesOpen := by
    refine ⟨rfl, ?_⟩
    rintro (_ | _) <;> trivial
  have hexits := (exits_run (prepared.step (.ask (.run { timeout := some 500 } nap))) 0 {}
    { timeout := some 500 } nap hopen rfl awakening (by decide)).1
  exact ⟨_, _, rfl, rfl, hexits _ _ rfl, rfl⟩

end Traffic

end Storekeeper

import Storekeeper.Proofs.Manager.Traffic
import Storekeeper.Proofs.Store.SerialReplay

/-!
# What a run makes of the store

A unit of work gets the whole of its transaction, so it may commit the transaction or roll it back
before the run does.  `Traffic.history` is what the runs of a traffic did on the store, as events
of their transactions, and `Traffic.Kept` ties the transaction of each run to it.

A run tells the truth if it left the contents of the store alone where it failed, and made all the
writes that it staged where it succeeded.  `Traffic.tellsTruth_iff` says when it does: exactly
when no commit of the unit of work itself changed anything.  A run whose unit of work committed
always fails.
-/

namespace Storekeeper

theorem Manager.tables_perform (m : Manager) (tx : Transaction) (op : Transaction.Operation) :
  (m.perform tx op).2.2.store.tables = (tx.perform m.store.tables op).tables
  := by
  simp only [perform]
  split
  · rfl
  · rfl

/-! ### Steps of a run -/

namespace Run

variable {α : Type}

/-- The transaction of a run, from the moment it was begun. -/
def transaction? : Run α → Option Transaction
  | beginning _ _ => none
  | performing r _ _ | sleeping r _ _ | committing r _ | aborting r _ => some r.transaction

/-- The operation that a run performs with its next step, with its transaction. -/
def operation? : Run α → Option (Transaction × Transaction.Operation)
  | beginning _ _ | sleeping _ _ _ => none
  | performing r op _ => some (r.transaction, op)
  | committing r _ => some (r.transaction, .commit)
  | aborting r _ => some (r.transaction, .rollback)

/-- The contents of the store after the next step of a run. -/
def tables (m : Manager) (run : Run α) : Tables :=
  match run.operation? with
  | some (tx, op) => (tx.perform m.store.tables op).tables
  | none => m.store.tables

/-- What the next step of a run does on the store, where `i` is the number of its call. -/
def event? (m : Manager) (i : Nat) : Run α → Option Event
  | beginning _ _ =>
    if m.store.connected then some (.begun i m.store.tables) else some (.refused .notConnected)
  | run => run.operation?.map fun (tx, op) => .performed (tx.performance i m.store.tables op)

/-- All that can come of one step of a run. -/
inductive Effect (m : Manager) : Run α → Progress (Run α) (RunResult α) → Prop where
  | begun {options : Transaction.Options} {work : Work α} {phase : Run α} (name : String)
      (hc : m.store.connected = true)
      (h : phase.transaction? = some (.begin name m.store.tables)) :
    Effect m (beginning options work) (.going phase)
  | refused {options : Transaction.Options} {work : Work α} (reports : List Report)
      (hc : m.store.connected = false) :
    Effect m (beginning options work) (.done ⟨reports, .error (.error .notConnected)⟩)
  | performed {r : Running} {op : Transaction.Operation}
      {next : Except Error op.Reply → Work α} {phase : Run α}
      (h : phase.transaction? = some (r.transaction.perform m.store.tables op).transaction) :
    Effect m (performing r op next) (.going phase)
  | slept {r : Running} {due : Nat} {next : Work α} {phase : Run α}
      (h : phase.transaction? = some r.transaction) :
    Effect m (sleeping r due next) (.going phase)
  | committed {r : Running} {value : α} (reports : List Report)
      (h : (r.transaction.perform m.store.tables .commit).reply = .ok ()) :
    Effect m (committing r value) (.done ⟨reports, .ok value⟩)
  | notCommitted {r : Running} {value : α} {e : Error} (reports : List Report)
      (h : (r.transaction.perform m.store.tables .commit).reply = .error e) :
    Effect m (committing r value) (.done ⟨reports, .error (.error e)⟩)
  | aborted {r : Running} {failure : Failure} (reports : List Report) :
    Effect m (aborting r failure) (.done ⟨reports, .error failure⟩)

/-- A unit of work goes on to its next operation without a trace in the store. -/
theorem store_proceed (m : Manager) (r : Running) (work : Work α) :
  (proceed m r work).1.store = m.store
  := by
  induction work generalizing m r with
  | finish result =>
    cases result with
    | ok value => rfl
    | error failure => rfl
  | perform op next ih => rfl
  | sleep time next ih => rfl
  | log line next ih =>
    rw [proceed, ih]
    rfl
  | report report next ih => rw [proceed, ih]

theorem going_proceed (m : Manager) (r : Running) (work : Work α) :
  ∃ phase, (proceed m r work).2 = .going phase ∧ phase.transaction? = some r.transaction
  := by
  induction work generalizing m r with
  | finish result =>
    cases result with
    | ok value => exact ⟨_, rfl, rfl⟩
    | error failure => exact ⟨_, rfl, rfl⟩
  | perform op next ih => exact ⟨_, rfl, rfl⟩
  | sleep time next ih => exact ⟨_, rfl, rfl⟩
  | log line next ih => exact ih (m.write line) r
  | report report next ih => exact ih m { r with reports := r.reports ++ [report] }

theorem tables_start (m : Manager) (options : Transaction.Options) (work : Work α) :
  (start m options work).1.store.tables = m.store.tables
  := by
  cases hc : m.store.connected with
  | false => simp [start, Manager.begin, MemoryStore.begin, hc, Manager.recordFailure,
      Manager.recordError, Manager.log, Manager.write, Manager.emitCall, Manager.emit]
  | true => simp [start, Manager.begin, MemoryStore.begin, hc, store_proceed, Manager.log,
      Manager.write, Manager.emitCall, Manager.emit]

theorem tables_commit (m : Manager) (r : Running) (value : α) :
  (commit m r value).1.store.tables = (r.transaction.perform m.store.tables .commit).tables
  := by
  rw [← m.tables_perform]
  unfold commit
  split
  · next hp =>
    rw [hp]
    rfl
  · next hp =>
    rw [hp]
    rfl

theorem tables_abort (m : Manager) (r : Running) (failure : Failure) :
  (abort m r failure : Step α).1.store.tables
    = (r.transaction.perform m.store.tables .rollback).tables
  := by
  rw [← m.tables_perform]
  unfold abort
  split
  · next hp =>
    rw [hp]
    rfl
  · next hp =>
    rw [hp]
    rfl

/-- A run changes the contents of the store by the operations in its transaction only. -/
theorem tables_advance (m : Manager) (run : Run α) :
  (run.advance m).1.store.tables = run.tables m
  := by
  cases run with
  | beginning options work => exact tables_start m options work
  | performing r op next => rw [advance, store_proceed, Manager.tables_perform]; rfl
  | sleeping r due next =>
    simp only [advance]
    split
    · rw [store_proceed]
      rfl
    · rfl
  | committing r value => exact tables_commit m r value
  | aborting r failure => exact tables_abort m r failure

theorem effect_start (m : Manager) (options : Transaction.Options) (work : Work α) :
  Effect m (beginning options work) (start m options work).2
  := by
  cases hc : m.store.connected with
  | false =>
    simp only [start, Manager.begin, MemoryStore.begin, hc, if_false, Bool.false_eq_true]
    exact .refused [] hc
  | true =>
    simp only [start, Manager.begin, MemoryStore.begin, hc, if_true]
    obtain ⟨phase, hp, ht⟩ := going_proceed _ _ work
    rw [hp]
    exact .begun _ hc ht

theorem effect_commit (m : Manager) (r : Running) (value : α) :
  Effect m (committing r value) (commit m r value).2
  := by
  have hr : (m.perform r.transaction .commit).1
      = (r.transaction.perform m.store.tables .commit).reply := rfl
  unfold commit
  split
  · next hp =>
    rw [hp] at hr
    exact .committed r.reports hr.symm
  · next hp =>
    rw [hp] at hr
    exact .notCommitted r.reports hr.symm

theorem effect_abort (m : Manager) (r : Running) (failure : Failure) :
  Effect m (aborting r failure : Run α) (abort m r failure).2
  := by
  unfold abort
  split
  · exact .aborted r.reports
  · exact .aborted r.reports

theorem effect_advance (m : Manager) (run : Run α) :
  run.Effect m (run.advance m).2
  := by
  cases run with
  | beginning options work => exact effect_start m options work
  | performing r op next =>
    obtain ⟨phase, hp, ht⟩ := going_proceed _ _ (next _)
    rw [advance, hp]
    exact .performed ht
  | sleeping r due next =>
    simp only [advance]
    split
    · obtain ⟨phase, hp, ht⟩ := going_proceed m r next
      rw [hp]
      exact .slept ht
    · exact .slept rfl
  | committing r value => exact effect_commit m r value
  | aborting r failure => exact effect_abort m r failure

end Run

namespace Run.Effect

variable {α : Type} {m : Manager} {run : Run α}

/-- A transaction that was begun is not begun again. -/
theorem transaction?_ne_none {phase : Run α} (h : run.Effect m (.going phase)) :
  phase.transaction? ≠ none
  := by
  cases h with
  | begun name hc h => simp [h]
  | performed h => simp [h]
  | slept h => simp [h]

end Run.Effect

namespace Run

variable {α : Type} {m : Manager} {run : Run α} {i : Nat}

/-- What a run performs is an operation in its transaction. -/
theorem event?_eq_performed {p : Performance} (h : run.event? m i = some (.performed p)) :
  ∃ tx op, run.operation? = some (tx, op) ∧ run.transaction? = some tx
    ∧ p = tx.performance i m.store.tables op
  := by
  cases run with
  | beginning options work =>
    simp only [event?] at h
    split at h
    · cases h
    · cases h
  | sleeping r due next => cases h
  | performing r op next =>
    cases h
    exact ⟨_, _, rfl, rfl, rfl⟩
  | committing r value =>
    cases h
    exact ⟨_, _, rfl, rfl, rfl⟩
  | aborting r failure =>
    cases h
    exact ⟨_, _, rfl, rfl, rfl⟩

/-- A step that publishes nothing leaves the contents of the store alone. -/
theorem tables_of_unpublished (h : ∀ p, run.event? m i = some (.performed p) → p.publishes = false) :
  run.tables m = m.store.tables
  := by
  cases run with
  | beginning options work => rfl
  | sleeping r due next => rfl
  | performing r op next => exact Transaction.tables_of_not_publishes (h _ rfl)
  | committing r value => exact Transaction.tables_of_not_publishes (h _ rfl)
  | aborting r failure => exact Transaction.tables_of_not_publishes (h _ rfl)

/-- A step that publishes makes the writes of its transaction, which is open. -/
theorem replay_of_published {p : Performance} (h : run.event? m i = some (.performed p))
    (hp : p.publishes = true) :
  ∃ tx, run.transaction? = some tx ∧ tx.finished = false
    ∧ m.store.tables.replay tx.writes = .ok (run.tables m)
  := by
  obtain ⟨tx, op, ho, ht, rfl⟩ := event?_eq_performed h
  obtain ⟨hopen, -, hr, -⟩ := Transaction.replay_of_publishes hp
  use tx, ht, hopen
  rw [hr, tables, ho]

end Run

/-! ### Runs among other calls -/

namespace Call

/-- The run of a call, if it runs a unit of work. -/
def work? : Call → Option (Run Nat)
  | run phase | maintaining _ phase => some phase
  | _ => none

/-- Whether a call is going to begin a transaction for a unit of work. -/
def isUnbegun : Call → Bool
  | run (.beginning _ _) | maintaining _ (.beginning _ _) | maintain _ => true
  | _ => false

/-- What the next step of a call does in a transaction of its own, where `i` is its number. -/
def event? (m : Manager) (i : Nat) (c : Call) : Option Event := c.work?.bind (·.event? m i)

theorem tables_of_work? {m : Manager} {c : Call} {phase : Run Nat} (h : c.work? = some phase) :
  (c.advance m).1.store.tables = phase.tables m
  := by
  rw [← phase.tables_advance m]
  cases c with
  | run phase' =>
    cases h
    rw [advance, store_lift]
    exact fun m r => rfl
  | maintaining task phase' =>
    cases h
    rw [advance, store_lift]
    exact fun m r => task.store_finish m r.outcome
  | _ => cases h

/-- A call goes on with a unit of work, or is going to begin the transaction for one. -/
theorem work?_of_going {m : Manager} {c c' : Call} {phase' : Run Nat}
    (h : (c.advance m).2 = .going c') (hw : c'.work? = some phase') :
  (∃ phase, c.work? = some phase ∧ (phase.advance m).2 = .going phase')
    ∨ phase'.transaction? = none ∧ c.isUnbegun = true ∧ c.work? = none
  := by
  cases goesOn_of_going h with
  | run hp =>
    cases hw
    exact .inl ⟨_, rfl, hp⟩
  | maintaining task hp =>
    cases hw
    exact .inl ⟨_, rfl, hp⟩
  | maintain hp =>
    cases hw
    simp only [Maintenance.start] at hp
    split at hp
    · cases hp
      exact .inr ⟨rfl, rfl, rfl⟩
    · cases hp
  | _ => cases hw

/-- Who is going to begin a transaction after a step was going to before it, and did nothing. -/
theorem isUnbegun_of_going {m : Manager} {c c' : Call} (h : (c.advance m).2 = .going c')
    (hu : c'.isUnbegun = true) :
  c.isUnbegun = true ∧ c.work? = none
  := by
  have hw : ∃ phase', c'.work? = some phase' ∧ phase'.transaction? = none := by
    cases c' with
    | run phase =>
      cases phase with
      | beginning options work => exact ⟨_, rfl, rfl⟩
      | _ => cases hu
    | maintaining task phase =>
      cases phase with
      | beginning options work => exact ⟨_, rfl, rfl⟩
      | _ => cases hu
    | maintain task => cases goesOn_of_going h
    | _ => cases hu
  obtain ⟨phase', hw, ht⟩ := hw
  rcases work?_of_going h hw with ⟨phase, -, hp⟩ | ⟨-, hc⟩
  · have he := phase.effect_advance m
    rw [hp] at he
    exact absurd ht he.transaction?_ne_none
  · exact hc

end Call

/-! ### Calls without a run -/

theorem MemoryStore.tables_connect (s : MemoryStore) :
  s.connect.2.tables = s.tables
  := by
  simp only [connect]
  split
  · rfl
  · rfl

theorem Probe.tables_advance (m : Manager) (probe : Probe) :
  (probe.advance m).1.store.tables = m.store.tables
  := by
  obtain ⟨pings, h⟩ := probe.store_advance m
  rw [h]

theorem Check.tables_advance (m : Manager) (check : Check) :
  (check.advance m).1.store.tables = m.store.tables
  := by
  obtain ⟨pings, h⟩ := check.store_advance m
  rw [h]

theorem Connect.tables_advance (m : Manager) (phase : Connect) :
  (phase.advance m).1.store.tables = m.store.tables
  := by
  rw [phase.store_advance]
  cases phase with
  | opening a => exact m.store.tables_connect
  | probing a probe =>
    simp only [store]
    split
    · exact probe.tables_advance m
    · rfl
  | closing a e => rw [store, MemoryStore.disconnect_snd]
  | _ => rfl

theorem Disconnect.tables_advance (m : Manager) (phase : Disconnect) :
  (phase.advance m).1.store.tables = m.store.tables
  := by
  cases phase with
  | stopping phase =>
    have hs := phase.store_advance m
    simp only [advance]
    split
    · next hp =>
      rw [hp] at hs
      rw [← hs]
    · next hp =>
      rw [hp] at hs
      rw [← hs]
  | closing =>
    obtain ⟨journal, h⟩ := m.release_eq
    simp [advance, h]
  | marking => rfl

/-- A call that runs no unit of work leaves the contents of the store alone. -/
theorem Call.tables_of_work?_eq_none {m : Manager} {c : Call} (h : c.work? = none) :
  (c.advance m).1.store.tables = m.store.tables
  := by
  cases c with
  | start =>
    simp only [advance, advanceStart]
    split
    · rfl
    · rfl
  | connect announced phase =>
    obtain ⟨journal, hj⟩ := connect_advance_eq m announced phase
    rw [hj]
    exact phase.tables_advance m
  | stop => rfl
  | disconnect announced phase =>
    rw [advance, store_lift, phase.tables_advance m]
    intro m r
    cases announced with
    | false => rfl
    | true => rfl
  | stopMonitor phase =>
    rw [advance, store_lift, phase.store_advance m]
    exact fun m r => rfl
  | checkHealth phase =>
    rw [advance, store_lift, phase.tables_advance m]
    exact fun m r => rfl
  | askStatus phase =>
    rw [advance, store_lift, phase.tables_advance m]
    exact fun m p => rfl
  | ping phase =>
    rw [advance, store_lift, phase.tables_advance m]
    exact fun m p => rfl
  | run phase => cases h
  | maintain task =>
    rw [advance, store_lift, task.store_start m]
    exact fun m r => task.store_finish m r.outcome
  | maintaining task phase => cases h
  | sleep due => rfl

namespace Traffic

/-- What a move does in the transaction of a run. -/
def event? (s : Traffic) : Move → Option Event := s.shown fun m i c => c.event? m i

/-- What the runs did on the store, in order. -/
def history (s : Traffic) (moves : List Move) : History := s.record event? moves

theorem event?_advance {s : Traffic} {i : Nat} {c : Call} (h : s.call? i = some c)
    (hr : c.isReady s.manager = true) :
  s.event? (.advance i) = c.event? s.manager i
  := shown_advance _ h hr

/-- The transaction for the call with the given number was not begun yet. -/
def Unbegun (s : Traffic) (i : Nat) : Prop :=
  s.calls.length ≤ i ∨ ∃ c, s.call? i = some c ∧ c.isUnbegun = true

/-- The transactions of the runs are as the history says. -/
structure Kept (s : Traffic) (h : History) : Prop where
  silent : ∀ i, s.Unbegun i → h.staged i = [] ∧ h.finished i = false
  tracks : ∀ i c phase tx, s.call? i = some c → c.work? = some phase →
    phase.transaction? = some tx → h.Tracks i tx

end Traffic

/-- The events of a call are about its own transaction. -/
theorem Call.event?_of_ne {m : Manager} {c : Call} {i j : Nat} (hne : j ≠ i) {e : Event}
    (h : c.event? m i = some e) :
  e.staged j = [] ∧ e.closes j = false
  := by
  obtain ⟨phase, -, he⟩ := Option.bind_eq_some_iff.mp h
  cases e with
  | performed p =>
    obtain ⟨tx, op, -, -, rfl⟩ := Run.event?_eq_performed he
    simp [Event.staged, Event.closes, Ne.symm hne]
  | _ => exact ⟨rfl, rfl⟩

/-- A transaction that was just begun is as the history says. -/
theorem History.tracks_begin {h : History} {id : Nat} (hs : h.staged id = [])
    (hf : h.finished id = false) (name : String) (t : Tables) :
  History.Tracks (h ++ [.begun id t]) id (.begin name t)
  := by
  constructor
  · simp [Transaction.begin, hf, Event.closes]
  · simp [Transaction.begin, hs, Event.staged]
  · intro _
    use t, List.mem_append_right _ List.mem_cons_self
    rfl

namespace Traffic.Kept

variable {s : Traffic} {h : History}

/-- A step of a run does to its transaction what the history says then. -/
theorem tracks_advance (hk : s.Kept h) {i : Nat} {c : Call} (hc : s.call? i = some c)
    {phase phase' : Run Nat} (hw : c.work? = some phase)
    (hg : (phase.advance s.manager).2 = .going phase') {tx : Transaction}
    (ht : phase'.transaction? = some tx) :
  History.Tracks (h ++ (c.event? s.manager i).toList) i tx
  := by
  have he : c.event? s.manager i = phase.event? s.manager i := by
    rw [Call.event?, hw, Option.bind_some]
  have heff := phase.effect_advance s.manager
  rw [he]
  rw [hg] at heff
  cases heff with
  | @begun options work _ name hconn hb =>
    have hu : c.isUnbegun = true := by
      cases c with
      | run phase =>
        cases hw
        rfl
      | maintaining task phase =>
        cases hw
        rfl
      | _ => cases hw
    obtain ⟨hs, hf⟩ := hk.silent i (.inr ⟨c, hc, hu⟩)
    cases hb.symm.trans ht
    simp only [Run.event?, hconn, if_true, Option.toList_some]
    exact History.tracks_begin hs hf name _
  | @performed r op next _ hp =>
    cases hp.symm.trans ht
    exact (hk.tracks i c _ _ hc hw rfl).performed s.manager.store.tables op
  | slept hp =>
    cases hp.symm.trans ht
    simpa [Run.event?, Run.operation?] using hk.tracks i c _ _ hc hw rfl

theorem advance (hk : s.Kept h) {i : Nat} {c : Call} (hc : s.call? i = some c) :
  (s.settle i (c.advance s.manager)).Kept (h ++ (c.event? s.manager i).toList)
  := by
  -- Nothing happens to the transactions of the others.
  have hother : ∀ j, j ≠ i → ∀ e ∈ (c.event? s.manager i).toList,
      e.staged j = [] ∧ e.closes j = false := by
    intro j hj e he
    exact Call.event?_of_ne hj (Option.mem_toList.mp he)
  constructor
  case silent =>
    intro j hu
    by_cases hj : j = i
    · subst hj
      rcases hu with hl | ⟨c', hc', hu⟩
      · rw [length_calls_settle] at hl
        exact absurd (lt_length_of_call? hc) (Nat.not_lt.mpr hl)
      · obtain ⟨hu, hw⟩ := Call.isUnbegun_of_going (going_of_call?_settle hc') hu
        simpa [Call.event?, hw] using hk.silent j (.inr ⟨c, hc, hu⟩)
    · have hu' : s.Unbegun j := by
        rcases hu with hl | ⟨c', hc', hu⟩
        · exact .inl (s.length_calls_settle i _ ▸ hl)
        · rw [call?_settle_of_ne s (Ne.symm hj)] at hc'
          exact .inr ⟨c', hc', hu⟩
      cases he : c.event? s.manager i with
      | none => simpa using hk.silent j hu'
      | some e =>
        obtain ⟨hs, hf⟩ := hother j hj e (by simp [he])
        simpa [hs, hf] using hk.silent j hu'
  case tracks =>
    intro j c' phase' tx hc' hw' ht
    by_cases hj : j = i
    · subst hj
      rcases Call.work?_of_going (going_of_call?_settle hc') hw' with ⟨phase, hw, hp⟩ | ⟨hn, -⟩
      · exact hk.tracks_advance hc hw hp ht
      · cases hn.symm.trans ht
    · rw [call?_settle_of_ne s (Ne.symm hj)] at hc'
      have htracks := hk.tracks j c' phase' tx hc' hw' ht
      cases he : c.event? s.manager i with
      | none => simpa using htracks
      | some e =>
        obtain ⟨hs, hf⟩ := hother j hj e (by simp [he])
        exact htracks.concat hs hf

theorem ask (hk : s.Kept h) (r : Request) :
  (s.step (.ask r)).Kept h
  := by
  constructor
  case silent =>
    intro j hu
    apply hk.silent
    rcases hu with hl | ⟨c, hc, hu⟩
    · simp only [step, List.length_append, List.length_singleton] at hl
      exact .inl (by omega)
    · rw [call?_ask] at hc
      split at hc
      · next hj => exact .inl (Nat.le_of_eq hj.symm)
      · exact .inr ⟨c, hc, hu⟩
  case tracks =>
    intro j c phase tx hc hw ht
    rw [call?_ask] at hc
    split at hc
    · cases hc
      cases r with
      | run overrides work =>
        cases hw
        cases ht
      | _ => cases hw
    · exact hk.tracks j c phase tx hc hw ht

theorem beside (hk : s.Kept h) {move : Move} (hn : ∀ i, move ≠ .advance i) :
  (s.step move).Kept h
  := by
  have hc := s.step_change move
  generalize s.step move = s' at hc
  cases hc with
  | idle => exact hk
  | asked r => exact hk.ask r
  | advanced i c hc hr => exact absurd rfl (hn i)
  | _ => exact ⟨hk.silent, hk.tracks⟩

end Traffic.Kept

namespace Traffic

/-- In every run the transactions are as the history says. -/
theorem kept_run {first : Traffic} (hc : first.calls = []) (moves : List Move) :
  (first.run moves).Kept (first.history moves)
  := by
  apply record_induction (P := Traffic.Kept)
  · constructor
    · intro i hu
      exact ⟨rfl, rfl⟩
    · intro i c phase tx h
      simp [call?, hc] at h
  · intro s h i c hm hk hc hr
    exact hk.advance hc
  · intro s h move hm hn hk
    exact hk.beside hn

end Traffic

/-! ### The truth of a result -/

/-- Only a run answers with the result of one. -/
theorem Call.done_ran {m : Manager} {c : Call} {r : RunResult Nat}
    (h : (c.advance m).2 = .done (.ran r)) :
  ∃ phase, c = .run phase ∧ (phase.advance m).2 = .done r
  := by
  cases c with
  | start =>
    obtain ⟨e, -, ho⟩ := done_start h
    cases ho
  | stop => cases h
  | sleep due => cases h
  | connect announced phase =>
    obtain ⟨result, -, ho⟩ := done_connect h
    cases ho
  | run phase =>
    obtain ⟨r', hp, ho⟩ := done_lift h
    cases ho
    exact ⟨phase, rfl, hp⟩
  | _ =>
    obtain ⟨result, hr, ho⟩ := done_lift h
    cases ho

namespace Run.Effect

variable {α : Type} {m : Manager} {run : Run α} {r : RunResult α}

/-- A run that returns a value publishes the writes of its transaction then. -/
theorem publishes_of_ok (h : run.Effect m (.done r)) {value : α} (ho : r.outcome = .ok value)
    (i : Nat) :
  ∃ p, run.event? m i = some (.performed p) ∧ p.publishes = true
  := by
  cases h with
  | refused reports hc => cases ho
  | @committed r value reports hc =>
    refine ⟨_, rfl, ?_⟩
    simp [Performance.publishes, Transaction.performance, hc, Transaction.Operation.isCommit,
      Except.isOk, Except.toBool]
  | notCommitted reports hc => cases ho
  | aborted reports => cases ho

/-- A run that returns a failure publishes nothing then. -/
theorem not_publishes_of_error (h : run.Effect m (.done r)) {failure : Failure}
    (ho : r.outcome = .error failure) {i : Nat} {p : Performance}
    (hp : run.event? m i = some (.performed p)) :
  p.publishes = false
  := by
  cases h with
  | refused reports hc => simp [event?, hc] at hp
  | committed reports hc => cases ho
  | notCommitted reports hc =>
    cases hp
    simp [Performance.publishes, Transaction.performance, hc, Except.isOk, Except.toBool]
  | aborted reports =>
    cases hp
    rfl

end Run.Effect

namespace Traffic

/-- The contents of the store. -/
def contents (s : Traffic) : Tables := s.manager.store.tables

/-- A call that publishes nothing with its next step leaves the contents of the store alone. -/
theorem contents_of_unpublished {s : Traffic} {i : Nat}
    (h : ∀ p, s.event? (.advance i) = some (.performed p) → p.publishes = false) :
  (s.step (.advance i)).contents = s.contents
  := by
  rcases s.step_advance_cases (fun m i c => c.event? m i) i with ⟨hs, -⟩ | ⟨c, hc, hr⟩
  · rw [hs]
  · rw [event?_advance hc hr, Call.event?] at h
    rw [step_advance hc hr, contents, manager_settle]
    cases hw : c.work? with
    | none => exact Call.tables_of_work?_eq_none hw
    | some phase =>
      rw [hw, Option.bind_some] at h
      rw [Call.tables_of_work? hw]
      exact Run.tables_of_unpublished h

/-- Publishing makes the writes that a transaction staged, which is open. -/
theorem Kept.contents_of_published {s : Traffic} {h : History} (hk : s.Kept h) {i : Nat}
    {p : Performance} (he : s.event? (.advance i) = some (.performed p))
    (hp : p.publishes = true) :
  p.id = i ∧ p.tables = s.contents ∧ h.finished i = false
    ∧ s.contents.replay (h.staged i) = .ok (s.step (.advance i)).contents
  := by
  rcases s.step_advance_cases (fun m i c => c.event? m i) i with ⟨-, hn⟩ | ⟨c, hc, hr⟩
  · cases hn.symm.trans he
  · rw [event?_advance hc hr] at he
    obtain ⟨phase, hw, he⟩ := Option.bind_eq_some_iff.mp he
    obtain ⟨tx, op, -, -, rfl⟩ := Run.event?_eq_performed he
    obtain ⟨tx, ht, hopen, hreplay⟩ := Run.replay_of_published he hp
    have htracks := hk.tracks i c phase tx hc hw ht
    refine ⟨rfl, rfl, htracks.finished.symm.trans hopen, ?_⟩
    rw [← htracks.writes hopen, step_advance hc hr, contents, contents, manager_settle,
      Call.tables_of_work? hw]
    exact hreplay

/-- No step of the call with the given number changed the contents of the store. -/
def Untouched (first : Traffic) (moves : List Move) (i : Nat) : Prop :=
  ∀ before, before ++ [.advance i] <+: moves →
    (first.run (before ++ [.advance i])).contents = (first.run before).contents

/-- What the run with the given number returns after some moves is true of the store: where it
failed none of its steps changed the contents, and where it succeeded its last step, and none
before, made all the writes that it staged. -/
def TellsTruth (first : Traffic) (moves : List Move) (i : Nat) : Except Failure Nat → Prop
  | .error _ => first.Untouched (moves ++ [.advance i]) i
  | .ok _ =>
    first.Untouched moves i
      ∧ (first.run moves).contents.replay ((first.history moves).staged i)
          = .ok (first.run (moves ++ [.advance i])).contents

section

variable {first : Traffic} {moves : List Move} {i : Nat}

/-- What a run is about to do when it returns. -/
theorem effect_of_ran {r : RunResult Nat} (h : (first.run moves).outcome? i = some (.ran r)) :
  ∃ phase : Run Nat, phase.Effect (first.run moves).manager (.done r)
    ∧ (first.run moves).event? (.advance i) = phase.event? (first.run moves).manager i
  := by
  obtain ⟨c, hc, hr, hd⟩ := outcome?_eq_some_iff.mp h
  obtain ⟨phase, rfl, hp⟩ := Call.done_ran hd
  have he := phase.effect_advance (first.run moves).manager
  rw [hp] at he
  exact ⟨phase, he, event?_advance hc hr⟩

/-- A run that returns a value publishes what it staged with its last step, and did not commit or
roll back its transaction before. -/
theorem published_of_ok (hf : first.calls = []) {r : RunResult Nat}
    (h : (first.run moves).outcome? i = some (.ran r)) {value : Nat} (ho : r.outcome = .ok value) :
  (first.history moves).finished i = false
    ∧ (first.run moves).contents.replay ((first.history moves).staged i)
        = .ok (first.run (moves ++ [.advance i])).contents
  := by
  obtain ⟨phase, heff, he⟩ := effect_of_ran h
  obtain ⟨p, hp, hpub⟩ := heff.publishes_of_ok ho i
  obtain ⟨-, -, hopen, hreplay⟩ := (kept_run hf moves).contents_of_published (he.trans hp) hpub
  rw [run_concat]
  exact ⟨hopen, hreplay⟩

/-- A run that returns a failure leaves the contents of the store alone with its last step. -/
theorem contents_of_error {r : RunResult Nat}
    (h : (first.run moves).outcome? i = some (.ran r)) {failure : Failure}
    (ho : r.outcome = .error failure) :
  (first.run (moves ++ [.advance i])).contents = (first.run moves).contents
  := by
  obtain ⟨phase, heff, he⟩ := effect_of_ran h
  rw [run_concat]
  apply contents_of_unpublished
  intro p hp
  exact heff.not_publishes_of_error ho (he.symm.trans hp)

/-- The steps of a run left the contents of the store alone exactly if every commit that was among
them came to nothing. -/
theorem untouched_iff (hf : first.calls = []) :
  first.Untouched moves i ↔
    ∀ (before : History) (p : Performance) (after : History),
      first.history moves = before ++ .performed p :: after → p.id = i → p.publishes = true →
      p.tables.replay (before.staged i) = .ok p.tables
  := by
  constructor
  · intro hu before p after h hi hp
    obtain ⟨done, move, hpre, rfl, he⟩ := exists_of_record h
    cases move with
    | advance j =>
      have hk := kept_run hf done
      obtain ⟨hj, ht, -, hreplay⟩ := hk.contents_of_published he hp
      obtain rfl : j = i := hj.symm.trans hi
      have hsame := hu done hpre
      rw [run_concat] at hsame
      rw [ht, ← hsame, ← hreplay, hsame]
      rfl
    | _ => cases he
  · intro hn done hpre
    rw [run_concat]
    by_cases he : ∃ p, (first.run done).event? (.advance i) = some (.performed p)
        ∧ p.publishes = true
    · obtain ⟨p, he, hp⟩ := he
      obtain ⟨after, h⟩ := record_of_prefix hpre he
      obtain ⟨hi, ht, -, hreplay⟩ := (kept_run hf done).contents_of_published he hp
      have hsame := hn _ p after h hi hp
      rw [ht] at hsame
      exact Except.ok.inj (hreplay.symm.trans hsame)
    · apply contents_of_unpublished
      intro p hp
      rw [← Bool.not_eq_true]
      intro hpub
      exact he ⟨p, hp, hpub⟩

/-- A run whose unit of work committed with success returns a failure. -/
theorem exists_error_of_published (hf : first.calls = []) {r : RunResult Nat}
    (h : (first.run moves).outcome? i = some (.ran r))
    (hp : i ∈ (first.history moves).published) :
  ∃ failure, r.outcome = .error failure
  := by
  cases ho : r.outcome with
  | error failure => exact ⟨failure, rfl⟩
  | ok value =>
    have hopen := (published_of_ok hf h ho).1
    rw [History.finished_of_mem_published hp] at hopen
    cases hopen

/-- Before its last step a run that returns a value left the contents of the store alone. -/
theorem untouched_of_ok (hf : first.calls = []) {r : RunResult Nat}
    (h : (first.run moves).outcome? i = some (.ran r)) {value : Nat} (ho : r.outcome = .ok value) :
  first.Untouched moves i
  := by
  apply (untouched_iff hf).mpr
  intro before p after hh hi hp
  have hpub : i ∈ (first.history moves).published := by
    rw [hh]
    simp [History.published, Event.publisher, hp, hi]
  obtain ⟨failure, he⟩ := exists_error_of_published hf h hpub
  cases ho.symm.trans he

end

/-- What a run returns is true of the store where it succeeded, and where it failed exactly if every
commit that its unit of work made itself, and with success, came to nothing. -/
theorem tellsTruth_iff (settings : Settings) (chance : Chance) (now : Nat) (store : MemoryStore)
    (moves : List Move) (i : Nat) (r : RunResult Nat)
    (h : ((opened settings chance now store).run moves).outcome? i = some (.ran r)) :
  (∀ value, r.outcome = .ok value →
      (opened settings chance now store).TellsTruth moves i r.outcome)
    ∧ ((opened settings chance now store).TellsTruth moves i r.outcome ↔
      ∀ (before : History) (p : Performance) (after : History),
        (opened settings chance now store).history moves = before ++ .performed p :: after →
        p.id = i → p.publishes = true →
        p.tables.replay (before.staged i) = .ok p.tables)
  := by
  rw [← untouched_iff rfl]
  cases ho : r.outcome with
  | error failure =>
    constructor
    · simp
    · constructor
      · intro hu before hpre
        exact hu before (hpre.trans (List.prefix_append moves [.advance i]))
      · intro hu before hpre
        rcases List.prefix_concat_iff.mp hpre with hlast | hpre
        · obtain ⟨rfl, -⟩ := List.append_inj' hlast rfl
          exact contents_of_error h ho
        · exact hu before hpre
  | ok value =>
    have hu := untouched_of_ok rfl h ho
    have hr := (published_of_ok rfl h ho).2
    exact ⟨fun _ _ => ⟨hu, hr⟩, fun _ => hu, fun _ => ⟨hu, hr⟩⟩

/-- The moves of a caller whose unit of work inserts a document and sleeps for longer than it may. -/
def overrun : List Move :=
  let work : Work Nat :=
    .require (.insert ⟨"users", "u1"⟩ (.bool true)) fun _ => .sleep 20000 (.finish (.ok 1))
  [.ask (.run {} work), .advance 0, .advance 0, .elapse 10000, .advance 0]

/-- A manager of a store that is connected. -/
def prepared : Traffic :=
  opened { url := "memory://localhost/projects" } { draw := fun _ => 0, name := fun _ => "" } 0
    { connected := true }

theorem tellsTruth_overrun :
  (prepared.run overrun).outcome? 0 = some (.ran ⟨[], .error (.error (.transactionTimeout 10000))⟩)
    ∧ prepared.TellsTruth overrun 0 (.error (.error (.transactionTimeout 10000)))
  := by
  have h : (prepared.run overrun).outcome? 0
      = some (.ran ⟨[], .error (.error (.transactionTimeout 10000))⟩) := rfl
  use h
  apply (tellsTruth_iff _ _ _ _ _ _ _ h).2.mpr
  intro before p after hh hi hp
  have hn : (prepared.history overrun).published = [] := rfl
  change prepared.history overrun = _ at hh
  rw [hh] at hn
  simp [History.published, Event.publisher, hp] at hn

/-- The moves of a caller whose unit of work inserts a document, commits and fails. -/
def retreat : List Move :=
  let work : Work Nat :=
    .require (.insert ⟨"users", "u1"⟩ (.bool true)) fun _ =>
      .require .commit fun _ => .finish (.error (.custom "changed my mind"))
  [.ask (.run {} work), .advance 0, .advance 0, .advance 0]

/-- A unit of work that commits and fails leaves its writes in the store, though the run fails. -/
theorem not_forall_tellsTruth :
  ¬ ∀ settings chance now store moves i r,
      ((opened settings chance now store).run moves).outcome? i = some (.ran r) →
        (opened settings chance now store).TellsTruth moves i r.outcome
  := by
  intro h
  have hu : prepared.Untouched (retreat ++ [.advance 0]) 0 :=
    h _ _ _ _ retreat 0 ⟨[], .error (.custom "changed my mind")⟩ rfl
  have hsame := hu (retreat.take 3) (by
    use [.advance 0]
    rfl)
  have hnew : (prepared.run (retreat.take 3 ++ [.advance 0])).contents.contains ⟨"users", "u1"⟩
      = true := by
    decide
  rw [hsame] at hnew
  exact absurd hnew (by decide)

end Traffic

end Storekeeper

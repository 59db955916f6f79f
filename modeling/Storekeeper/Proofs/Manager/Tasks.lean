import Storekeeper.Proofs.Manager.Runs

/-!
# Maintenance tasks

A unit of work is plain if it neither finishes its transaction nor sleeps.  Its operations look at
the view of its transaction only, so what it comes to is settled when the transaction is begun,
whatever others do to the store in the meantime: `Work.outlook` computes it from the transaction,
and `Run.Expects` says that a run is going to end like this.

The units of work of both maintenance tasks are plain.  `Traffic.follows_run` says that a task goes
on as it was foreseen from the contents of the store with which its transaction was begun.
-/

namespace Storekeeper

/-- An operation that does not finish its transaction does not look at the contents of the store. -/
theorem Transaction.perform_of_not_closing (tx : Transaction) {op : Operation}
    (h : op.isClosing = false) (t t' : Tables) :
  (tx.perform t op).reply = (tx.perform t' op).reply
    ∧ (tx.perform t op).transaction = (tx.perform t' op).transaction
  := by
  have hstage : ∀ {ρ : Type} (w : Write) (reply : ρ),
      (tx.stage t w reply).reply = (tx.stage t' w reply).reply
        ∧ (tx.stage t w reply).transaction = (tx.stage t' w reply).transaction := by
    intro ρ w reply
    unfold stage
    cases w.apply tx.view with
    | ok view => exact ⟨rfl, rfl⟩
    | error e => exact ⟨rfl, rfl⟩
  unfold perform
  split
  · exact ⟨rfl, rfl⟩
  · cases op with
    | insert k d => exact hstage _ _
    | delete k =>
      simp only [act]
      split
      · exact hstage _ _
      · exact ⟨rfl, rfl⟩
    | deleteAll c => exact hstage _ _
    | find k => exact ⟨rfl, rfl⟩
    | count c => exact ⟨rfl, rfl⟩
    | commit => cases h
    | rollback => cases h

theorem Transaction.finished_perform (tx : Transaction) (t : Tables) {op : Operation}
    (h : op.isClosing = false) :
  (tx.perform t op).transaction.finished = tx.finished
  := by
  cases hfin : tx.finished with
  | true => rw [perform_of_finished hfin, hfin]
  | false => rw [perform_of_open hfin, (act_stages tx t h).finished, hfin]

/-- Such an operation changes nothing of the manager but the journal. -/
theorem Manager.perform_of_not_closing (m : Manager) (tx : Transaction) {op : Transaction.Operation}
    (h : op.isClosing = false) :
  ∃ journal, m.perform tx op
    = ((tx.perform .empty op).reply, (tx.perform .empty op).transaction,
        { m with journal := journal })
  := by
  have htables : (tx.perform m.store.tables op).tables = m.store.tables := by
    apply Transaction.tables_perform
    rintro rfl
    cases h
  obtain ⟨hreply, htx⟩ := tx.perform_of_not_closing h m.store.tables .empty
  simp only [perform, htables, hreply, htx]
  split
  · exact ⟨m.journal, rfl⟩
  · exact ⟨_, rfl⟩

/-! ### Plain units of work -/

/-- What a unit of work comes to. -/
structure Outlook (α : Type) where
  /-- The number of operations that it performs until then. -/
  length : Nat := 0
  transaction : Transaction
  result : Except Failure α

/-- What a unit of work comes to that performs one more operation before. -/
def Outlook.later {α : Type} (o : Outlook α) : Outlook α := { o with length := o.length + 1 }

namespace Work

variable {α : Type}

/-- Whether a unit of work leaves it to others to finish its transaction, and does not sleep. -/
def IsPlain : Work α → Prop
  | finish _ => True
  | perform op next => op.isClosing = false ∧ ∀ reply, (next reply).IsPlain
  | sleep _ _ => False
  | log _ next | report _ next => next.IsPlain

/-- What a plain unit of work comes to in the transaction `tx`. -/
def outlook (tx : Transaction) : Work α → Outlook α
  | finish result => { transaction := tx, result := result }
  | perform op next =>
    (outlook (tx.perform .empty op).transaction (next (tx.perform .empty op).reply)).later
  | sleep _ next | log _ next | report _ next => outlook tx next

/-- A plain unit of work leaves its transaction open. -/
theorem finished_outlook {work : Work α} (h : work.IsPlain) (tx : Transaction) :
  (work.outlook tx).transaction.finished = tx.finished
  := by
  induction work generalizing tx with
  | finish result => rfl
  | perform op next ih =>
    obtain ⟨hop, hnext⟩ := h
    apply (ih _ (hnext _) _).trans
    apply tx.finished_perform _ hop
  | sleep time next ih => cases h
  | log line next ih => apply ih h
  | report report next ih => apply ih h

theorem isPlain_require {op : Transaction.Operation} {next : op.Reply → Work α}
    (hop : op.isClosing = false) (h : ∀ reply, (next reply).IsPlain) :
  (require op next).IsPlain
  := by
  refine ⟨hop, ?_⟩
  intro reply
  cases reply with
  | ok reply => exact h reply
  | error e => trivial

end Work

namespace Run

variable {α : Type}

/-- A run is going to end its unit of work as foreseen. -/
def Expects (o : Outlook α) : Run α → Prop
  | beginning _ _ | sleeping _ _ _ => False
  | performing r op next =>
    (Work.perform op next).IsPlain ∧ (Work.perform op next).outlook r.transaction = o
  | committing r value => o = { transaction := r.transaction, result := .ok value }
  | aborting r failure => o = { transaction := r.transaction, result := .error failure }

theorem expects_proceed (m : Manager) (r : Running) {work : Work α} (h : work.IsPlain) :
  ∃ phase journal, proceed m r work = ({ m with journal := journal }, .going phase)
    ∧ phase.Expects (work.outlook r.transaction)
  := by
  induction work generalizing m r with
  | finish result =>
    cases result with
    | ok value => exact ⟨_, m.journal, rfl, rfl⟩
    | error failure => exact ⟨_, m.journal, rfl, rfl⟩
  | perform op next ih => exact ⟨_, m.journal, rfl, h, rfl⟩
  | sleep time next ih => cases h
  | log line next ih => exact ih (m.write line) r h
  | report report next ih => exact ih m { r with reports := r.reports ++ [report] } h

namespace Expects

variable {m : Manager} {run : Run α} {o : Outlook α}

theorem isReady (h : run.Expects o) (now : Nat) :
  run.isReady now = true
  := by
  cases run with
  | sleeping r due next => cases h
  | _ => rfl

/-- A run that has an operation to perform goes on as foreseen, and nothing but the journal
changes. -/
theorem going (h : run.Expects o) {n : Nat} (hn : o.length = n + 1) :
  ∃ phase journal, run.advance m = ({ m with journal := journal }, .going phase)
    ∧ phase.Expects { o with length := n }
  := by
  cases run with
  | beginning options work => cases h
  | sleeping r due next => cases h
  | committing r value =>
    cases h
    cases hn
  | aborting r failure =>
    cases h
    cases hn
  | performing r op next =>
    obtain ⟨⟨hop, hplain⟩, rfl⟩ := h
    obtain ⟨journal, hm⟩ := m.perform_of_not_closing r.transaction hop
    obtain ⟨phase, journal', hp, he⟩ := expects_proceed { m with journal := journal }
      { r with transaction := (r.transaction.perform .empty op).transaction }
      (hplain (r.transaction.perform .empty op).reply)
    refine ⟨phase, journal', ?_, ?_⟩
    · rw [advance, hm, ← hp]
    · cases hn
      exact he

/-- A run that has no operation left to perform commits its transaction or rolls it back. -/
theorem cases_of_length (h : run.Expects o) (hn : o.length = 0) :
  (∃ r value, run = .committing r value ∧ o = { transaction := r.transaction, result := .ok value })
    ∨ ∃ r failure, run = .aborting r failure
      ∧ o = { transaction := r.transaction, result := .error failure }
  := by
  cases run with
  | beginning options work => cases h
  | sleeping r due next => cases h
  | performing r op next =>
    obtain ⟨-, rfl⟩ := h
    cases hn
  | committing r value => exact .inl ⟨r, value, rfl, h⟩
  | aborting r failure => exact .inr ⟨r, failure, rfl, h⟩

/-- A run that goes on after a step had an operation to perform. -/
theorem exists_length (h : run.Expects o) {phase : Run α} (hg : (run.advance m).2 = .going phase) :
  ∃ n, o.length = n + 1
  := by
  cases hn : o.length with
  | zero =>
    have heff := run.effect_advance m
    rw [hg] at heff
    rcases h.cases_of_length hn with ⟨r, value, rfl, -⟩ | ⟨r, failure, rfl, -⟩
    · cases heff
    · cases heff
  | succ n => exact ⟨n, rfl⟩

end Expects

end Run

/-! ### The units of work of the tasks -/

namespace Maintenance

theorem isPlain_clearAll (n : Nat) (collections : List String) :
  (clearAll n collections).IsPlain
  := by
  induction collections generalizing n with
  | nil => trivial
  | cons c rest ih => exact Work.isPlain_require rfl fun removed => ih (n + removed)

theorem isPlain_insertMissing (n : Nat) (records : List StoredRecord) :
  (insertMissing n records).IsPlain
  := by
  induction records generalizing n with
  | nil => trivial
  | cons r rest ih =>
    apply Work.isPlain_require rfl
    intro found
    cases found with
    | some d => exact ih n
    | none => exact Work.isPlain_require rfl fun _ => ih (n + 1)

theorem isPlain_work (now : Instant) (task : Maintenance) :
  (task.work now).IsPlain
  := by
  cases task with
  | reset => exact isPlain_clearAll 0 _
  | seed => exact isPlain_insertMissing 0 _

end Maintenance

/-! ### Steps of a task -/

namespace Manager

/-- Nothing but the journal and the number of transactions that were begun tells two managers
apart. -/
def Resembles (m m' : Manager) : Prop :=
  ∃ journal n, m' = { m with journal := journal, store := { m.store with transactions := n } }

end Manager

/-- A commit makes the writes of its transaction, or fails and counts one error. -/
theorem Run.commit_cases {α : Type} (m : Manager) {r : Running}
    (hopen : r.transaction.finished = false) (value : α) :
  (∃ journal tables, m.store.tables.replay r.transaction.writes = .ok tables
      ∧ commit m r value
        = ({ m with journal := journal, store := { m.store with tables := tables } },
            .done ⟨r.reports, .ok value⟩))
    ∨ ∃ journal e, m.store.tables.replay r.transaction.writes = .error e
      ∧ commit m r value
        = ({ m.recordError (Redaction.sanitize e.message) with journal := journal },
            .done ⟨r.reports, .error (.error e)⟩)
  := by
  have hperform : r.transaction.perform m.store.tables .commit
      = r.transaction.publish m.store.tables := Transaction.perform_of_open hopen _ _
  simp only [commit, Manager.perform, hperform, Transaction.publish, hopen, Bool.false_eq_true,
    if_false]
  cases hreplay : m.store.tables.replay r.transaction.writes with
  | ok tables => exact .inl ⟨_, tables, rfl, rfl⟩
  | error e => exact .inr ⟨_, e, rfl, rfl⟩

/-! ### Tasks among other calls -/

/-- The call with the given number is about to begin the transaction of a task, or its run goes on
as it was foreseen when the transaction was begun. -/
inductive Run.Follows (h : History) (i : Nat) (task : Maintenance) : Run Nat → Prop where
  | beginning (options : Transaction.Options) (now : Instant) :
    Follows h i task (.beginning options (task.work now))
  | begun {phase : Run Nat} (now : Instant) (name : String) (snapshot : Tables) (length : Nat)
      (hb : .begun i snapshot ∈ h)
      (he : phase.Expects
        { (task.work now).outlook (.begin name snapshot) with length := length }) :
    Follows h i task phase

namespace Run.Follows

variable {h : History} {i : Nat} {task : Maintenance} {run phase : Run Nat} {m : Manager}

theorem append (hf : run.Follows h i task) (h' : History) :
  run.Follows (h ++ h') i task
  := by
  cases hf with
  | beginning options now => exact .beginning options now
  | begun now name snapshot length hb he =>
    exact .begun now name snapshot length (List.mem_append_left _ hb) he

theorem isReady (hf : run.Follows h i task) (now : Nat) :
  run.isReady now = true
  := by
  cases hf with
  | beginning options => rfl
  | begun now name snapshot length hb he => apply he.isReady

/-- What a task commits is what it was to make of the contents with which it was begun. -/
theorem committing {r : Running} {value : Nat} (hf : (Run.committing r value).Follows h i task) :
  ∃ now name snapshot, .begun i snapshot ∈ h ∧ r.transaction.finished = false
    ∧ ((task.work now).outlook (.begin name snapshot)).transaction = r.transaction
    ∧ ((task.work now).outlook (.begin name snapshot)).result = .ok value
  := by
  cases hf with
  | begun now name snapshot length hb he =>
    have htx : ((task.work now).outlook (.begin name snapshot)).transaction = r.transaction :=
      congrArg Outlook.transaction he
    have hopen : r.transaction.finished = false := by
      rw [← htx]
      apply Work.finished_outlook (task.isPlain_work now)
    use now, name, snapshot, hb, hopen, htx, congrArg Outlook.result he

/-- A task is rolled back only where it was to fail. -/
theorem aborting {r : Running} {failure : Failure}
    (hf : (Run.aborting r failure).Follows h i task) :
  ∃ now name snapshot,
    ((task.work now).outlook (.begin name snapshot)).result = .error failure
  := by
  cases hf with
  | begun now name snapshot length hb he =>
    use now, name, snapshot, congrArg Outlook.result he

/-- The transaction of a task is begun on the contents of the store. -/
theorem start (task : Maintenance) (hc : m.store.connected = true) (options : Transaction.Options)
    (now : Instant) :
  ∃ phase name journal,
    (Run.beginning options (task.work now)).advance m
      = ({ m with
            store := { m.store with transactions := m.store.transactions + 1 }
            journal := journal },
          .going phase)
    ∧ phase.Expects ((task.work now).outlook (.begin name m.store.tables))
  := by
  simp only [Run.advance, Run.start, Manager.begin, MemoryStore.begin, hc, if_true]
  obtain ⟨phase, journal, hp, he⟩ := expects_proceed _ _ (task.isPlain_work now)
  exact ⟨phase, _, journal, hp, he⟩

/-- A task goes on as foreseen. -/
theorem advance (hf : run.Follows h i task) (hg : (run.advance m).2 = .going phase) :
  phase.Follows (h ++ (run.event? m i).toList) i task
  := by
  cases hf with
  | beginning options now =>
    have heff := (Run.beginning options (task.work now)).effect_advance m
    rw [hg] at heff
    cases heff with
    | begun name hc ht =>
      obtain ⟨phase', name', journal, hp, he⟩ := start task hc options now
      rw [hp] at hg
      cases hg
      apply Run.Follows.begun now name' m.store.tables _ _ he
      simp [Run.event?, hc]
  | begun now name snapshot length hb he =>
    obtain ⟨n, rfl⟩ := he.exists_length hg
    obtain ⟨phase', journal, hp, he'⟩ := he.going (m := m) rfl
    rw [hp] at hg
    cases hg
    exact .begun now name snapshot n (List.mem_append_left _ hb) he'

/-- A task ends with a commit or a rollback. -/
theorem cases_of_done (hf : run.Follows h i task) (hc : m.store.connected = true)
    {r : RunResult Nat} (hd : (run.advance m).2 = .done r) :
  (∃ r value, run = .committing r value) ∨ ∃ r failure, run = .aborting r failure
  := by
  have heff := run.effect_advance m
  rw [hd] at heff
  cases heff with
  | refused reports hn => cases hc.symm.trans hn
  | committed reports => exact .inl ⟨_, _, rfl⟩
  | notCommitted reports => exact .inl ⟨_, _, rfl⟩
  | aborted reports => exact .inr ⟨_, _, rfl⟩

/-- A task leaves no trace until it ends but in the journal. -/
theorem resembles (hf : run.Follows h i task) (hc : m.store.connected = true)
    (hg : (run.advance m).2 = .going phase) :
  m.Resembles (run.advance m).1
  := by
  cases hf with
  | beginning options now =>
    obtain ⟨phase', name, journal, hp, -⟩ := start task hc options now
    rw [hp]
    exact ⟨journal, _, rfl⟩
  | begun now name snapshot length hb he =>
    obtain ⟨n, rfl⟩ := he.exists_length hg
    obtain ⟨phase', journal, hp, -⟩ := he.going (m := m) rfl
    rw [hp]
    exact ⟨journal, m.store.transactions, rfl⟩

end Run.Follows

namespace Traffic

/-- A task goes on as it was foreseen from the contents with which its transaction was begun,
whatever happens beside it. -/
theorem follows_run {first : Traffic} (hf : first.calls = []) (moves : List Move) :
  ∀ i task phase, (first.run moves).call? i = some (.maintaining task phase) →
    phase.Follows (first.history moves) i task
  := by
  apply record_induction (P := fun s h => ∀ i task phase,
    s.call? i = some (.maintaining task phase) → phase.Follows h i task)
  · intro i task phase hc
    simp [call?, hf] at hc
  · intro s h i c hm hk hc hr j task phase hj
    by_cases hij : j = i
    · subst hij
      cases Call.goesOn_of_going (going_of_call?_settle hj) with
      | maintain hp =>
        simp only [Maintenance.start] at hp
        split at hp
        · cases hp
          exact .beginning _ _
        · cases hp
      | maintaining task hp => exact (hk j task _ hc).advance hp
    · rw [call?_settle_of_ne s (Ne.symm hij)] at hj
      exact (hk j task phase hj).append _
  · intro s h move hm hn hk i task phase hc
    have hchange := s.step_change move
    generalize s.step move = s' at hchange hc
    cases hchange with
    | asked r =>
      change (s.step (.ask r)).call? i = _ at hc
      rw [call?_ask] at hc
      split at hc
      · cases r with
        | _ => cases hc
      · exact hk i task phase hc
    | advanced i c hc' hr => exact absurd rfl (hn i)
    | _ => exact hk i task phase hc

end Traffic

/-! ### The calls for a task -/

/-- The task that a request is for. -/
def Request.task? : Request → Option Maintenance
  | maintain task => some task
  | _ => none

/-- The task that a call is for. -/
def Call.task? : Call → Option Maintenance
  | maintain task | maintaining task _ => some task
  | _ => none

theorem Request.task?_call (m : Manager) (r : Request) :
  (r.call m).task? = r.task?
  := by
  cases r with
  | _ => rfl

theorem Call.task?_of_going {m : Manager} {c c' : Call} (h : (c.advance m).2 = .going c') :
  c'.task? = c.task?
  := by
  cases goesOn_of_going h with
  | _ => rfl

namespace Traffic

/-- The request that is made with a move. -/
def Move.request? : Move → Option Request
  | ask r => some r
  | _ => none

/-- The requests that were made, in order. -/
def asked (moves : List Move) : List Request := moves.filterMap Move.request?

theorem asked_append (moves moves' : List Move) :
  asked (moves ++ moves') = asked moves ++ asked moves'
  := List.filterMap_append

theorem asked_concat (moves : List Move) (move : Move) :
  asked (moves ++ [move]) = asked moves ++ move.request?.toList
  := by
  rw [asked_append]
  cases move with
  | _ => rfl

/-- The calls are for what was asked. -/
structure Answers (s : Traffic) (requests : List Request) : Prop where
  length : s.calls.length = requests.length
  task : ∀ i c, s.call? i = some c → c.task? = requests[i]?.bind Request.task?

theorem Answers.beside {s s' : Traffic} {requests : List Request} (h : s.Answers requests)
    (hcalls : s'.calls = s.calls) :
  s'.Answers requests
  := by
  constructor
  · rw [hcalls, h.length]
  · intro i c hc
    apply h.task i c
    rw [← hc, call?, call?, hcalls]

theorem Answers.settle {s : Traffic} {requests : List Request} (h : s.Answers requests) {i : Nat}
    {c : Call} (hc : s.call? i = some c) :
  (s.settle i (c.advance s.manager)).Answers requests
  := by
  constructor
  · rw [length_calls_settle, h.length]
  · intro j c' hc'
    by_cases hij : i = j
    · subst hij
      rw [Call.task?_of_going (going_of_call?_settle hc')]
      apply h.task i c hc
    · rw [call?_settle_of_ne s hij] at hc'
      apply h.task j c' hc'

theorem Answers.ask {s : Traffic} {requests : List Request} (h : s.Answers requests) (r : Request) :
  (s.step (.ask r)).Answers (requests ++ [r])
  := by
  constructor
  · simp [step, h.length]
  · intro j c hc
    rw [call?_ask] at hc
    split at hc
    · next hj =>
      cases hc
      rw [hj, h.length, List.getElem?_concat_length, Option.bind_some, Request.task?_call]
    · next hj =>
      have hlt := lt_length_of_call? hc
      rw [h.length] at hlt
      rw [List.getElem?_append_left hlt]
      apply h.task j c hc

theorem answers_run {first : Traffic} (hf : first.calls = []) (moves : List Move) :
  (first.run moves).Answers (asked moves)
  := by
  induction moves using List.reverseRecOn with
  | nil =>
    constructor
    · simp [hf, asked]
    · intro i c hc
      simp [call?, hf] at hc
  | append_singleton moves move ih =>
    rw [run_concat, asked_concat]
    cases move with
    | ask r => apply ih.ask r
    | advance i =>
      simp only [Move.request?, Option.toList_none, List.append_nil]
      rcases step_advance_cases (fun _ _ _ => (none : Option Unit)) (first.run moves) i with
        ⟨hs, -⟩ | ⟨c, hc, hr⟩
      · rw [hs]
        exact ih
      · rw [step_advance hc hr]
        apply ih.settle hc
    | watch k =>
      simp only [Move.request?, Option.toList_none, List.append_nil]
      apply ih.beside
      simp only [step]
      split
      · split
        · rfl
        · rfl
      · rfl
    | _ =>
      simp only [Move.request?, Option.toList_none, List.append_nil]
      exact ih.beside rfl

end Traffic

/-! ### Tasks return -/

/-- Whether a move goes on with the call with the given number. -/
def Traffic.Move.advances (i : Nat) : Move → Bool
  | advance j => j == i
  | _ => false

/-- What a call that is for the given task returns with its next step, with its number `i`. -/
def Call.returned? (task : Maintenance) (m : Manager) (i : Nat) (c : Call) :
    Option (Nat × Except Failure Nat) :=
  match (c.advance m).2 with
  | .done (.maintained result) => if c.task? = some task then some (i, result) else none
  | _ => none

theorem Call.returned?_eq_some {task : Maintenance} {m : Manager} {i j : Nat} {c : Call}
    {result : Except Failure Nat} (h : c.returned? task m i = some (j, result)) :
  i = j ∧ c.task? = some task ∧ (c.advance m).2 = .done (.maintained result)
  := by
  unfold returned? at h
  split at h
  · next hd =>
    split at h
    · next ht =>
      cases h
      exact ⟨rfl, ht, hd⟩
    · cases h
  · cases h

/-- What the calls for the given task returned, in order. -/
def Traffic.returned (s : Traffic) (task : Maintenance) (moves : List Move) :
    List (Nat × Except Failure Nat) :=
  s.record (shown (Call.returned? task)) moves

theorem Traffic.returned_mono (s : Traffic) (task : Maintenance) {done moves : List Move}
    (h : done <+: moves) :
  s.returned task done <+: s.returned task moves
  := by
  obtain ⟨rest, rfl⟩ := h
  rw [returned, returned, record_append]
  apply List.prefix_append

/-- A run of a task returns after at most `n` steps, where its unit of work performs at most `bound`
operations. -/
inductive Run.Within (task : Maintenance) (bound n : Nat) : Run Nat → Prop where
  | beginning (options : Transaction.Options) (now : Instant) (h : bound + 2 ≤ n) :
    Within task bound n (.beginning options (task.work now))
  | begun {run : Run Nat} (o : Outlook Nat) (he : run.Expects o) (h : o.length + 1 ≤ n) :
    Within task bound n run

theorem Run.Within.advance {task : Maintenance} {bound n : Nat} {run : Run Nat}
    (hbound : ∀ now tx, ((task.work now).outlook tx).length ≤ bound)
    (h : run.Within task bound (n + 1)) (m : Manager) :
  (∃ r, (run.advance m).2 = .done r)
    ∨ ∃ phase, (run.advance m).2 = .going phase ∧ phase.Within task bound n
  := by
  cases h with
  | beginning options now h =>
    cases hc : m.store.connected with
    | false =>
      left
      simp only [Run.advance, start, Manager.begin, MemoryStore.begin, hc, Bool.false_eq_true,
        if_false]
      exact ⟨_, rfl⟩
    | true =>
      obtain ⟨phase, name, journal, hp, he⟩ := Run.Follows.start task hc options now
      have hlength := hbound now (.begin name m.store.tables)
      right
      rw [hp]
      exact ⟨phase, rfl, .begun _ he (by omega)⟩
  | begun o he h =>
    cases hp : (run.advance m).2 with
    | done r => exact .inl ⟨r, rfl⟩
    | going phase =>
      obtain ⟨l, hl⟩ := he.exists_length hp
      obtain ⟨phase', journal, hp', he'⟩ := he.going (m := m) hl
      rw [hp'] at hp
      cases hp
      have hle : l + 1 ≤ n := by omega
      exact .inr ⟨_, rfl, .begun _ he' hle⟩

theorem Run.Within.isReady {task : Maintenance} {bound n : Nat} {run : Run Nat}
    (h : run.Within task bound n) (now : Nat) :
  run.isReady now = true
  := by
  cases h with
  | beginning options => rfl
  | begun o he h => apply he.isReady

theorem Run.Within.pos {task : Maintenance} {bound n : Nat} {run : Run Nat}
    (h : run.Within task bound n) :
  0 < n
  := by
  cases h with
  | beginning options now h => omega
  | begun o he h => omega

namespace Traffic

variable {s : Traffic} {task : Maintenance} {bound i n : Nat}

/-- The call with the given number is for a task, and returns after at most `n` steps. -/
inductive Due (s : Traffic) (task : Maintenance) (bound i n : Nat) : Prop where
  | asked (hc : s.call? i = some (.maintain task)) (h : bound + 3 ≤ n)
  | running (phase : Run Nat) (hc : s.call? i = some (.maintaining task phase))
      (h : phase.Within task bound n)

/-- A call stays as it is while others go on. -/
theorem call?_step {move : Move} (hn : move.advances i = false) {c : Call}
    (h : s.call? i = some c) :
  (s.step move).call? i = some c
  := by
  apply call?_beside h
  rintro ⟨rfl, -⟩
  simp [Move.advances] at hn

theorem Due.beside (h : s.Due task bound i n) {move : Move} (hn : move.advances i = false) :
  (s.step move).Due task bound i n
  := by
  cases h with
  | asked hc h => exact .asked (call?_step hn hc) h
  | running phase hc h => exact .running phase (call?_step hn hc) h

theorem Due.advance (hbound : ∀ now tx, ((task.work now).outlook tx).length ≤ bound)
    (h : s.Due task bound i (n + 1)) :
  (∃ r, s.shown (Call.returned? task) (.advance i) = some (i, r))
    ∨ (s.step (.advance i)).Due task bound i n
  := by
  cases h with
  | asked hc h =>
    rw [step_advance hc rfl, shown_advance _ hc rfl]
    cases hp : (task.start s.manager).2 with
    | done r =>
      left
      use r.outcome
      simp only [Call.returned?, Call.advance, Call.snd_lift_done hp, Call.task?,
        Call.maintenanceResult, if_true]
    | going phase =>
      right
      have hg : ((Call.maintain task).advance s.manager).2 = .going (.maintaining task phase) :=
        Call.snd_lift_going hp
      apply Due.running phase (call?_settle_going (lt_length_of_call? hc) hg)
      simp only [Maintenance.start] at hp
      split at hp
      · cases hp
        exact .beginning _ _ (by omega)
      · cases hp
  | running phase hc h =>
    have hr : (Call.maintaining task phase).isReady s.manager = true := h.isReady _
    rw [step_advance hc hr, shown_advance _ hc hr]
    rcases h.advance hbound s.manager with ⟨r, hp⟩ | ⟨phase', hp, h⟩
    · left
      use r.outcome
      simp only [Call.returned?, Call.advance, Call.snd_lift_done hp, Call.task?,
        Call.maintenanceResult, if_true]
    · right
      have hg : ((Call.maintaining task phase).advance s.manager).2
          = .going (.maintaining task phase') := Call.snd_lift_going hp
      apply Due.running phase' (call?_settle_going (lt_length_of_call? hc) hg) h

theorem Due.pos (h : s.Due task bound i n) :
  0 < n
  := by
  cases h with
  | asked hc h => omega
  | running phase hc h => exact h.pos

/-- A call for a task returns when it has gone on often enough, whatever happens beside it. -/
theorem Due.exists_returned (hbound : ∀ now tx, ((task.work now).outlook tx).length ≤ bound)
    (h : s.Due task bound i n) {moves : List Move} (hn : n ≤ moves.countP (·.advances i)) :
  ∃ r, (i, r) ∈ s.returned task moves
  := by
  induction moves generalizing s n with
  | nil =>
    have hpos := h.pos
    rw [List.countP_nil] at hn
    omega
  | cons move moves ih =>
    rw [List.countP_cons] at hn
    cases ha : move.advances i with
    | false =>
      rw [ha] at hn
      obtain ⟨r, hr⟩ := ih (h.beside ha) hn
      use r
      apply List.mem_append_right _ hr
    | true =>
      cases move with
      | advance j =>
        obtain rfl : j = i := by simpa [Move.advances] using ha
        obtain ⟨n, rfl⟩ := Nat.exists_eq_add_one_of_ne_zero (Nat.ne_zero_of_lt h.pos)
        rcases h.advance hbound with ⟨r, hr⟩ | h
        · use r
          apply List.mem_append_left
          rw [hr]
          apply List.mem_cons_self
        · obtain ⟨r, hr⟩ := ih h (by simp only [ha, if_true] at hn; omega)
          use r
          apply List.mem_append_right _ hr
      | _ => cases ha

end Traffic

end Storekeeper

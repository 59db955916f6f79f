import Storekeeper.Proofs.Manager.Attempts
import Storekeeper.Proofs.Manager.Quiet
import Storekeeper.Proofs.Manager.Runs

/-!
# The errors that are counted

A manager counts three kinds of errors: a probe that fails, of a health check or of a loop; a run of
a unit of work that returns a failure; and a sequence of attempts to connect that is given up.
`Traffic.troubles` lists those of a run, and `Traffic.accounted_play` says that the health report is
exact: it shows how many there were, and the latest one in redacted form.
-/

namespace Storekeeper

/-- The kinds of errors that are counted. -/
inductive TroubleKind where
  | probe
  | run
  | connect
deriving DecidableEq, Repr

/-- An error that is counted. -/
structure Trouble where
  kind : TroubleKind
  message : String
  time : Instant
deriving DecidableEq

/-- What a health report says about errors. -/
structure Tally where
  count : Nat := 0
  latest : Option String := none
  time : Option Instant := none

namespace Tally

/-- What is known after one more error. -/
def add (t : Tally) (trouble : Trouble) : Tally where
  count := t.count + 1
  latest := some (Redaction.sanitize trouble.message)
  time := some trouble.time

/-- What is known after one more error, if there was one. -/
def plus (t : Tally) (trouble? : Option Trouble) : Tally := trouble?.elim t t.add

/-- What is known after some errors, where nothing was known before. -/
theorem foldl_add (troubles : List Trouble) :
  troubles.foldl add {}
    = { count := troubles.length
        latest := troubles.getLast?.map fun t => Redaction.sanitize t.message
        time := troubles.getLast?.map (·.time) }
  := by
  induction troubles using List.reverseRecOn with
  | nil => rfl
  | append_singleton troubles trouble ih => simp [ih, add]

end Tally

/-- What the manager knows of errors. -/
def Manager.tally (m : Manager) : Tally where
  count := m.metrics.errorCount
  latest := m.metrics.lastError
  time := m.metrics.lastErrorAt

/-! ### Probes -/

/-- The error that a probe found out, if it failed. -/
def Probed.trouble? (now : Instant) (p : Probed) : Option Trouble :=
  match p.outcome with
  | .ok () => none
  | .error e => some ⟨.probe, e.message, now⟩

/-- The error with which a probe ends with its next step, if it does. -/
def Probe.trouble? (m : Manager) (probe : Probe) : Option Trouble :=
  match (probe.advance m).2 with
  | .going _ => none
  | .done p => p.trouble? m.instant

theorem Probe.kind_of_trouble? {m : Manager} {probe : Probe} {t : Trouble}
    (h : probe.trouble? m = some t) :
  t.kind = .probe
  := by
  unfold trouble? Probed.trouble? at h
  split at h
  · cases h
  · split at h
    · cases h
    · cases h
      rfl

/-- The error with which the probe of a check ends with its next step, if it does. -/
def Check.trouble? (m : Manager) : Check → Option Trouble
  | probing probe => probe.trouble? m
  | settling _ => none

theorem Check.kind_of_trouble? {m : Manager} {check : Check} {t : Trouble}
    (h : check.trouble? m = some t) :
  t.kind = .probe
  := by
  cases check with
  | probing probe => exact probe.kind_of_trouble? h
  | settling status => cases h

/-- The error with which a regular probe ends with the next step of its loop, if it does. -/
def MonitorLoop.trouble? (m : Manager) (l : MonitorLoop) : Option Trouble :=
  match l.phase with
  | .starting | .waiting _ | .reporting _ _ => none
  | .checking _ check => check.trouble? m

theorem MonitorLoop.kind_of_trouble? {m : Manager} {l : MonitorLoop} {t : Trouble}
    (h : l.trouble? m = some t) :
  t.kind = .probe
  := by
  unfold trouble? at h
  split at h
  · cases h
  · cases h
  · cases h
  · exact Check.kind_of_trouble? h

namespace Manager

theorem tally_recordProbed (m : Manager) (p : Probed) :
  (m.recordProbed p).1.tally = m.tally.plus (p.trouble? m.instant)
  := by
  obtain ⟨outcome, latency⟩ := p
  cases outcome with
  | ok u => rfl
  | error e => rfl

theorem tally_settle (m : Manager) (status : HealthStatus) :
  (m.settle status).tally = m.tally
  := by
  obtain ⟨state, h⟩ := m.settle_eq status
  rw [h]
  rfl

theorem tally_reportHealth (m : Manager) (status : HealthStatus) :
  (m.reportHealth status).tally = m.tally
  := by
  obtain ⟨journal, h⟩ := m.reportHealth_eq status
  rw [h]
  rfl

end Manager

theorem Probe.tally_advance (m : Manager) (probe : Probe) :
  (probe.advance m).1.tally = m.tally
  := by
  obtain ⟨pings, journal, h⟩ := probe.advance_eq m
  rw [h]
  rfl

theorem Check.tally_advance (m : Manager) (check : Check) :
  (check.advance m).1.tally = m.tally.plus (check.trouble? m)
  := by
  have hs := check.step_advance m
  generalize check.advance m = step at hs
  cases hs with
  | @waits probe probe' h =>
    rw [trouble?, Probe.trouble?, h]
    exact probe.tally_advance m
  | @reports probe p h =>
    have hi : (probe.advance m).1.instant = m.instant :=
      Manager.eq_of_outline (probe.outline_advance m) Manager.instant fun _ => rfl
    rw [trouble?, Probe.trouble?, h, Manager.tally_recordProbed, probe.tally_advance, hi]
  | settles status => exact m.tally_settle status

namespace Manager

theorem tally_advanceRegularCheck (m : Manager) (id next : Nat) (check : Check) :
  (m.advanceRegularCheck id next check).tally = m.tally.plus (check.trouble? m)
  := by
  have hc := check.tally_advance m
  unfold advanceRegularCheck
  generalize check.advance m = step at hc
  obtain ⟨m', progress⟩ := step
  rw [← hc]
  cases progress with
  | going check' => rfl
  | done status => rfl

theorem tally_advanceLoop (m : Manager) (l : MonitorLoop) :
  (m.advanceLoop l).tally = m.tally.plus (l.trouble? m)
  := by
  obtain ⟨id, stopping, phase⟩ := l
  cases phase with
  | starting =>
    simp only [advanceLoop]
    split
    · rfl
    · rfl
  | waiting tick =>
    simp only [advanceLoop]
    split
    · rfl
    · rfl
  | checking next check => exact m.tally_advanceRegularCheck id next check
  | reporting next status => exact m.tally_reportHealth status

end Manager

/-! ### Runs of units of work -/

theorem Manager.begin_eq (m : Manager) (options : Transaction.Options) :
  ∃ store journal, (m.begin options).2 = { m with store := store, journal := journal }
  := by
  simp only [begin]
  split
  · exact ⟨_, _, rfl⟩
  · exact ⟨_, _, rfl⟩

theorem Manager.perform_eq (m : Manager) (tx : Transaction) (op : Transaction.Operation) :
  ∃ store journal, (m.perform tx op).2.2 = { m with store := store, journal := journal }
  := by
  simp only [perform]
  split
  · exact ⟨_, m.journal, rfl⟩
  · exact ⟨_, _, rfl⟩

namespace Run

variable {α : Type}

/-- The failure that comes of a run, if it returns with one. -/
def failure? (now : Instant) : Progress (Run α) (RunResult α) → Option Trouble
  | .done ⟨_, .error failure⟩ => some ⟨.run, failure.message, now⟩
  | .going _ | .done ⟨_, .ok _⟩ => none

/-- The failure with which a run returns with its next step, if it does. -/
def trouble? (m : Manager) (run : Run α) : Option Trouble := failure? m.instant (run.advance m).2

theorem kind_of_trouble? {m : Manager} {run : Run α} {t : Trouble}
    (h : run.trouble? m = some t) :
  t.kind = .run
  := by
  unfold trouble? failure? at h
  split at h
  · cases h
    rfl
  · cases h
  · cases h

/-- A run goes on with its unit of work without an error. -/
theorem tally_proceed (m : Manager) (r : Running) (work : Work α) :
  (proceed m r work).1.tally = m.tally.plus (failure? m.instant (proceed m r work).2)
  := by
  induction work generalizing m r with
  | finish result =>
    cases result with
    | ok value => rfl
    | error failure => rfl
  | perform op next ih => rfl
  | sleep time next ih => rfl
  | log line next ih => exact ih (m.write line) r
  | report report next ih => exact ih m _

theorem tally_start (m : Manager) (options : Transaction.Options) (work : Work α) :
  (start m options work).1.tally = m.tally.plus (failure? m.instant (start m options work).2)
  := by
  obtain ⟨store, journal, hb⟩ := m.begin_eq options
  unfold start
  generalize m.begin options = step at hb
  obtain ⟨reply, m'⟩ := step
  subst hb
  cases reply with
  | ok tx => exact tally_proceed _ _ work
  | error e => rfl

theorem tally_commit (m : Manager) (r : Running) (value : α) :
  (commit m r value).1.tally = m.tally.plus (failure? m.instant (commit m r value).2)
  := by
  obtain ⟨store, journal, hp⟩ := m.perform_eq r.transaction .commit
  unfold commit
  generalize m.perform r.transaction .commit = answer at hp
  obtain ⟨reply, tx, m'⟩ := answer
  subst hp
  cases reply with
  | ok u => rfl
  | error e => rfl

theorem tally_abort (m : Manager) (r : Running) (failure : Failure) :
  (abort m r failure : Step α).1.tally
    = m.tally.plus (failure? m.instant (abort m r failure : Step α).2)
  := by
  obtain ⟨store, journal, hp⟩ := m.perform_eq r.transaction .rollback
  unfold abort
  generalize m.perform r.transaction .rollback = answer at hp
  obtain ⟨reply, tx, m'⟩ := answer
  subst hp
  cases reply with
  | ok u => rfl
  | error e => rfl

theorem tally_advance (m : Manager) (run : Run α) :
  (run.advance m).1.tally = m.tally.plus (run.trouble? m)
  := by
  unfold trouble?
  cases run with
  | beginning options work => exact tally_start m options work
  | performing r op next =>
    obtain ⟨store, journal, hp⟩ := m.perform_eq r.transaction op
    simp only [advance]
    generalize m.perform r.transaction op = answer at hp
    obtain ⟨reply, tx, m'⟩ := answer
    subst hp
    exact tally_proceed _ _ _
  | sleeping r due next =>
    simp only [advance]
    split
    · exact tally_proceed m r next
    · rfl
  | committing r value => exact tally_commit m r value
  | aborting r failure => exact tally_abort m r failure

end Run

theorem Maintenance.tally_start (m : Manager) (task : Maintenance) :
  (task.start m).1.tally = m.tally
  := by
  simp only [start]
  split
  · cases task with
    | reset => rfl
    | seed => rfl
  · rfl

theorem Maintenance.tally_finish (m : Manager) (task : Maintenance)
    (outcome : Except Failure Nat) :
  (task.finish m outcome).tally = m.tally
  := by
  cases outcome with
  | error failure => rfl
  | ok n =>
    cases task with
    | reset => rfl
    | seed => rfl

/-! ### Connecting -/

/-- Settings are not rejected as if connecting had been given up. -/
theorem Settings.validate_ne_connection (settings : Settings) (n : Nat) :
  settings.validate ≠ .error (.connection n)
  := by
  unfold validate
  split
  · nofun
  · split
    · nofun
    · split
      · nofun
      · split
        · nofun
        · nofun

namespace Connect

/-- The error of the last attempt of a sequence that is given up with the next step, if it is. -/
def trouble? (m : Manager) : Connect → Option Trouble
  | counting d => some ⟨.connect, d.error.message, m.instant⟩
  | _ => none

theorem tally_fail (m : Manager) (a : Attempt) (e : Error) :
  (m.fail a e).1.tally = m.tally
  := by
  have hf := m.fails_fail a e
  generalize m.fail a e = step at hf
  cases hf with | _ => rfl

theorem tally_conclude (m : Manager) (a : Attempt) (p : Probed) :
  (m.conclude a p).1.tally = m.tally
  := by
  unfold Manager.conclude
  split
  · rfl
  · rfl

theorem tally_advance (m : Manager) (phase : Connect) :
  (phase.advance m).1.tally = m.tally.plus (phase.trouble? m)
  := by
  cases phase with
  | arriving | pausing number failures due | marking d | counting d | crashed => rfl
  | waiting t =>
    simp only [advance, Manager.takeTurn]
    split
    · rfl
    · rfl
  | opening a =>
    have ho := m.openStore_eq
    simp only [advance]
    generalize m.openStore = step at ho
    obtain ⟨reply, m'⟩ := step
    obtain ⟨store, journal, rfl⟩ := ho
    cases reply with
    | ok u => rfl
    | error e => exact tally_fail _ a e
  | probing a probe =>
    have hp := probe.tally_advance m
    simp only [advance]
    split
    · generalize probe.advance m = step at hp
      obtain ⟨m', progress⟩ := step
      cases progress with
      | going probe' => exact hp
      | done p => exact (tally_conclude m' a p).trans hp
    · exact tally_fail m a _
  | closing a e =>
    have hc := m.closeStore_eq
    simp only [advance]
    generalize m.closeStore = step at hc
    obtain ⟨reply, m'⟩ := step
    obtain ⟨store, journal, rfl⟩ := hc
    cases reply with
    | ok u => exact tally_fail _ a e
    | error e' => exact tally_fail _ a e
  | settling a latency =>
    obtain ⟨loops, monitor, fresh, journal, -, h⟩ := m.establish_eq a latency
    rw [advance, h]
    rfl

/-- A call returns an error only when its sequence is given up. -/
theorem counting_of_error {m : Manager} {phase : Connect} {e : Error}
    (h : (phase.advance m).2 = .done (.error e)) :
  ∃ d, phase = counting d ∧ e = .connection d.number
  := by
  have he := phase.effect_advance m
  rw [h] at he
  generalize (phase.advance m).1.state = state at he
  generalize phase.ending? m = ending at he
  cases he with
  | gaveUp => exact ⟨_, rfl, rfl⟩
  | refused hs hf => cases hf
  | timedOut hf => cases hf
  | closed hf => cases hf

/-- A sequence that is given up is counted. -/
theorem trouble?_of_error {m : Manager} {phase : Connect} {e : Error}
    (h : (phase.advance m).2 = .done (.error e)) :
  (∃ n, e = .connection n) ∧ ∃ t, phase.trouble? m = some t ∧ t.kind = .connect
  := by
  obtain ⟨d, rfl, rfl⟩ := counting_of_error h
  exact ⟨⟨d.number, rfl⟩, _, rfl, rfl⟩

theorem exists_of_trouble? {m : Manager} {phase : Connect} {t : Trouble}
    (h : phase.trouble? m = some t) :
  ∃ d, phase = counting d ∧ t = ⟨.connect, d.error.message, m.instant⟩
  := by
  cases phase with
  | counting d =>
    cases h
    exact ⟨d, rfl, rfl⟩
  | _ => cases h

/-- The error that is counted for a sequence is the one that its last attempt is recorded with. -/
theorem attempts_of_trouble? {m : Manager} {phase : Connect} {t : Trouble}
    (h : phase.trouble? m = some t) :
  (phase.advance m).1.attempts.getLast?.map (·.error.text)
    = some (Redaction.sanitize t.message)
  := by
  obtain ⟨d, rfl, rfl⟩ := exists_of_trouble? h
  change Option.map _ (d.failures ++ [d.last]).getLast? = _
  rw [List.getLast?_concat]
  rfl

end Connect

/-! ### Calls -/

theorem StopMonitor.tally_advance (m : Manager) (phase : StopMonitor) :
  (phase.advance m).1.tally = m.tally
  := by
  cases phase with
  | asked =>
    simp only [advance]
    split
    · rfl
    · rfl
  | awaiting loop =>
    obtain ⟨journal, h⟩ := m.logEnd_eq loop
    rw [advance, h]
    rfl

theorem Disconnect.tally_advance (m : Manager) (phase : Disconnect) :
  (phase.advance m).1.tally = m.tally
  := by
  cases phase with
  | stopping phase =>
    have h := phase.tally_advance m
    simp only [advance]
    generalize phase.advance m = step at h
    obtain ⟨m', progress⟩ := step
    cases progress with
    | going phase' => exact h
    | done u => exact h
  | closing =>
    obtain ⟨journal, h⟩ := m.release_eq
    simp only [advance, h]
    rfl
  | marking => rfl

namespace Call

/-- The error that is counted with the next step of a call, if one is. -/
def trouble? (m : Manager) : Call → Option Trouble
  | checkHealth check => check.trouble? m
  | run phase | maintaining _ phase => phase.trouble? m
  | connect _ phase => phase.trouble? m
  | start | stop | disconnect _ _ | stopMonitor _ | askStatus _ | ping _ | maintain _ | sleep _ =>
    none

theorem tally_lift {φ ρ : Type} (phase : φ → Call) (result : Manager → ρ → Manager × Outcome)
    (hr : ∀ m r, (result m r).1.tally = m.tally) (step : Manager × Progress φ ρ) :
  (lift phase result step).1.tally = step.1.tally
  := by
  obtain ⟨m, progress⟩ := step
  cases progress with
  | going p => rfl
  | done r => exact hr m r

/-- A call counts an error exactly with the step in which it happens. -/
theorem tally_advance (m : Manager) (c : Call) :
  (c.advance m).1.tally = m.tally.plus (c.trouble? m)
  := by
  cases c with
  | start =>
    simp only [advance, advanceStart]
    split
    · rfl
    · rfl
  | connect announced phase =>
    obtain ⟨journal, h⟩ := connect_advance_eq m announced phase
    rw [h]
    exact phase.tally_advance m
  | stop => rfl
  | disconnect announced phase =>
    have hl := tally_lift (disconnect announced) (fun m _ => disconnectResult announced m)
      (fun m r => by cases announced with | _ => rfl) (phase.advance m)
    exact hl.trans (phase.tally_advance m)
  | stopMonitor phase =>
    exact (tally_lift _ _ (fun m r => rfl) (phase.advance m)).trans (phase.tally_advance m)
  | checkHealth check =>
    exact (tally_lift _ _ (fun m r => rfl) (check.advance m)).trans (check.tally_advance m)
  | askStatus probe =>
    exact (tally_lift _ _ (fun m r => rfl) (probe.advance m)).trans (probe.tally_advance m)
  | ping probe =>
    exact (tally_lift _ _ (fun m r => rfl) (probe.advance m)).trans (probe.tally_advance m)
  | run phase =>
    exact (tally_lift _ _ (fun m r => rfl) (phase.advance m)).trans (phase.tally_advance m)
  | maintain task =>
    have hl := tally_lift (maintaining task) (maintenanceResult task)
      (fun m r => task.tally_finish m r.outcome) (task.start m)
    exact hl.trans (task.tally_start m)
  | maintaining task phase =>
    have hl := tally_lift (maintaining task) (maintenanceResult task)
      (fun m r => task.tally_finish m r.outcome) (phase.advance m)
    exact hl.trans (phase.tally_advance m)
  | sleep due => rfl

/-- What is counted when a sequence of attempts is given up is counted for calls that connect
only. -/
theorem connects_of_kind {m : Manager} {c : Call} {t : Trouble} (h : c.trouble? m = some t)
    (hk : t.kind = .connect) :
  ∃ announced phase, c = connect announced phase
  := by
  cases c with
  | connect announced phase => exact ⟨announced, phase, rfl⟩
  | checkHealth check =>
    cases hk.symm.trans (check.kind_of_trouble? h)
  | run phase =>
    cases hk.symm.trans (phase.kind_of_trouble? h)
  | maintaining task phase =>
    cases hk.symm.trans (phase.kind_of_trouble? h)
  | _ => cases h

/-- A maintenance task that returns was refused, or what its run returned is counted. -/
theorem trouble?_of_maintained {m : Manager} {c : Call} {r : Except Failure Nat}
    (h : (c.advance m).2 = .done (.maintained r)) :
  (∃ task, c = maintain task ∧ task.permitted.contains m.settings.environment = false)
    ∨ (∃ task phase, c = maintaining task phase)
      ∧ c.trouble? m = Run.failure? m.instant (.done ⟨[], r⟩)
  := by
  cases c with
  | maintain task =>
    obtain ⟨r', hs, -⟩ := done_lift h
    cases hp : task.permitted.contains m.settings.environment with
    | false => exact .inl ⟨task, rfl, hp⟩
    | true =>
      simp only [Maintenance.start, hp, if_true] at hs
      cases hs
  | maintaining task phase =>
    obtain ⟨⟨reports, outcome⟩, hs, ho⟩ := done_lift h
    cases ho
    refine .inr ⟨⟨task, phase, rfl⟩, ?_⟩
    rw [trouble?, Run.trouble?, hs]
    cases outcome with
    | ok n => rfl
    | error failure => rfl
  | start =>
    obtain ⟨e, -, ho⟩ := done_start h
    cases ho
  | connect announced phase =>
    obtain ⟨r', -, ho⟩ := done_connect h
    cases ho
  | stop | sleep => cases h
  | _ =>
    obtain ⟨r', -, ho⟩ := done_lift h
    cases ho

/-- A call returns that it has given up exactly if that is counted. -/
theorem gaveUp_iff {m : Manager} {c : Call} {o : Outcome} (h : (c.advance m).2 = .done o) :
  (∃ n, o.connection? = some (.error (.connection n)))
    ↔ ∃ t, c.trouble? m = some t ∧ t.kind = .connect
  := by
  constructor
  · rintro ⟨n, hn⟩
    cases c with
    | connect announced phase =>
      obtain ⟨r, hr, ho⟩ := done_connect h
      cases hn.symm.trans ho
      exact (Connect.trouble?_of_error hr).2
    | start =>
      obtain ⟨e, hv, rfl⟩ := done_start h
      cases hn
      exact absurd hv (m.settings.validate_ne_connection n)
    | sleep due =>
      cases h
      cases hn
    | stop => cases h
    | disconnect | stopMonitor | checkHealth | askStatus | ping | run | maintain | maintaining =>
      obtain ⟨r, -, rfl⟩ := done_lift h
      cases hn
  · rintro ⟨t, ht, hk⟩
    obtain ⟨announced, phase, rfl⟩ := connects_of_kind ht hk
    obtain ⟨r, hr, ho⟩ := done_connect h
    cases r with
    | ok u =>
      obtain ⟨d, rfl, -⟩ := Connect.exists_of_trouble? ht
      cases hr
    | error e =>
      obtain ⟨⟨n, rfl⟩, -⟩ := Connect.trouble?_of_error hr
      exact ⟨n, ho⟩

end Call

/-! ### Everything that happens -/

namespace Traffic

/-- The error that is counted with what happens next, if one is. -/
def trouble? (s : Traffic) : Beat → Option Trouble
  | .move (.watch k) =>
    match s.manager.loops[k]? with
    | some l => if l.isReady s.manager.now then l.trouble? s.manager else none
    | none => none
  | .move move => s.shown (fun m _ c => c.trouble? m) move
  | .tick _ => none

/-- The errors that are counted in the course of some beats, in order. -/
def troubles (s : Traffic) : List Beat → List Trouble
  | [] => []
  | b :: rest => (s.trouble? b).toList ++ (s.beat b).troubles rest

theorem trouble?_of_advance (s : Traffic) (i : Nat) :
  s.trouble? (.move (.advance i)) = s.shown (fun m _ c => c.trouble? m) (.advance i)
  := rfl

theorem trouble?_advance {s : Traffic} {i : Nat} {c : Call} (hc : s.call? i = some c)
    (hr : c.isReady s.manager = true) :
  s.trouble? (.move (.advance i)) = c.trouble? s.manager
  := (s.trouble?_of_advance i).trans (shown_advance _ hc hr)

theorem tally_beat (s : Traffic) (b : Beat) :
  (s.beat b).manager.tally = s.manager.tally.plus (s.trouble? b)
  := by
  cases b with
  | tick k =>
    rcases s.tick_cases k with hs | ⟨l, tick, next, -, -, hs⟩
    · rw [beat, hs]
      rfl
    · rw [beat, hs]
      rfl
  | move move =>
    cases move with
    | advance i =>
      rcases step_advance_cases (fun m _ c => c.trouble? m) s i with ⟨hs, hn⟩ | ⟨c, hc, hr⟩
      · rw [beat, trouble?_of_advance, hs, hn]
        rfl
      · rw [beat, trouble?_advance hc hr, step_advance hc hr, manager_settle]
        exact c.tally_advance s.manager
    | watch k =>
      simp only [beat, step, trouble?]
      cases s.manager.loops[k]? with
      | none => rfl
      | some l =>
        cases hr : l.isReady s.manager.now with
        | true =>
          simp only [hr, if_true]
          exact s.manager.tally_advanceLoop l
        | false =>
          simp only [hr, Bool.false_eq_true, if_false]
          rfl
    | _ => rfl

/-- The errors of a run are counted one by one. -/
theorem tally_play (s : Traffic) (beats : List Beat) :
  (s.play beats).manager.tally = (s.troubles beats).foldl Tally.add s.manager.tally
  := by
  induction beats generalizing s with
  | nil => rfl
  | cons b rest ih =>
    have hb := s.tally_beat b
    rw [troubles, List.foldl_append]
    change ((s.beat b).play rest).manager.tally = _
    rw [ih, hb]
    cases s.trouble? b with
    | none => rfl
    | some t => rfl

/-- The health report is exact, where `troubles` are the errors that were counted. -/
structure Accounted (s : Traffic) (troubles : List Trouble) : Prop where
  count : s.manager.metrics.errorCount
    = troubles.countP (·.kind = .probe) + troubles.countP (·.kind = .run)
      + troubles.countP (·.kind = .connect)
  lastError : s.manager.metrics.lastError
    = troubles.getLast?.map fun t => Redaction.sanitize t.message
  lastErrorAt : s.manager.metrics.lastErrorAt = troubles.getLast?.map (·.time)
  lastError_isSome : s.manager.metrics.lastError.isSome = true
    ↔ 0 < s.manager.metrics.errorCount
  lastErrorAt_isSome : s.manager.metrics.lastErrorAt.isSome = true
    ↔ 0 < s.manager.metrics.errorCount
  /-- Nothing changes the number of errors but one that is counted. -/
  next : ∀ b, (s.beat b).manager.metrics.errorCount
    = s.manager.metrics.errorCount + (s.trouble? b).toList.length
  grows : ∀ beats, s.manager.metrics.errorCount ≤ (s.play beats).manager.metrics.errorCount
  /-- A failure is counted for exactly the runs that return one. -/
  ran : ∀ i r, s.outcome? i = some (.ran r) →
    s.trouble? (.move (.advance i)) = Run.failure? s.manager.instant (.done r)
  /-- So it is for the runs of maintenance tasks, but not for tasks that are refused. -/
  maintained : ∀ i r, s.outcome? i = some (.maintained r) →
    (∃ task, s.call? i = some (.maintain task)
        ∧ task.permitted.contains s.manager.settings.environment = false
        ∧ s.trouble? (.move (.advance i)) = none)
      ∨ (∃ task phase, s.call? i = some (.maintaining task phase))
        ∧ s.trouble? (.move (.advance i)) = Run.failure? s.manager.instant (.done ⟨[], r⟩)
  /-- Giving up is counted for exactly the calls that return that they gave up. -/
  gaveUp : ∀ i o, s.outcome? i = some o →
    ((∃ n, o.connection? = some (.error (.connection n)))
      ↔ ∃ t, s.trouble? (.move (.advance i)) = some t ∧ t.kind = .connect)
  /-- The error that is counted for a sequence that was given up is that of its last attempt. -/
  lastAttempt : ∀ b t, s.trouble? b = some t → t.kind = .connect →
    (s.beat b).manager.attempts.getLast?.map (·.error.text)
      = some (Redaction.sanitize t.message)

theorem errorCount_beat (s : Traffic) (b : Beat) :
  (s.beat b).manager.metrics.errorCount
    = s.manager.metrics.errorCount + (s.trouble? b).toList.length
  := by
  have h := congrArg Tally.count (s.tally_beat b)
  cases ht : s.trouble? b with
  | none =>
    rw [ht] at h
    exact h
  | some t =>
    rw [ht] at h
    exact h

theorem errorCount_le_play (s : Traffic) (beats : List Beat) :
  s.manager.metrics.errorCount ≤ (s.play beats).manager.metrics.errorCount
  := by
  induction beats generalizing s with
  | nil => exact Nat.le_refl _
  | cons b rest ih =>
    have hb := s.errorCount_beat b
    exact Nat.le_trans (hb ▸ Nat.le_add_right _ _) (ih (s.beat b))

/-- What a loop does is never counted as connecting. -/
theorem connects_of_kind {s : Traffic} {b : Beat} {t : Trouble} (h : s.trouble? b = some t)
    (hk : t.kind = .connect) :
  ∃ i announced phase, b = .move (.advance i) ∧ s.call? i = some (.connect announced phase)
    ∧ phase.isReady s.manager = true ∧ phase.trouble? s.manager = some t
  := by
  cases b with
  | tick k => cases h
  | move move =>
    cases move with
    | advance i =>
      rcases step_advance_cases (fun m _ c => c.trouble? m) s i with ⟨-, hn⟩ | ⟨c, hc, hr⟩
      · cases h.symm.trans hn
      · rw [trouble?_advance hc hr] at h
        obtain ⟨announced, phase, rfl⟩ := Call.connects_of_kind h hk
        exact ⟨i, announced, phase, rfl, hc, hr, h⟩
    | watch k =>
      simp only [trouble?] at h
      split at h
      · next l hl =>
        split at h
        · cases hk.symm.trans (l.kind_of_trouble? h)
        · cases h
      · cases h
    | _ => cases h

theorem attempts_of_kind {s : Traffic} {b : Beat} {t : Trouble} (h : s.trouble? b = some t)
    (hk : t.kind = .connect) :
  (s.beat b).manager.attempts.getLast?.map (·.error.text)
    = some (Redaction.sanitize t.message)
  := by
  obtain ⟨i, announced, phase, rfl, hc, hr, ht⟩ := connects_of_kind h hk
  obtain ⟨journal, hm⟩ := Call.connect_advance_eq s.manager announced phase
  rw [beat, step_advance hc hr, manager_settle, hm]
  exact Connect.attempts_of_trouble? ht

theorem gaveUp_iff {s : Traffic} {i : Nat} {o : Outcome} (h : s.outcome? i = some o) :
  (∃ n, o.connection? = some (.error (.connection n)))
    ↔ ∃ t, s.trouble? (.move (.advance i)) = some t ∧ t.kind = .connect
  := by
  obtain ⟨c, hc, hr, hd⟩ := outcome?_eq_some_iff.mp h
  rw [trouble?_advance hc hr]
  exact Call.gaveUp_iff hd

theorem trouble?_of_ran {s : Traffic} {i : Nat} {r : RunResult Nat}
    (h : s.outcome? i = some (.ran r)) :
  s.trouble? (.move (.advance i)) = Run.failure? s.manager.instant (.done r)
  := by
  obtain ⟨c, hc, hr, hd⟩ := outcome?_eq_some_iff.mp h
  obtain ⟨phase, rfl, hp⟩ := Call.done_ran hd
  rw [trouble?_advance hc hr, Call.trouble?, Run.trouble?, hp]

theorem trouble?_of_maintained {s : Traffic} {i : Nat} {r : Except Failure Nat}
    (h : s.outcome? i = some (.maintained r)) :
  (∃ task, s.call? i = some (.maintain task)
      ∧ task.permitted.contains s.manager.settings.environment = false
      ∧ s.trouble? (.move (.advance i)) = none)
    ∨ (∃ task phase, s.call? i = some (.maintaining task phase))
      ∧ s.trouble? (.move (.advance i)) = Run.failure? s.manager.instant (.done ⟨[], r⟩)
  := by
  obtain ⟨c, hc, hr, hd⟩ := outcome?_eq_some_iff.mp h
  rw [trouble?_advance hc hr, hc]
  rcases Call.trouble?_of_maintained hd with ⟨task, rfl, hp⟩ | ⟨⟨task, phase, rfl⟩, ht⟩
  · exact .inl ⟨task, rfl, hp, rfl⟩
  · exact .inr ⟨⟨task, phase, rfl⟩, ht⟩

/-- Every error is of one of the three kinds. -/
theorem length_eq_countP (troubles : List Trouble) :
  troubles.length
    = troubles.countP (·.kind = .probe) + troubles.countP (·.kind = .run)
      + troubles.countP (·.kind = .connect)
  := by
  induction troubles with
  | nil => rfl
  | cons t rest ih =>
    simp only [List.length_cons, List.countP_cons, ih]
    cases t.kind with
    | probe | run | connect =>
      simp
      omega

/-- The health report of a new manager is exact all the time. -/
theorem accounted_play (settings : Settings) (chance : Chance) (now : Nat) (store : MemoryStore)
    (beats : List Beat) :
  ((opened settings chance now store).play beats).Accounted
    ((opened settings chance now store).troubles beats)
  := by
  have ht := (opened settings chance now store).tally_play beats
  generalize (opened settings chance now store).troubles beats = troubles at ht ⊢
  generalize (opened settings chance now store).play beats = s at ht ⊢
  have hcount : s.manager.metrics.errorCount = troubles.length :=
    congrArg Tally.count (ht.trans (Tally.foldl_add troubles))
  have herror : s.manager.metrics.lastError
      = troubles.getLast?.map fun t => Redaction.sanitize t.message :=
    congrArg Tally.latest (ht.trans (Tally.foldl_add troubles))
  have htime : s.manager.metrics.lastErrorAt = troubles.getLast?.map (·.time) :=
    congrArg Tally.time (ht.trans (Tally.foldl_add troubles))
  constructor
  case count => rw [hcount, length_eq_countP]
  case lastError => exact herror
  case lastErrorAt => exact htime
  case lastError_isSome => simp [herror, hcount, List.length_pos_iff]
  case lastErrorAt_isSome => simp [htime, hcount, List.length_pos_iff]
  case next => exact s.errorCount_beat
  case grows => exact s.errorCount_le_play
  case ran =>
    intro i r hr
    exact trouble?_of_ran hr
  case maintained =>
    intro i r hr
    exact trouble?_of_maintained hr
  case gaveUp =>
    intro i o ho
    exact gaveUp_iff ho
  case lastAttempt =>
    intro b t hb hk
    exact attempts_of_kind hb hk

end Traffic

end Storekeeper

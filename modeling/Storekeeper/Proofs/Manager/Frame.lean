import Storekeeper.Manager.Call

/-!
# What a step leaves alone

Most steps of a call touch little of what a manager holds.  Two summaries say how much that is.
The outline of a manager is all of it but what a run of a unit of work may change: the journal,
the counted errors, the tables of the store and its counts of probes and transactions.  And `Aside`
bounds what any step can do that neither establishes the connection nor gives it back: it takes
nothing but the outcome of a probe into the health of the connection, or reports it as down, it
starts no loop, and it leaves the queue of the callers that connect as it is.
-/

namespace Storekeeper

theorem MemoryStore.begin_snd (s : MemoryStore) (name : String) :
  (s.begin name).2 = { s with transactions := s.transactions + 1 }
  := by
  simp only [begin]
  split
  · rfl
  · rfl

namespace Manager

/-- A manager without what a run of a unit of work may change. -/
def outline (m : Manager) : Manager :=
  { m with
    store :=
      { m.store with tables := .empty, pings := 0, transactions := 0 }
    metrics := { m.metrics with errorCount := 0, lastError := none, lastErrorAt := none }
    journal := [] }

@[simp]
theorem outline_write (m : Manager) (line : LogLine) :
  (m.write line).outline = m.outline
  := rfl

@[simp]
theorem outline_log (m : Manager) (level : Level) (message : String)
    (fields : List (String × Json)) :
  (m.log level message fields).outline = m.outline
  := rfl

@[simp]
theorem outline_recordError (m : Manager) (text : String) :
  (m.recordError text).outline = m.outline
  := rfl

@[simp]
theorem outline_recordFailure (m : Manager) (transaction : Option String) (failure : Failure) :
  (m.recordFailure transaction failure).outline = m.outline
  := rfl

@[simp]
theorem outline_startPing (m : Manager) :
  m.startPing.2.outline = m.outline
  := rfl

@[simp]
theorem outline_endPing (m : Manager) (ping : Ping) :
  (m.endPing ping).2.outline = m.outline
  := rfl

@[simp]
theorem outline_begin (m : Manager) (options : Transaction.Options) :
  (m.begin options).2.outline = m.outline
  := by
  simp only [begin, MemoryStore.begin_snd]
  split
  · rfl
  · rfl

@[simp]
theorem outline_perform (m : Manager) (tx : Transaction) (op : Transaction.Operation) :
  (m.perform tx op).2.2.outline = m.outline
  := by
  simp only [perform]
  split
  · rfl
  · rfl

end Manager

@[simp]
theorem Probe.outline_advance (m : Manager) (probe : Probe) :
  (probe.advance m).1.outline = m.outline
  := by
  cases probe with
  | ready =>
    simp only [advance]
    split
    · simp
    · simp
  | waiting ping => simp [advance]

/-! ### Runs of units of work -/

namespace Run

variable {α : Type}

@[simp]
theorem outline_proceed (m : Manager) (r : Running) (work : Work α) :
  (proceed m r work).1.outline = m.outline
  := by
  induction work generalizing m r with
  | finish result =>
    cases result with
    | ok value => rfl
    | error failure => rfl
  | perform op next ih => rfl
  | sleep time next ih => rfl
  | log line next ih =>
    rw [proceed, ih]
    simp
  | report report next ih => rw [proceed, ih]

@[simp]
theorem outline_fail (m : Manager) (r : Running) (failure : Failure) :
  (fail m r failure : Step α).1.outline = m.outline
  := by
  simp [fail]

@[simp]
theorem outline_start (m : Manager) (options : Transaction.Options) (work : Work α) :
  (start m options work).1.outline = m.outline
  := by
  have h := m.outline_begin options
  unfold start
  split
  · next tx m' hb =>
    rw [hb] at h
    simpa using h
  · next e m' hb =>
    rw [hb] at h
    simpa using h

@[simp]
theorem outline_commit (m : Manager) (r : Running) (value : α) :
  (commit m r value).1.outline = m.outline
  := by
  have h := m.outline_perform r.transaction .commit
  unfold commit
  split
  · next reply tx m' hp =>
    rw [hp] at h
    simpa using h
  · next e tx m' hp =>
    rw [hp] at h
    simpa using h

@[simp]
theorem outline_abort (m : Manager) (r : Running) (failure : Failure) :
  (abort m r failure : Step α).1.outline = m.outline
  := by
  have h := m.outline_perform r.transaction .rollback
  unfold abort
  split
  · next reply tx m' hp =>
    rw [hp] at h
    simpa using h
  · next e tx m' hp =>
    rw [hp] at h
    simpa using h

@[simp]
theorem outline_advance (m : Manager) (run : Run α) :
  (run.advance m).1.outline = m.outline
  := by
  cases run with
  | beginning options work => exact outline_start m options work
  | performing r op next => simp [advance]
  | sleeping r due next =>
    simp only [advance]
    split
    · simp
    · rfl
  | committing r value => exact outline_commit m r value
  | aborting r failure => exact outline_abort m r failure

end Run

namespace Maintenance

@[simp]
theorem outline_start (m : Manager) (task : Maintenance) :
  (task.start m).1.outline = m.outline
  := by
  simp only [start]
  split
  · cases task with
    | reset => rfl
    | seed => rfl
  · rfl

@[simp]
theorem outline_finish (m : Manager) (task : Maintenance) (outcome : Except Failure Nat) :
  (task.finish m outcome).outline = m.outline
  := by
  cases outcome with
  | error e => rfl
  | ok n =>
    cases task with
    | reset => rfl
    | seed => rfl

end Maintenance

/-! ### Probes -/

/-- The ping of a probe that goes on. -/
def Probe.ping (m : Manager) : Probe → Ping
  | ready => m.startPing.1
  | waiting ping => ping

/-- What a probe finds out if it ends now. -/
def Probe.probed (m : Manager) (probe : Probe) : Probed :=
  ⟨(probe.ping m).outcome m.store.connected, m.now - (probe.ping m).started⟩

theorem Probe.advance_done {m : Manager} {probe : Probe} {p : Probed}
    (h : (probe.advance m).2 = .done p) :
  p = probe.probed m
  := by
  cases probe with
  | ready =>
    simp only [advance] at h
    split at h
    · cases h
      rfl
    · cases h
  | waiting ping =>
    cases h
    rfl

theorem Probe.advance_going {m : Manager} {probe probe' : Probe}
    (h : (probe.advance m).2 = .going probe') :
  probe = .ready ∧ probe' = .waiting (probe.ping m)
  := by
  cases probe with
  | ready =>
    simp only [advance] at h
    split at h
    · cases h
    · cases h
      exact ⟨rfl, rfl⟩
  | waiting ping => cases h

theorem Ping.outcome_eq_ok_iff {ping : Ping} {connected : Bool} :
  ping.outcome connected = .ok () ↔ connected = true ∧ ping.fault = none
  := by
  cases connected with
  | true =>
    simp only [outcome, if_true, true_and]
    cases ping.fault with
    | none => simp
    | some text => simp
  | false => simp [outcome]

/-- What a probe says about the health of a connection. -/
def Probed.status (p : Probed) (threshold : Nat) : HealthStatus :=
  match p.outcome with
  | .ok () => .ofLatency p.latency threshold
  | .error _ => .unhealthy

theorem HealthStatus.ofLatency_eq_healthy_iff {latency threshold : Nat} :
  ofLatency latency threshold = .healthy ↔ latency < threshold
  := by
  simp [ofLatency]

theorem HealthStatus.isUp_connectionState (status : HealthStatus) :
  status.connectionState.isUp = true
  := by
  cases status with | _ => rfl

theorem Probed.status_eq_healthy_iff {p : Probed} {threshold : Nat} :
  p.status threshold = .healthy ↔ p.outcome = .ok () ∧ p.latency < threshold
  := by
  unfold status
  split
  · next h => simp [h, HealthStatus.ofLatency_eq_healthy_iff]
  · next e h => simp [h]

/-- What is known of the health of a connection, without its errors. -/
structure Vitals where
  state : ConnectionState
  status : HealthStatus
  /-- The latency of the latest probe, in milliseconds. -/
  responseTime : Nat
  lastSuccessfulProbe : Option Instant

namespace Vitals

/-- What is reported after a probe that ended at `now`. -/
def report (v : Vitals) (now : Instant) (threshold : Nat) (p : Probed) : Vitals :=
  { v with
    status := p.status threshold
    responseTime := p.latency
    lastSuccessfulProbe := if p.outcome.isOk then some now else v.lastSuccessfulProbe }

/-- What is known after the outcome of a probe was written into the state. -/
def settle (v : Vitals) (status : HealthStatus) : Vitals :=
  { v with state := if v.state.isUp then status.connectionState else v.state }

/-- What is known of a connection that is reported as down. -/
def mark (v : Vitals) : Vitals := { v with status := .unhealthy }

/-- A probe has no say in the state of a connection that is not established. -/
theorem settle_of_not_up {v : Vitals} (h : v.state.isUp = false) (status : HealthStatus) :
  v.settle status = v
  := by
  simp [settle, h]

end Vitals

namespace Manager

/-- What the manager knows of the health of its connection. -/
def vitals (m : Manager) : Vitals where
  state := m.state
  status := m.metrics.status
  responseTime := m.metrics.responseTime
  lastSuccessfulProbe := m.metrics.lastSuccessfulProbe

/-- Reporting the outcome of a probe changes nothing but the report, and writes to the log. -/
theorem recordProbed_eq (m : Manager) (p : Probed) :
  ∃ metrics journal,
    (m.recordProbed p).1 = { m with metrics := metrics, journal := journal }
  := by
  unfold recordProbed
  split
  · exact ⟨_, _, rfl⟩
  · exact ⟨_, _, rfl⟩

theorem vitals_recordProbed (m : Manager) (p : Probed) :
  (m.recordProbed p).1.vitals = m.vitals.report m.instant m.threshold p
  := by
  obtain ⟨outcome, latency⟩ := p
  cases outcome with
  | ok u => rfl
  | error e => rfl

theorem recordProbed_snd (m : Manager) (p : Probed) :
  (m.recordProbed p).2 = p.status m.threshold
  := by
  obtain ⟨outcome, latency⟩ := p
  cases outcome with
  | ok u => rfl
  | error e => rfl

theorem settle_eq (m : Manager) (status : HealthStatus) :
  ∃ state, m.settle status = { m with state := state }
  := by
  unfold settle
  split
  · exact ⟨_, rfl⟩
  · exact ⟨m.state, rfl⟩

theorem vitals_settle (m : Manager) (status : HealthStatus) :
  (m.settle status).vitals = m.vitals.settle status
  := by
  by_cases h : m.state.isUp
  · simp [settle, vitals, Vitals.settle, h]
  · simp [settle, vitals, Vitals.settle, h]

end Manager

namespace Check

/-- All that a step of a check can do. -/
inductive Step (m : Manager) : Check → Manager × Progress Check HealthStatus → Prop where
  | waits {probe probe' : Probe} (h : (probe.advance m).2 = .going probe') :
    Step m (.probing probe) ((probe.advance m).1, .going (.probing probe'))
  | reports {probe : Probe} {p : Probed} (h : (probe.advance m).2 = .done p) :
    Step m (.probing probe)
      (((probe.advance m).1.recordProbed p).1, .going (.settling (p.status m.threshold)))
  | settles (status : HealthStatus) : Step m (.settling status) (m.settle status, .done status)

end Check

namespace Manager

/-! ### Steps beside the connection -/

/-- The numbers of the loops. -/
def loopIds (m : Manager) : List Nat := m.loops.map (·.id)

theorem hasLoop_eq_true_iff {m : Manager} {id : Nat} :
  m.hasLoop id = true ↔ id ∈ m.loopIds
  := by
  simp only [hasLoop, loopIds, List.any_eq_true, beq_iff_eq, List.mem_map]

theorem isMonitored_eq_true_iff {m : Manager} :
  m.isMonitored = true ↔ ∃ id ∈ m.loopIds, m.monitor = some id
  := by
  simp only [isMonitored, hasLoop, loopIds, Option.any_eq_true, List.any_eq_true, beq_iff_eq,
    List.mem_map]
  constructor
  · rintro ⟨id, hm, l, hl, rfl⟩
    exact ⟨l.id, ⟨l, hl, rfl⟩, hm⟩
  · rintro ⟨id, ⟨l, hl, rfl⟩, hm⟩
    exact ⟨l.id, hm, l, hl, rfl⟩

/-- What a step, if anything, makes of the health of a connection that it neither establishes nor
gives back.  A probe cannot succeed on a store that is not connected. -/
inductive News (m : Manager) : Vitals → Prop where
  | nothing : News m m.vitals
  | reported (p : Probed) (h : p.outcome = .ok () → m.store.connected = true) :
    News m (m.vitals.report m.instant m.threshold p)
  | settled (status : HealthStatus) : News m (m.vitals.settle status)
  | marked : News m m.vitals.mark

/-- `m'` comes from `m` by a step that neither establishes the connection nor gives it back. -/
structure Aside (m m' : Manager) : Prop where
  settings : m'.settings = m.settings
  chance : m'.chance = m.chance
  attempts : m'.store.connectAttempts = m.store.connectAttempts
  now : m'.now = m.now
  queue : m'.queue = m.queue
  fresh : m'.fresh = m.fresh
  loops : m'.loopIds.Sublist m.loopIds
  monitor : m'.monitor = m.monitor ∨ m'.monitor = none
  connected : m'.store.connected = true → m.store.connected = true
  vitals : m.News m'.vitals

/-- What does not depend on more than the outline is the same where the outline is. -/
theorem eq_of_outline {α : Type} {m m' : Manager} (h : m'.outline = m.outline)
    (f : Manager → α) (hf : ∀ m, f m.outline = f m) :
  f m' = f m
  := by
  rw [← hf m', h, hf m]

theorem vitals_eq_of_outline {m m' : Manager} (h : m'.outline = m.outline) :
  m'.vitals = m.vitals
  := eq_of_outline h vitals fun _ => rfl

theorem connected_eq_of_outline {m m' : Manager} (h : m'.outline = m.outline) :
  m'.store.connected = m.store.connected
  := eq_of_outline h (·.store.connected) fun _ => rfl

theorem loopIds_eq_of_outline {m m' : Manager} (h : m'.outline = m.outline) :
  m'.loopIds = m.loopIds
  := eq_of_outline h loopIds fun _ => rfl

theorem News.of_outline {m m' : Manager} {v : Vitals} (h : m'.outline = m.outline)
    (hn : m'.News v) :
  m.News v
  := by
  have hv := vitals_eq_of_outline h
  have hi : m'.instant = m.instant := eq_of_outline h instant fun _ => rfl
  have ht : m'.threshold = m.threshold := eq_of_outline h threshold fun _ => rfl
  cases hn with
  | nothing =>
    rw [hv]
    exact .nothing
  | reported p hp =>
    rw [hv, hi, ht]
    exact .reported p fun ho => connected_eq_of_outline h ▸ hp ho
  | settled status =>
    rw [hv]
    exact .settled status
  | marked =>
    rw [hv]
    exact .marked

theorem News.state {m : Manager} {v : Vitals} (hn : m.News v) (h : m.state.isUp = false) :
  v.state = m.state
  := by
  cases hn with
  | settled status => exact congrArg Vitals.state (Vitals.settle_of_not_up h status)
  | _ => rfl

namespace Aside

/-- A step that keeps the outline is one beside the connection. -/
theorem of_outline {m m' : Manager} (h : m'.outline = m.outline) :
  m.Aside m'
  where
  settings := eq_of_outline h Manager.settings fun _ => rfl
  chance := eq_of_outline h Manager.chance fun _ => rfl
  attempts := eq_of_outline h (·.store.connectAttempts) fun _ => rfl
  now := eq_of_outline h Manager.now fun _ => rfl
  queue := eq_of_outline h Manager.queue fun _ => rfl
  fresh := eq_of_outline h Manager.fresh fun _ => rfl
  loops := loopIds_eq_of_outline h ▸ List.Sublist.refl m'.loopIds
  monitor := .inl (eq_of_outline h Manager.monitor fun _ => rfl)
  connected hc := connected_eq_of_outline h ▸ hc
  vitals := by
    rw [vitals_eq_of_outline h]
    exact .nothing

/-- Before such a step the outline may be kept for a while. -/
theorem after {m m₁ m' : Manager} (h : m₁.outline = m.outline) (ha : m₁.Aside m') :
  m.Aside m'
  where
  settings := ha.settings.trans (eq_of_outline h Manager.settings fun _ => rfl)
  chance := ha.chance.trans (eq_of_outline h Manager.chance fun _ => rfl)
  attempts := ha.attempts.trans (eq_of_outline h (·.store.connectAttempts) fun _ => rfl)
  now := ha.now.trans (eq_of_outline h Manager.now fun _ => rfl)
  queue := ha.queue.trans (eq_of_outline h Manager.queue fun _ => rfl)
  fresh := ha.fresh.trans (eq_of_outline h Manager.fresh fun _ => rfl)
  loops := loopIds_eq_of_outline h ▸ ha.loops
  monitor := by
    rw [← eq_of_outline h Manager.monitor fun _ => rfl]
    exact ha.monitor
  connected hc := connected_eq_of_outline h ▸ ha.connected hc
  vitals := ha.vitals.of_outline h

/-- After such a step the outline may be kept for a while, or loops may change or end. -/
theorem before {m m₁ m' : Manager} (ha : m.Aside m₁) (ls : List MonitorLoop)
    (hl : (ls.map (·.id)).Sublist m₁.loopIds)
    (h : m'.outline = { m₁ with loops := ls }.outline) :
  m.Aside m'
  where
  settings := (eq_of_outline h Manager.settings fun _ => rfl).trans ha.settings
  chance := (eq_of_outline h Manager.chance fun _ => rfl).trans ha.chance
  attempts := (eq_of_outline h (·.store.connectAttempts) fun _ => rfl).trans ha.attempts
  now := (eq_of_outline h Manager.now fun _ => rfl).trans ha.now
  queue := (eq_of_outline h Manager.queue fun _ => rfl).trans ha.queue
  fresh := (eq_of_outline h Manager.fresh fun _ => rfl).trans ha.fresh
  loops := by
    rw [loopIds_eq_of_outline h]
    exact hl.trans ha.loops
  monitor := by
    rw [eq_of_outline h Manager.monitor fun _ => rfl]
    exact ha.monitor
  connected hc := ha.connected (connected_eq_of_outline h ▸ hc)
  vitals := by
    rw [vitals_eq_of_outline h]
    exact ha.vitals

end Aside

theorem aside_recordProbed (m : Manager) (p : Probed)
    (h : p.outcome = .ok () → m.store.connected = true) :
  m.Aside (m.recordProbed p).1
  := by
  have hv := m.vitals_recordProbed p
  obtain ⟨metrics, journal, hc⟩ := m.recordProbed_eq p
  rw [hc] at hv ⊢
  constructor
  case settings => rfl
  case chance => rfl
  case attempts => rfl
  case now => rfl
  case queue => rfl
  case fresh => rfl
  case loops => exact .refl _
  case monitor => exact .inl rfl
  case connected => exact id
  case vitals =>
    rw [hv]
    exact .reported p h

theorem aside_settle (m : Manager) (status : HealthStatus) :
  m.Aside (m.settle status)
  := by
  have hv := m.vitals_settle status
  obtain ⟨state, hc⟩ := m.settle_eq status
  rw [hc] at hv ⊢
  constructor
  case settings => rfl
  case chance => rfl
  case attempts => rfl
  case now => rfl
  case queue => rfl
  case fresh => rfl
  case loops => exact .refl _
  case monitor => exact .inl rfl
  case connected => exact id
  case vitals =>
    rw [hv]
    exact .settled status

theorem aside_markUnhealthy (m : Manager) :
  m.Aside m.markUnhealthy
  where
  settings := rfl
  chance := rfl
  attempts := rfl
  now := rfl
  queue := rfl
  fresh := rfl
  loops := .refl _
  monitor := .inl rfl
  connected := id
  vitals := .marked

/-- The outcome of a probe that ended is reported. -/
theorem aside_reported {m : Manager} {probe : Probe} {p : Probed}
    (h : (probe.advance m).2 = .done p) :
  m.Aside ((probe.advance m).1.recordProbed p).1
  := by
  apply Aside.after (probe.outline_advance m)
  apply aside_recordProbed
  intro ho
  rw [Probe.advance_done h] at ho
  have hc := (Ping.outcome_eq_ok_iff.mp ho).1
  rw [connected_eq_of_outline (probe.outline_advance m), hc]

end Manager

namespace Check

theorem step_advance (m : Manager) (check : Check) :
  check.Step m (check.advance m)
  := by
  cases check with
  | probing probe =>
    simp only [advance]
    split
    · next m' probe' hp =>
      have hg : (probe.advance m).2 = .going probe' := by rw [hp]
      have hs := Step.waits hg
      rwa [hp] at hs
    · next m' p hp =>
      have hd : (probe.advance m).2 = .done p := by rw [hp]
      have hs := Step.reports hd
      have ht : m'.threshold = m.threshold := by
        have ho := probe.outline_advance m
        rw [hp] at ho
        exact Manager.eq_of_outline ho Manager.threshold fun _ => rfl
      rwa [hp, ← ht, ← m'.recordProbed_snd] at hs
  | settling status => exact .settles status

theorem aside_advance (m : Manager) (check : Check) :
  m.Aside (check.advance m).1
  := by
  have hs := check.step_advance m
  generalize check.advance m = step at hs
  cases hs with
  | waits h => exact .of_outline (Probe.outline_advance m _)
  | reports h => exact Manager.aside_reported h
  | settles status => exact m.aside_settle status

end Check

namespace Manager

/-! ### Loops -/

@[simp]
theorem loopIds_modifyLoop (m : Manager) (id : Nat) (f : MonitorLoop → MonitorLoop)
    (h : ∀ l, (f l).id = l.id) :
  (m.modifyLoop id f).loopIds = m.loopIds
  := by
  simp only [loopIds, modifyLoop, List.map_map]
  apply List.map_congr_left
  intro l hl
  by_cases hi : l.id = id
  · simp [hi, h]
  · simp [hi]

theorem Aside.modifyLoop {m m' : Manager} (h : m.Aside m') (id : Nat)
    (f : MonitorLoop → MonitorLoop) (hf : ∀ l, (f l).id = l.id) :
  m.Aside (m'.modifyLoop id f)
  := by
  apply h.before (m'.modifyLoop id f).loops
  · exact loopIds_modifyLoop m' id f hf ▸ List.Sublist.refl _
  · rfl

theorem aside_endLoop (m : Manager) (id : Nat) :
  m.Aside (m.endLoop id)
  := by
  apply (Aside.of_outline rfl : m.Aside m).before (m.endLoop id).loops
  · exact List.filter_sublist.map _
  · rfl

theorem outline_reportHealth (m : Manager) (status : HealthStatus) :
  (m.reportHealth status).outline = m.outline
  := by
  cases status with
  | healthy => rfl
  | degraded => rfl
  | unhealthy => rfl

theorem aside_advanceRegularCheck (m : Manager) (id next : Nat) (check : Check) :
  m.Aside (m.advanceRegularCheck id next check)
  := by
  have ha := check.aside_advance m
  unfold advanceRegularCheck
  split
  · next m' check' hc =>
    rw [hc] at ha
    exact ha.modifyLoop id _ fun l => rfl
  · next m' status hc =>
    rw [hc] at ha
    exact ha.modifyLoop id _ fun l => rfl

theorem aside_advanceLoop (m : Manager) (l : MonitorLoop) :
  m.Aside (m.advanceLoop l)
  := by
  have hm : m.Aside m := .of_outline rfl
  unfold advanceLoop
  split
  · split
    · exact aside_endLoop m l.id
    · exact hm.modifyLoop l.id _ fun l => rfl
  · split
    · exact aside_endLoop m l.id
    · exact hm.modifyLoop l.id _ fun l => rfl
  · exact aside_advanceRegularCheck m l.id _ _
  · next status _ =>
    exact (Aside.of_outline (outline_reportHealth m status)).modifyLoop l.id _ fun l => rfl

theorem logEnd_eq (m : Manager) (loop : Nat) :
  ∃ journal, m.logEnd loop = { m with journal := journal }
  := by
  simp only [logEnd]
  split
  · exact ⟨_, rfl⟩
  · exact ⟨_, rfl⟩

end Manager

theorem StopMonitor.aside_advance (m : Manager) (phase : StopMonitor) :
  m.Aside (phase.advance m).1
  := by
  cases phase with
  | asked =>
    simp only [advance]
    split
    · exact .of_outline rfl
    · next id h =>
      have hn : m.Aside ({ m with monitor := none }.log .info
          "🛑 Stopping database health monitoring...") := by
        constructor
        case settings => rfl
        case chance => rfl
        case attempts => rfl
        case now => rfl
        case queue => rfl
        case fresh => rfl
        case loops => exact .refl _
        case monitor => exact .inr rfl
        case connected => intro hc; exact hc
        case vitals => exact .nothing
      exact hn.modifyLoop id _ fun l => rfl
  | awaiting loop =>
    obtain ⟨journal, h⟩ := m.logEnd_eq loop
    simp only [advance, h]
    exact .of_outline rfl

/-! ### The store -/

/-- A probe changes the number of probes and the journal only. -/
theorem Probe.advance_eq (m : Manager) (probe : Probe) :
  ∃ pings journal,
    (probe.advance m).1 = { m with store := { m.store with pings := pings }, journal := journal }
  := by
  cases probe with
  | ready =>
    simp only [advance]
    split
    · exact ⟨_, _, rfl⟩
    · exact ⟨_, _, rfl⟩
  | waiting ping => exact ⟨m.store.pings, _, rfl⟩

theorem Probe.store_advance (m : Manager) (probe : Probe) :
  ∃ pings, (probe.advance m).1.store = { m.store with pings := pings }
  := by
  obtain ⟨pings, journal, h⟩ := probe.advance_eq m
  exact ⟨pings, congrArg Manager.store h⟩

/-- A check changes the health of the connection, the number of probes and the journal only. -/
theorem Check.advance_eq (m : Manager) (check : Check) :
  ∃ pings metrics state journal,
    (check.advance m).1
      = { m with
          store := { m.store with pings := pings }
          metrics := metrics
          state := state
          journal := journal }
  := by
  have hs := check.step_advance m
  generalize check.advance m = step at hs
  cases hs with
  | @waits probe probe' h =>
    obtain ⟨pings, journal, hp⟩ := probe.advance_eq m
    exact ⟨pings, m.metrics, m.state, journal, hp⟩
  | @reports probe p h =>
    obtain ⟨pings, journal, hp⟩ := probe.advance_eq m
    obtain ⟨metrics, journal', hr⟩ := (probe.advance m).1.recordProbed_eq p
    refine ⟨pings, metrics, m.state, journal', ?_⟩
    rw [hr, hp]
  | settles status =>
    obtain ⟨state, hc⟩ := m.settle_eq status
    exact ⟨m.store.pings, m.metrics, state, m.journal, hc⟩

theorem Check.store_advance (m : Manager) (check : Check) :
  ∃ pings, (check.advance m).1.store = { m.store with pings := pings }
  := by
  obtain ⟨pings, metrics, state, journal, h⟩ := check.advance_eq m
  exact ⟨pings, congrArg Manager.store h⟩

theorem Manager.reportHealth_eq (m : Manager) (status : HealthStatus) :
  ∃ journal, m.reportHealth status = { m with journal := journal }
  := by
  cases status with
  | healthy => exact ⟨_, rfl⟩
  | degraded => exact ⟨_, rfl⟩
  | unhealthy => exact ⟨_, rfl⟩

/-- A loop changes the health of the connection, the number of probes, the loops and the journal
only. -/
theorem Manager.advanceLoop_eq (m : Manager) (l : MonitorLoop) :
  ∃ pings metrics state loops journal,
    m.advanceLoop l
      = { m with
          store := { m.store with pings := pings }
          metrics := metrics
          state := state
          loops := loops
          journal := journal }
  := by
  unfold advanceLoop
  split
  · split
    · exact ⟨m.store.pings, _, _, _, _, rfl⟩
    · exact ⟨m.store.pings, _, _, _, _, rfl⟩
  · split
    · exact ⟨m.store.pings, _, _, _, _, rfl⟩
    · exact ⟨m.store.pings, _, _, _, _, rfl⟩
  · next next check hphase =>
    obtain ⟨pings, metrics, state, journal, hc⟩ := check.advance_eq m
    unfold advanceRegularCheck
    generalize check.advance m = step at hc
    obtain ⟨m', progress⟩ := step
    subst hc
    cases progress with
    | going check' => exact ⟨pings, _, _, _, _, rfl⟩
    | done status => exact ⟨pings, _, _, _, _, rfl⟩
  · next next status hphase =>
    obtain ⟨journal, hr⟩ := m.reportHealth_eq status
    rw [hr]
    exact ⟨m.store.pings, _, _, _, journal, rfl⟩

theorem StopMonitor.store_advance (m : Manager) (phase : StopMonitor) :
  (phase.advance m).1.store = m.store
  := by
  cases phase with
  | asked =>
    simp only [advance]
    split
    · rfl
    · rfl
  | awaiting loop =>
    obtain ⟨journal, h⟩ := m.logEnd_eq loop
    rw [advance, h]

theorem Maintenance.store_start (m : Manager) (task : Maintenance) :
  (task.start m).1.store = m.store
  := by
  simp only [start]
  split
  · cases task with
    | reset => rfl
    | seed => rfl
  · rfl

theorem Maintenance.store_finish (m : Manager) (task : Maintenance)
    (outcome : Except Failure Nat) :
  (task.finish m outcome).store = m.store
  := by
  cases outcome with
  | error e => rfl
  | ok n =>
    cases task with
    | reset => rfl
    | seed => rfl

/-! ### Calls -/

namespace Call

theorem store_lift {φ ρ : Type} (phase : φ → Call) (result : Manager → ρ → Manager × Outcome)
    (hr : ∀ m r, (result m r).1.store = m.store) (step : Manager × Progress φ ρ) :
  (lift phase result step).1.store = step.1.store
  := by
  obtain ⟨m, progress⟩ := step
  cases progress with
  | going p => rfl
  | done r => exact hr m r

/-- Whether the next step of a call may establish the connection or give it back. -/
def isDecisive : Call → Bool
  | connect _ .crashed => false
  | connect _ _ | disconnect _ .closing => true
  | _ => false

theorem going_lift {φ ρ : Type} {phase : φ → Call} {result : Manager → ρ → Manager × Outcome}
    {step : Manager × Progress φ ρ} {c : Call} (h : (lift phase result step).2 = .going c) :
  ∃ p, step.2 = .going p ∧ c = phase p
  := by
  obtain ⟨m', progress⟩ := step
  cases progress with
  | going p =>
    cases h
    exact ⟨p, rfl, rfl⟩
  | done r => cases h

theorem done_lift {φ ρ : Type} {phase : φ → Call} {result : Manager → ρ → Manager × Outcome}
    {step : Manager × Progress φ ρ} {o : Outcome} (h : (lift phase result step).2 = .done o) :
  ∃ r, step.2 = .done r ∧ o = (result step.1 r).2
  := by
  obtain ⟨m', progress⟩ := step
  cases progress with
  | going p => cases h
  | done r =>
    cases h
    exact ⟨r, rfl, rfl⟩

/-- A call that checks the settings returns only where they are rejected. -/
theorem done_start {m : Manager} {o : Outcome} (h : (start.advance m).2 = .done o) :
  ∃ e, m.settings.validate = .error e ∧ o = .started (.error e)
  := by
  simp only [advance, advanceStart] at h
  split at h
  · next e hv =>
    cases h
    exact ⟨e, hv, rfl⟩
  · cases h

theorem snd_lift_going {φ ρ : Type} {phase : φ → Call}
    {result : Manager → ρ → Manager × Outcome} {step : Manager × Progress φ ρ} {p : φ}
    (h : step.2 = .going p) :
  (lift phase result step).2 = .going (phase p)
  := by
  obtain ⟨m', progress⟩ := step
  cases h
  rfl

theorem snd_lift_done {φ ρ : Type} {phase : φ → Call}
    {result : Manager → ρ → Manager × Outcome} {step : Manager × Progress φ ρ} {r : ρ}
    (h : step.2 = .done r) :
  (lift phase result step).2 = .done (result step.1 r).2
  := by
  obtain ⟨m', progress⟩ := step
  cases h
  rfl

/-- All ways in which a call goes on after a step. -/
inductive GoesOn (m : Manager) : Call → Call → Prop where
  | start (h : m.settings.validate = .ok ()) : GoesOn m start (connect true .arriving)
  | connect (announced : Bool) {phase phase' : Connect} (h : (phase.advance m).2 = .going phase') :
    GoesOn m (connect announced phase) (connect announced phase')
  | stop : GoesOn m stop (disconnect true (.stopping .asked))
  | disconnect (announced : Bool) {phase phase' : Disconnect}
      (h : (phase.advance m).2 = .going phase') :
    GoesOn m (disconnect announced phase) (disconnect announced phase')
  | stopMonitor {phase phase' : StopMonitor} (h : (phase.advance m).2 = .going phase') :
    GoesOn m (stopMonitor phase) (stopMonitor phase')
  | checkHealth {check check' : Check} (h : (check.advance m).2 = .going check') :
    GoesOn m (checkHealth check) (checkHealth check')
  | askStatus {probe probe' : Probe} (h : (probe.advance m).2 = .going probe') :
    GoesOn m (askStatus probe) (askStatus probe')
  | ping {probe probe' : Probe} (h : (probe.advance m).2 = .going probe') :
    GoesOn m (ping probe) (ping probe')
  | run {phase phase' : Run Nat} (h : (phase.advance m).2 = .going phase') :
    GoesOn m (run phase) (run phase')
  | maintain {task : Maintenance} {phase : Run Nat} (h : (task.start m).2 = .going phase) :
    GoesOn m (maintain task) (maintaining task phase)
  | maintaining (task : Maintenance) {phase phase' : Run Nat}
      (h : (phase.advance m).2 = .going phase') :
    GoesOn m (maintaining task phase) (maintaining task phase')

theorem goesOn_of_going {m : Manager} {c c' : Call} (h : (c.advance m).2 = .going c') :
  c.GoesOn m c'
  := by
  cases c with
  | start =>
    simp only [advance, advanceStart] at h
    split at h
    · cases h
    · next hv =>
      cases h
      exact .start hv
  | connect announced phase =>
    obtain ⟨phase', hp, rfl⟩ := going_lift h
    exact .connect announced hp
  | stop =>
    cases h
    exact .stop
  | disconnect announced phase =>
    obtain ⟨phase', hp, rfl⟩ := going_lift h
    exact .disconnect announced hp
  | stopMonitor phase =>
    obtain ⟨phase', hp, rfl⟩ := going_lift h
    exact .stopMonitor hp
  | checkHealth check =>
    obtain ⟨check', hc, rfl⟩ := going_lift h
    exact .checkHealth hc
  | askStatus probe =>
    obtain ⟨probe', hp, rfl⟩ := going_lift h
    exact .askStatus hp
  | ping probe =>
    obtain ⟨probe', hp, rfl⟩ := going_lift h
    exact .ping hp
  | run phase =>
    obtain ⟨phase', hp, rfl⟩ := going_lift h
    exact .run hp
  | maintain task =>
    obtain ⟨phase', hp, rfl⟩ := going_lift h
    exact .maintain hp
  | maintaining task phase =>
    obtain ⟨phase', hp, rfl⟩ := going_lift h
    exact .maintaining task hp
  | sleep due => cases h

theorem aside_lift {φ ρ : Type} (phase : φ → Call) (result : Manager → ρ → Manager × Outcome)
    {m : Manager} {step : Manager × Progress φ ρ} (h : m.Aside step.1)
    (hr : ∀ r, step.2 = .done r → m.Aside (result step.1 r).1) :
  m.Aside (lift phase result step).1
  := by
  obtain ⟨m', progress⟩ := step
  cases progress with
  | going p => exact h
  | done r => exact hr r rfl

theorem outline_lift {φ ρ : Type} (phase : φ → Call) (result : Manager → ρ → Manager × Outcome)
    (hr : ∀ m r, (result m r).1.outline = m.outline) {m : Manager}
    {step : Manager × Progress φ ρ} (h : step.1.outline = m.outline) :
  (lift phase result step).1.outline = m.outline
  := by
  obtain ⟨m', progress⟩ := step
  cases progress with
  | going p => exact h
  | done r => exact (hr m' r).trans h

/-- A call whose step is not decisive leaves the connection to others. -/
theorem aside_advance (m : Manager) (c : Call) (h : c.isDecisive = false) :
  m.Aside (c.advance m).1
  := by
  cases c with
  | start =>
    simp only [advance, advanceStart]
    split
    · exact .of_outline rfl
    · exact .of_outline rfl
  | connect announced phase =>
    cases phase with
    | crashed => exact .of_outline rfl
    | _ => cases h
  | stop => exact .of_outline rfl
  | disconnect announced phase =>
    cases phase with
    | stopping phase =>
      have ha := phase.aside_advance m
      simp only [advance, Disconnect.advance]
      split
      · next hp => simpa [lift, hp] using ha
      · next hp => simpa [lift, hp] using ha
    | closing => cases h
    | marking =>
      apply aside_lift (disconnect announced)
      · apply m.aside_markUnhealthy.before m.loops (.refl _)
        rfl
      · intro r hd
        apply m.aside_markUnhealthy.before m.loops (.refl _)
        cases announced with
        | false => rfl
        | true => rfl
  | stopMonitor phase =>
    have ha := phase.aside_advance m
    exact aside_lift _ _ ha fun r hd => ha
  | checkHealth check =>
    have ha := check.aside_advance m
    exact aside_lift _ _ ha fun _ _ => ha
  | askStatus phase =>
    exact .of_outline (outline_lift _ _ (fun m r => rfl) (phase.outline_advance m))
  | ping phase =>
    exact .of_outline (outline_lift _ _ (fun m r => rfl) (phase.outline_advance m))
  | run phase =>
    exact .of_outline (outline_lift _ _ (fun m r => rfl) (phase.outline_advance m))
  | maintain task =>
    exact .of_outline (outline_lift _ _ (fun m r => task.outline_finish m _)
      (task.outline_start m))
  | maintaining task phase =>
    exact .of_outline (outline_lift _ _ (fun m r => task.outline_finish m _)
      (phase.outline_advance m))
  | sleep due => exact .of_outline rfl

end Call

end Storekeeper

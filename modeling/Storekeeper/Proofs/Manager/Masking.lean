import Storekeeper.Proofs.Manager.Quiet

/-!
# Other texts for the failures of a store

The failures that are planned for a store have texts of their own.  A `Mask` replaces them by texts
which the retry policy treats in the same way and which have the same redacted form.  Whatever
happens commutes with it, and that without a difference in what is written to the journal:
`Traffic.mask_beat`.
-/

namespace Storekeeper

/-- A replacement of the texts of failures by others that have the same redacted form. -/
structure Mask where
  /-- What replaces the text of a failure to connect, or of a probe. -/
  store : String → String
  /-- What replaces the text of a failure to disconnect. -/
  disconnect : String → String
  isTransientMessage_store (text : String) :
    isTransientMessage (store text) = isTransientMessage text
  sanitize_store (text : String) :
    Redaction.sanitize (Error.store .other (store text)).message
      = Redaction.sanitize (Error.store .other text).message
  sanitize_disconnect (text : String) :
    Redaction.sanitize (Error.disconnect (disconnect text)).message
      = Redaction.sanitize (Error.disconnect text).message

/-- What has come of a call, with the phase and the result replaced. -/
def Progress.map {φ φ' ρ ρ' : Type} (f : φ → φ') (g : ρ → ρ') : Progress φ ρ → Progress φ' ρ'
  | going phase => going (f phase)
  | done result => done (g result)

theorem Progress.map_id {φ ρ : Type} (progress : Progress φ ρ) :
  progress.map id id = progress
  := by
  cases progress with
  | going phase => rfl
  | done result => rfl

variable (k : Mask)

/-! ### Errors -/

namespace Error

/-- An error with its text replaced, if the store may have failed with it. -/
def mask : Error → Error
  | store .other text => store .other (k.store text)
  | disconnect text => disconnect (k.disconnect text)
  | e => e

@[simp]
theorem sanitize_mask (e : Error) :
  Redaction.sanitize (e.mask k).message = Redaction.sanitize e.message
  := by
  unfold mask
  split
  · exact k.sanitize_store _
  · exact k.sanitize_disconnect _
  · rfl

@[simp]
theorem ofError_mask (e : Error) :
  Redaction.ofError (e.mask k) = Redaction.ofError e
  := by
  simp [Redaction.ofError, Redaction.sanitizeChain]

@[simp]
theorem isRetriable_mask (e : Error) :
  RetryPolicy.isRetriable (e.mask k) = RetryPolicy.isRetriable e
  := by
  unfold mask
  split
  · exact k.isTransientMessage_store _
  · rfl
  · rfl

@[simp]
theorem sequel_mask (policy : RetryPolicy) (draw : UInt64) (number : Nat) (e : Error) :
  policy.sequel draw number (e.mask k) = policy.sequel draw number e
  := by
  simp [RetryPolicy.sequel]

end Error

/-- An answer of the store with the text of its failure replaced. -/
def maskReply (r : Except Error Unit) : Except Error Unit := r.mapError (Error.mask k)

@[simp]
theorem isOk_maskReply (r : Except Error Unit) :
  (maskReply k r).isOk = r.isOk
  := by
  cases r with
  | ok u => rfl
  | error e => rfl

/-! ### The store -/

namespace ConnectFault

/-- A plan with the text of its failures replaced. -/
def mask : ConnectFault → ConnectFault
  | none => none
  | next times text => next times (k.store text)
  | always text => always (k.store text)

theorem text?_mask (fault : ConnectFault) :
  (fault.mask k).text? = fault.text?.map k.store
  := by
  cases fault with
  | none | always => rfl
  | next times text =>
    cases times with
    | zero => rfl
    | succ n => rfl

theorem after_mask (fault : ConnectFault) :
  (fault.mask k).after = fault.after.mask k
  := by
  cases fault with
  | none | always | next => rfl

end ConnectFault

/-- Planned failures with their texts replaced. -/
def Faults.mask (faults : Faults) : Faults where
  connect := faults.connect.mask k
  ping := faults.ping.map k.store
  disconnect := faults.disconnect.map k.disconnect
  latency := faults.latency

/-- A probe in progress with the text of its planned failure replaced. -/
def Ping.mask (ping : Ping) : Ping := { ping with fault := ping.fault.map k.store }

theorem Ping.outcome_mask (ping : Ping) (connected : Bool) :
  (ping.mask k).outcome connected = maskReply k (ping.outcome connected)
  := by
  cases connected with
  | false => rfl
  | true =>
    cases h : ping.fault with
    | none => simp [outcome, mask, maskReply, h, Except.mapError]
    | some text => simp [outcome, mask, maskReply, h, Except.mapError, Error.mask]

namespace MemoryStore

/-- A store with the texts of its planned failures replaced. -/
def mask (s : MemoryStore) : MemoryStore := { s with faults := s.faults.mask k }

theorem connect_mask (s : MemoryStore) :
  (s.mask k).connect = (maskReply k s.connect.1, s.connect.2.mask k)
  := by
  have ht : (s.mask k).faults.connect.text? = s.faults.connect.text?.map k.store :=
    s.faults.connect.text?_mask k
  have ha : (s.mask k).faults.connect.after = s.faults.connect.after.mask k :=
    s.faults.connect.after_mask k
  simp only [connect, ht, ha]
  cases s.faults.connect.text? with
  | none => rfl
  | some text => rfl

theorem disconnect_mask (s : MemoryStore) :
  (s.mask k).disconnect = (maskReply k s.disconnect.1, s.disconnect.2.mask k)
  := by
  have hf : (s.mask k).faults.disconnect = s.faults.disconnect.map k.disconnect := rfl
  simp only [disconnect, hf]
  cases s.faults.disconnect with
  | none => rfl
  | some text => rfl

theorem begin_mask (s : MemoryStore) (name : String) :
  (s.mask k).begin name = ((s.begin name).1, (s.begin name).2.mask k)
  := by
  have hc : (s.mask k).connected = s.connected := rfl
  cases h : s.connected with
  | true =>
    simp only [begin, hc, h, if_true]
    rfl
  | false =>
    simp only [begin, hc, h, Bool.false_eq_true, if_false]
    rfl

end MemoryStore

/-! ### Probes and loops -/

/-- A probe with the text of its planned failure replaced. -/
def Probe.mask : Probe → Probe
  | ready => ready
  | waiting ping => waiting (ping.mask k)

/-- A check with the text of the planned failure of its probe replaced. -/
def Check.mask : Check → Check
  | probing probe => probing (probe.mask k)
  | settling status => settling status

/-- What a probe found out, with the text of its failure replaced. -/
def Probed.mask (p : Probed) : Probed := { p with outcome := maskReply k p.outcome }

/-- A loop with the text of the planned failure of its probe replaced. -/
def MonitorLoop.mask (l : MonitorLoop) : MonitorLoop :=
  { l with
    phase :=
      match l.phase with
      | .checking next check => .checking next (check.mask k)
      | phase => phase }

namespace Manager

/-- A manager with the texts of failures replaced. -/
def mask (m : Manager) : Manager :=
  { m with store := m.store.mask k, loops := m.loops.map (·.mask k) }

@[simp]
theorem settings_mask (m : Manager) :
  (m.mask k).settings = m.settings
  := rfl

@[simp]
theorem chance_mask (m : Manager) :
  (m.mask k).chance = m.chance
  := rfl

@[simp]
theorem now_mask (m : Manager) :
  (m.mask k).now = m.now
  := rfl

@[simp]
theorem state_mask (m : Manager) :
  (m.mask k).state = m.state
  := rfl

@[simp]
theorem monitor_mask (m : Manager) :
  (m.mask k).monitor = m.monitor
  := rfl

@[simp]
theorem period_mask (m : Manager) :
  (m.mask k).period = m.period
  := rfl

@[simp]
theorem connectAttempts_mask (m : Manager) :
  (m.mask k).store.connectAttempts = m.store.connectAttempts
  := rfl

theorem openStore_mask (m : Manager) :
  (m.mask k).openStore = (maskReply k m.openStore.1, m.openStore.2.mask k)
  := by
  have hc : (m.mask k).store.connect = _ := m.store.connect_mask k
  simp only [openStore, hc, emitCall, isOk_maskReply]
  rfl

theorem closeStore_mask (m : Manager) :
  (m.mask k).closeStore = (maskReply k m.closeStore.1, m.closeStore.2.mask k)
  := by
  have hc : (m.mask k).store.disconnect = _ := m.store.disconnect_mask k
  simp only [closeStore, hc, emitCall, isOk_maskReply]
  rfl

theorem endPing_mask (m : Manager) (ping : Ping) :
  (m.mask k).endPing (ping.mask k) = ((m.endPing ping).1.mask k, (m.endPing ping).2.mask k)
  := by
  have ho : (ping.mask k).outcome (m.mask k).store.connected = _ :=
    ping.outcome_mask k m.store.connected
  simp only [endPing, ho, emitCall, isOk_maskReply]
  rfl

end Manager

theorem Probe.advance_mask (m : Manager) (probe : Probe) :
  (probe.mask k).advance (m.mask k)
    = ((probe.advance m).1.mask k, (probe.advance m).2.map (mask k) (Probed.mask k))
  := by
  cases probe with
  | waiting ping => simp only [mask, advance, Manager.endPing_mask, Progress.map]
  | ready =>
    have hp : (m.mask k).startPing = (m.startPing.1.mask k, m.startPing.2.mask k) := rfl
    simp only [mask, advance, hp, Manager.endPing_mask]
    change (if m.startPing.1.due ≤ m.startPing.2.now then _ else _) = _
    split
    · rfl
    · rfl

theorem Probe.isReady_mask (now : Nat) (probe : Probe) :
  (probe.mask k).isReady now = probe.isReady now
  := by
  cases probe with
  | ready | waiting => rfl

theorem Check.isReady_mask (now : Nat) (check : Check) :
  (check.mask k).isReady now = check.isReady now
  := by
  cases check with
  | probing probe => exact probe.isReady_mask k now
  | settling status => rfl

theorem MonitorLoop.isReady_mask (now : Nat) (l : MonitorLoop) :
  (l.mask k).isReady now = l.isReady now
  := by
  obtain ⟨id, stopping, phase⟩ := l
  cases phase with
  | starting | waiting tick | reporting next status => rfl
  | checking next check => exact check.isReady_mask k now

theorem Probe.alarm_mask (probe : Probe) :
  (probe.mask k).alarm = probe.alarm
  := by
  cases probe with
  | ready | waiting => rfl

theorem Check.alarm_mask (check : Check) :
  (check.mask k).alarm = check.alarm
  := by
  cases check with
  | probing probe => exact probe.alarm_mask k
  | settling status => rfl

theorem MonitorLoop.alarm_mask (l : MonitorLoop) :
  (l.mask k).alarm = l.alarm
  := by
  obtain ⟨id, stopping, phase⟩ := l
  cases phase with
  | starting | waiting tick | reporting next status => rfl
  | checking next check => exact check.alarm_mask k

namespace Manager

theorem recordProbed_mask (m : Manager) (p : Probed) :
  (m.mask k).recordProbed (p.mask k) = ((m.recordProbed p).1.mask k, (m.recordProbed p).2)
  := by
  obtain ⟨outcome, latency⟩ := p
  cases outcome with
  | ok u => rfl
  | error e =>
    simp only [recordProbed, Probed.mask, maskReply, Except.mapError, Error.sanitize_mask]
    rfl

theorem settle_mask (m : Manager) (status : HealthStatus) :
  (m.mask k).settle status = (m.settle status).mask k
  := by
  by_cases hu : m.state.isUp
  · simp only [settle, state_mask, hu, if_true]
    rfl
  · simp only [settle, state_mask, hu, Bool.false_eq_true, if_false]

theorem reportHealth_mask (m : Manager) (status : HealthStatus) :
  (m.mask k).reportHealth status = (m.reportHealth status).mask k
  := by
  cases status with
  | healthy | degraded | unhealthy => rfl

theorem modifyLoop_mask (m : Manager) (id : Nat) {f g : MonitorLoop → MonitorLoop}
    (hf : ∀ l, g (l.mask k) = (f l).mask k) :
  (m.mask k).modifyLoop id g = (m.modifyLoop id f).mask k
  := by
  have hl : ∀ l : MonitorLoop,
      (if (l.mask k).id = id then g (l.mask k) else l.mask k)
        = (if l.id = id then f l else l).mask k := by
    intro l
    by_cases h : l.id = id
    · rw [if_pos (show (l.mask k).id = id from h), if_pos h, hf]
    · rw [if_neg (show ¬ (l.mask k).id = id from h), if_neg h]
  simp only [modifyLoop, mask, List.map_map]
  congr 1
  apply List.map_congr_left
  intro l h
  exact hl l

theorem endLoop_mask (m : Manager) (id : Nat) :
  (m.mask k).endLoop id = (m.endLoop id).mask k
  := by
  simp only [endLoop, mask, List.filter_map]
  rfl

theorem hasLoop_mask (m : Manager) (id : Nat) :
  (m.mask k).hasLoop id = m.hasLoop id
  := by
  simp only [hasLoop, mask, List.any_map]
  rfl

theorem isMonitored_mask (m : Manager) :
  (m.mask k).isMonitored = m.isMonitored
  := by
  cases hm : m.monitor with
  | none => simp [isMonitored, hm]
  | some id => simp [isMonitored, hm, hasLoop_mask]

theorem startMonitor_mask (m : Manager) :
  (m.mask k).startMonitor = m.startMonitor.mask k
  := by
  unfold startMonitor
  rw [isMonitored_mask]
  split
  · rfl
  · simp [mask, log, write, MonitorLoop.mask, period]

end Manager

theorem Check.advance_mask (m : Manager) (check : Check) :
  (check.mask k).advance (m.mask k)
    = ((check.advance m).1.mask k, (check.advance m).2.map (mask k) id)
  := by
  cases check with
  | probing probe =>
    simp only [mask, advance, Probe.advance_mask]
    generalize probe.advance m = step
    obtain ⟨m', progress⟩ := step
    cases progress with
    | going probe' => rfl
    | done p =>
      simp only [Progress.map, Manager.recordProbed_mask]
      rfl
  | settling status =>
    simp only [mask, advance, Manager.settle_mask]
    rfl

namespace Manager

theorem advanceRegularCheck_mask (m : Manager) (id next : Nat) (check : Check) :
  (m.mask k).advanceRegularCheck id next (check.mask k)
    = (m.advanceRegularCheck id next check).mask k
  := by
  simp only [advanceRegularCheck, Check.advance_mask]
  generalize check.advance m = step
  obtain ⟨m', progress⟩ := step
  cases progress with
  | going check' =>
    apply modifyLoop_mask
    intro l
    rfl
  | done status =>
    apply modifyLoop_mask
    intro l
    rfl

theorem advanceLoop_mask (m : Manager) (l : MonitorLoop) :
  (m.mask k).advanceLoop (l.mask k) = (m.advanceLoop l).mask k
  := by
  obtain ⟨id, stopping, phase⟩ := l
  cases phase with
  | starting =>
    by_cases hp : m.period = 0
    · simp only [advanceLoop, MonitorLoop.mask, period_mask, hp, if_true]
      exact m.endLoop_mask k id
    · simp only [advanceLoop, MonitorLoop.mask, period_mask, hp, if_false]
      exact m.modifyLoop_mask k id fun l => rfl
  | waiting tick =>
    cases he : m.endsAt ⟨id, stopping, .waiting tick⟩ tick with
    | true =>
      have he' : (m.mask k).endsAt ⟨id, stopping, .waiting tick⟩ tick = true := he
      simp only [advanceLoop, MonitorLoop.mask, he, he', if_true]
      exact m.endLoop_mask k id
    | false =>
      have he' : (m.mask k).endsAt ⟨id, stopping, .waiting tick⟩ tick = false := he
      simp only [advanceLoop, MonitorLoop.mask, he, he', Bool.false_eq_true, if_false]
      exact m.modifyLoop_mask k id fun l => rfl
  | checking next check => exact m.advanceRegularCheck_mask k id next check
  | reporting next status =>
    simp only [advanceLoop, MonitorLoop.mask, reportHealth_mask]
    exact (m.reportHealth status).modifyLoop_mask k id fun l => rfl

end Manager

/-! ### Connecting -/

/-- A sequence without a connection, with the text of its last failure replaced. -/
def Defeat.mask (d : Defeat) : Defeat := { d with error := d.error.mask k }

@[simp]
theorem Defeat.last_mask (d : Defeat) :
  (d.mask k).last = d.last
  := by
  simp [last, mask]

/-- A call that connects, with the text of a failure replaced. -/
def Connect.mask : Connect → Connect
  | probing a probe => probing a (probe.mask k)
  | closing a e => closing a (e.mask k)
  | marking d => marking (d.mask k)
  | counting d => counting (d.mask k)
  | phase => phase

/-- What has come of a call that connects, with the texts of failures replaced. -/
def Manager.Connecting.mask (step : Manager.Connecting) : Manager.Connecting :=
  (step.1.mask k, step.2.map (Connect.mask k) id)

namespace Manager

theorem takeTurn_mask (m : Manager) :
  (m.mask k).takeTurn = Connecting.mask k m.takeTurn
  := by
  cases h : m.state.isUp with
  | true =>
    simp only [takeTurn, state_mask, h, if_true]
    rfl
  | false =>
    simp only [takeTurn, state_mask, h, Bool.false_eq_true, if_false]
    rfl

theorem establish_mask (m : Manager) (a : Attempt) (latency : Nat) :
  (m.mask k).establish a latency = Connecting.mask k (m.establish a latency)
  := by
  have hset : ∀ (m' : Manager) (message : String) (fields : List (String × Json)),
      (m'.log .info message fields).settings = m'.settings := fun m' message fields => rfl
  have hstart : ∀ m₁ m₂ : Manager, m₁ = m₂.mask k →
      m₁.startMonitor.leave = m₂.startMonitor.leave.mask k := by
    rintro _ m₂ rfl
    exact congrArg leave (m₂.startMonitor_mask k)
  simp only [establish, hset, settings_mask]
  by_cases hw : m.settings.isMonitored
  · simp only [hw, if_true]
    exact Prod.ext (hstart _ _ rfl) rfl
  · simp only [hw, Bool.false_eq_true, if_false]
    rfl

theorem fail_mask (m : Manager) (a : Attempt) (e : Error) :
  (m.mask k).fail a (e.mask k) = Connecting.mask k (m.fail a e)
  := by
  have hd : (⟨a.number, a.failures, e.mask k⟩ : Defeat).last
      = (⟨a.number, a.failures, e⟩ : Defeat).last :=
    Defeat.last_mask k ⟨a.number, a.failures, e⟩
  simp only [fail, logFailure, Error.sequel_mask, Error.ofError_mask, Error.isRetriable_mask,
    settings_mask, chance_mask, connectAttempts_mask, hd]
  split
  · rfl
  · rfl
  · rfl

theorem giveUp_mask (m : Manager) (d : Defeat) :
  (m.mask k).giveUp (d.mask k) = Connecting.mask k (m.giveUp d)
  := by
  simp only [giveUp, Defeat.last_mask]
  rfl

theorem conclude_mask (m : Manager) (a : Attempt) (p : Probed) :
  (m.mask k).conclude a (p.mask k) = Connecting.mask k (m.conclude a p)
  := by
  obtain ⟨outcome, latency⟩ := p
  cases outcome with
  | ok u => rfl
  | error e => rfl

end Manager

theorem Connect.advance_mask (m : Manager) (phase : Connect) :
  (phase.mask k).advance (m.mask k) = Manager.Connecting.mask k (phase.advance m)
  := by
  cases phase with
  | arriving => rfl
  | waiting t => exact m.takeTurn_mask k
  | opening a =>
    simp only [advance, mask, Manager.openStore_mask]
    generalize m.openStore = step
    obtain ⟨reply, m'⟩ := step
    cases reply with
    | ok u => rfl
    | error e => exact m'.fail_mask k a e
  | probing a probe =>
    simp only [advance, mask, Probe.isReady_mask, Probe.advance_mask, Manager.now_mask]
    split
    · generalize probe.advance m = step
      obtain ⟨m', progress⟩ := step
      cases progress with
      | going probe' => rfl
      | done p => exact m'.conclude_mask k a p
    · exact m.fail_mask k a m.attemptTimeout
  | closing a e =>
    simp only [advance, mask, Manager.closeStore_mask]
    generalize m.closeStore = step
    obtain ⟨reply, m'⟩ := step
    cases reply with
    | ok u => exact m'.fail_mask k a e
    | error e' =>
      simp only [maskReply, Except.mapError, Error.sanitize_mask]
      exact (m'.log .debug "Cleanup after failed probe did not succeed"
        [("error", .str (Redaction.sanitize e'.message))]).fail_mask k a e
  | settling a latency => exact m.establish_mask k a latency
  | pausing number failures due => rfl
  | marking d => rfl
  | counting d => exact m.giveUp_mask k d
  | crashed => rfl

theorem Connect.isReady_mask (m : Manager) (phase : Connect) :
  (phase.mask k).isReady (m.mask k) = phase.isReady m
  := by
  cases phase with
  | probing a probe =>
    simp only [mask, isReady, Probe.isReady_mask]
    rfl
  | _ => rfl

theorem Connect.alarm_mask (phase : Connect) :
  (phase.mask k).alarm = phase.alarm
  := by
  cases phase with
  | probing a probe => simp only [mask, alarm, Probe.alarm_mask]
  | _ => rfl

/-! ### Disconnecting -/

theorem Manager.logEnd_mask (m : Manager) (loop : Nat) :
  (m.mask k).logEnd loop = (m.logEnd loop).mask k
  := by
  by_cases hp : m.period = 0
  · simp only [logEnd, period_mask, hp, if_true]
    rfl
  · simp only [logEnd, period_mask, hp, if_false]
    rfl

theorem StopMonitor.advance_mask (m : Manager) (phase : StopMonitor) :
  phase.advance (m.mask k) = ((phase.advance m).1.mask k, (phase.advance m).2)
  := by
  cases phase with
  | awaiting loop => simp only [advance, Manager.logEnd_mask]
  | asked =>
    simp only [advance, Manager.monitor_mask]
    cases m.monitor with
    | none => rfl
    | some id =>
      have hl := Manager.modifyLoop_mask k
        ({ m with monitor := none }.log .info "🛑 Stopping database health monitoring...") id
        (f := fun l => { l with stopping := true }) (g := fun l => { l with stopping := true })
        fun l => rfl
      exact Prod.ext hl rfl

theorem StopMonitor.isReady_mask (m : Manager) (phase : StopMonitor) :
  phase.isReady (m.mask k) = phase.isReady m
  := by
  cases phase with
  | asked => rfl
  | awaiting id => simp [isReady, Manager.hasLoop_mask]

theorem Manager.release_mask (m : Manager) :
  (m.mask k).release = m.release.mask k
  := by
  simp only [release, closeStore_mask]
  generalize m.closeStore = step
  obtain ⟨reply, m'⟩ := step
  cases reply with
  | ok u => rfl
  | error e =>
    simp only [maskReply, Except.mapError, Error.sanitize_mask]
    rfl

theorem Disconnect.advance_mask (m : Manager) (phase : Disconnect) :
  phase.advance (m.mask k) = ((phase.advance m).1.mask k, (phase.advance m).2)
  := by
  cases phase with
  | closing => simp only [advance, Manager.release_mask]
  | marking => rfl
  | stopping phase =>
    simp only [advance, StopMonitor.advance_mask]
    generalize phase.advance m = step
    obtain ⟨m', progress⟩ := step
    cases progress with
    | going phase' => rfl
    | done u => rfl

theorem Disconnect.isReady_mask (m : Manager) (phase : Disconnect) :
  phase.isReady (m.mask k) = phase.isReady m
  := by
  cases phase with
  | closing | marking => rfl
  | stopping phase => exact phase.isReady_mask k m

/-! ### Runs of units of work -/

namespace Manager

theorem begin_mask (m : Manager) (options : Transaction.Options) :
  (m.mask k).begin options = ((m.begin options).1, (m.begin options).2.mask k)
  := by
  have hb : (m.mask k).store.begin ((m.mask k).chance.name (m.mask k).store.transactions) = _ :=
    m.store.begin_mask k (m.chance.name m.store.transactions)
  simp only [begin, hb]
  generalize m.store.begin (m.chance.name m.store.transactions) = step
  obtain ⟨reply, store⟩ := step
  cases reply with
  | ok tx => rfl
  | error e => rfl

theorem perform_mask (m : Manager) (tx : Transaction) (op : Transaction.Operation) :
  (m.mask k).perform tx op
    = ((m.perform tx op).1, (m.perform tx op).2.1, (m.perform tx op).2.2.mask k)
  := by
  simp only [perform]
  cases h : tx.finished with
  | true => rfl
  | false => rfl

end Manager

namespace Run

variable {α : Type}

theorem proceed_mask (m : Manager) (r : Running) (work : Work α) :
  proceed (m.mask k) r work = ((proceed m r work).1.mask k, (proceed m r work).2)
  := by
  induction work generalizing m r with
  | finish result =>
    cases result with
    | ok value => rfl
    | error failure => rfl
  | perform op next ih => rfl
  | sleep time next ih => rfl
  | log line next ih => exact ih (m.write line) r
  | report report next ih => exact ih m _

theorem start_mask (m : Manager) (options : Transaction.Options) (work : Work α) :
  start (m.mask k) options work = ((start m options work).1.mask k, (start m options work).2)
  := by
  simp only [start, Manager.begin_mask]
  generalize m.begin options = step
  obtain ⟨reply, m'⟩ := step
  cases reply with
  | ok tx => exact proceed_mask k (m'.log .debug "Started transaction"
      [("transaction_id", .str tx.name), ("isolation_level", .str options.isolation.name),
        ("timeout_ms", .ofNat options.timeout)]) _ work
  | error e => rfl

theorem commit_mask (m : Manager) (r : Running) (value : α) :
  commit (m.mask k) r value = ((commit m r value).1.mask k, (commit m r value).2)
  := by
  simp only [commit, Manager.perform_mask]
  generalize m.perform r.transaction .commit = answer
  obtain ⟨reply, tx, m'⟩ := answer
  cases reply with
  | ok u => rfl
  | error e => rfl

theorem abort_mask (m : Manager) (r : Running) (failure : Failure) :
  (abort (m.mask k) r failure : Step α)
    = ((abort m r failure : Step α).1.mask k, (abort m r failure).2)
  := by
  simp only [abort, Manager.perform_mask]
  generalize m.perform r.transaction .rollback = answer
  obtain ⟨reply, tx, m'⟩ := answer
  cases reply with
  | ok u => rfl
  | error e => rfl

theorem advance_mask (m : Manager) (run : Run α) :
  run.advance (m.mask k) = ((run.advance m).1.mask k, (run.advance m).2)
  := by
  cases run with
  | beginning options work => exact start_mask k m options work
  | performing r op next =>
    simp only [advance, Manager.perform_mask]
    exact proceed_mask k _ _ _
  | sleeping r due next =>
    by_cases hd : due ≤ m.now
    · simp only [advance, Manager.now_mask, hd, if_true]
      exact proceed_mask k m r next
    · simp only [advance, Manager.now_mask, hd, if_false]
  | committing r value => exact commit_mask k m r value
  | aborting r failure => exact abort_mask k m r failure

end Run

namespace Maintenance

theorem start_mask (m : Manager) (task : Maintenance) :
  task.start (m.mask k) = ((task.start m).1.mask k, (task.start m).2)
  := by
  cases hp : task.permitted.contains m.settings.environment with
  | true =>
    simp only [start, Manager.settings_mask, hp, if_true]
    cases task with
    | reset => rfl
    | seed => rfl
  | false =>
    simp only [start, Manager.settings_mask, hp, Bool.false_eq_true, if_false]
    rfl

theorem finish_mask (m : Manager) (task : Maintenance) (outcome : Except Failure Nat) :
  task.finish (m.mask k) outcome = (task.finish m outcome).mask k
  := by
  cases outcome with
  | error failure => rfl
  | ok n =>
    cases task with
    | reset => rfl
    | seed => rfl

end Maintenance

/-! ### Calls -/

/-- The result of a call with the text of a failure replaced, if it is as the store gave it. -/
def Outcome.mask : Outcome → Outcome
  | ponged r => ponged (maskReply k r)
  | o => o

namespace Call

/-- A call with the texts of failures replaced. -/
def mask : Call → Call
  | connect announced phase => connect announced (phase.mask k)
  | checkHealth check => checkHealth (check.mask k)
  | askStatus probe => askStatus (probe.mask k)
  | ping probe => ping (probe.mask k)
  | c => c

/-- What has come of a call, with the texts of failures replaced. -/
def Step.mask (step : Step) : Step := (step.1.mask k, step.2.map (Call.mask k) (Outcome.mask k))

theorem isReady_mask (m : Manager) (c : Call) :
  (c.mask k).isReady (m.mask k) = c.isReady m
  := by
  cases c with
  | connect announced phase => exact phase.isReady_mask k m
  | disconnect announced phase => exact phase.isReady_mask k m
  | stopMonitor phase => exact phase.isReady_mask k m
  | checkHealth check => exact check.isReady_mask k m.now
  | askStatus probe => exact probe.isReady_mask k m.now
  | ping probe => exact probe.isReady_mask k m.now
  | _ => rfl

theorem alarm_mask (c : Call) :
  (c.mask k).alarm = c.alarm
  := by
  cases c with
  | connect announced phase => exact phase.alarm_mask k
  | checkHealth check => exact check.alarm_mask k
  | askStatus probe | ping probe => exact probe.alarm_mask k
  | _ => rfl

/-- A step of a part of a call commutes with a mask if it does as a step of the part. -/
theorem lift_mask {φ ρ : Type} (phase : φ → Call) (result : Manager → ρ → Manager × Outcome)
    {f : φ → φ} {g : ρ → ρ} (hp : ∀ p, (phase p).mask k = phase (f p))
    (hr : ∀ m r, result (m.mask k) (g r) = ((result m r).1.mask k, (result m r).2.mask k))
    (step : Manager × Progress φ ρ) :
  lift phase result (step.1.mask k, step.2.map f g) = (lift phase result step).mask k
  := by
  obtain ⟨m, progress⟩ := step
  cases progress with
  | going p => simp [lift, Progress.map, Step.mask, hp]
  | done r => simp [lift, Progress.map, Step.mask, hr]

/-- So it does if the part does not depend on the texts of failures. -/
theorem lift_mask_of_plain {φ ρ : Type} (phase : φ → Call)
    (result : Manager → ρ → Manager × Outcome) (hp : ∀ p, (phase p).mask k = phase p)
    (hr : ∀ m r, result (m.mask k) r = ((result m r).1.mask k, (result m r).2.mask k))
    (step : Manager × Progress φ ρ) :
  lift phase result (step.1.mask k, step.2) = (lift phase result step).mask k
  := by
  have h := lift_mask k phase result (f := id) (g := id) hp hr step
  rw [Progress.map_id] at h
  exact h

theorem connectResult_mask (announced : Bool) (m : Manager) (r : Except Error Unit) :
  connectResult announced (m.mask k) r
    = ((connectResult announced m r).1.mask k, (connectResult announced m r).2.mask k)
  := by
  cases announced with
  | false => rfl
  | true =>
    cases r with
    | ok u => rfl
    | error e => rfl

theorem maintenanceResult_mask (task : Maintenance) (m : Manager) (r : RunResult Nat) :
  maintenanceResult task (m.mask k) r
    = ((maintenanceResult task m r).1.mask k, (maintenanceResult task m r).2.mask k)
  := by
  simp only [maintenanceResult, Maintenance.finish_mask]
  rfl

theorem statusResult_mask (m : Manager) (p : Probed) :
  statusResult (m.mask k) (p.mask k) = ((statusResult m p).1.mask k, (statusResult m p).2.mask k)
  := by
  obtain ⟨outcome, latency⟩ := p
  cases outcome with
  | ok u => rfl
  | error e =>
    simp only [statusResult, Probed.mask, maskReply, Except.mapError, Error.sanitize_mask]
    rfl

theorem advance_mask (m : Manager) (c : Call) :
  (c.mask k).advance (m.mask k) = (c.advance m).mask k
  := by
  cases c with
  | start =>
    simp only [mask, advance, advanceStart, Manager.settings_mask]
    split
    · rfl
    · rfl
  | stop => rfl
  | sleep due => rfl
  | connect announced phase =>
    simp only [mask, advance, Connect.advance_mask]
    exact lift_mask k (connect announced) _ (fun p => rfl) (connectResult_mask k announced) _
  | disconnect announced phase =>
    simp only [mask, advance, Disconnect.advance_mask]
    apply lift_mask_of_plain k (disconnect announced) _ (fun p => rfl)
    intro m r
    cases announced with
    | false => rfl
    | true => rfl
  | stopMonitor phase =>
    simp only [mask, advance, StopMonitor.advance_mask]
    exact lift_mask_of_plain k stopMonitor _ (fun p => rfl) (fun m r => rfl) _
  | checkHealth check =>
    simp only [mask, advance, Check.advance_mask]
    exact lift_mask k checkHealth healthResult (fun p => rfl) (fun m r => rfl) _
  | askStatus probe =>
    simp only [mask, advance, Probe.advance_mask]
    exact lift_mask k askStatus _ (fun p => rfl) (statusResult_mask k) _
  | ping probe =>
    simp only [mask, advance, Probe.advance_mask]
    exact lift_mask k ping (fun m (p : Probed) => (m, .ponged p.outcome)) (fun p => rfl)
      (fun m p => rfl) _
  | run phase =>
    simp only [mask, advance, Run.advance_mask]
    exact lift_mask_of_plain k run _ (fun p => rfl) (fun m r => rfl) _
  | maintain task =>
    simp only [mask, advance, Maintenance.start_mask]
    exact lift_mask_of_plain k (maintaining task) _ (fun p => rfl) (maintenanceResult_mask k task) _
  | maintaining task phase =>
    simp only [mask, advance, Run.advance_mask]
    exact lift_mask_of_plain k (maintaining task) _ (fun p => rfl) (maintenanceResult_mask k task) _

end Call

/-! ### Everything that happens -/

namespace Traffic

/-- A manager with the calls that were made on it, with the texts of failures replaced. -/
def mask (s : Traffic) : Traffic where
  manager := s.manager.mask k
  calls := s.calls.map (·.map (Call.mask k))

/-- What may happen next, with the texts of failures replaced. -/
def Beat.mask : Beat → Beat
  | .move (.plan faults) => .move (.plan (faults.mask k))
  | .move (.meddle store) => .move (.meddle (store.mask k))
  | b => b

theorem call?_mask (s : Traffic) (i : Nat) :
  (s.mask k).call? i = (s.call? i).map (Call.mask k)
  := by
  simp only [call?, mask, List.getElem?_map]
  cases s.calls[i]? with
  | none => rfl
  | some c => rfl

theorem settle_mask (s : Traffic) (i : Nat) (step : Call.Step) :
  (s.mask k).settle i (step.mask k) = (s.settle i step).mask k
  := by
  obtain ⟨m, progress⟩ := step
  cases progress with
  | going c => simp [settle, Call.Step.mask, Progress.map, mask, List.map_set]
  | done o => simp [settle, Call.Step.mask, Progress.map, mask, List.map_set]

theorem call_mask (m : Manager) (r : Request) :
  (r.call m).mask k = r.call (m.mask k)
  := by
  cases r with
  | _ => rfl

theorem advance_mask (s : Traffic) (i : Nat) :
  (s.mask k).step (.advance i) = (s.step (.advance i)).mask k
  := by
  cases hc : s.call? i with
  | none => simp only [step, call?_mask, hc, Option.map_none]
  | some c =>
    have hr : (c.mask k).isReady (s.mask k).manager = c.isReady s.manager :=
      c.isReady_mask k s.manager
    have ha : (c.mask k).advance (s.mask k).manager = (c.advance s.manager).mask k :=
      c.advance_mask k s.manager
    simp only [step, call?_mask, hc, Option.map_some, hr, ha, settle_mask]
    split
    · rfl
    · rfl

theorem watch_mask (s : Traffic) (j : Nat) :
  (s.mask k).step (.watch j) = (s.step (.watch j)).mask k
  := by
  have hl : (s.mask k).manager.loops[j]? = s.manager.loops[j]?.map (·.mask k) :=
    List.getElem?_map
  cases h : s.manager.loops[j]? with
  | none => simp only [step, hl, h, Option.map_none]
  | some l =>
    have hr : (l.mask k).isReady (s.mask k).manager.now = l.isReady s.manager.now :=
      l.isReady_mask k s.manager.now
    have ha : (s.mask k).manager.advanceLoop (l.mask k) = (s.manager.advanceLoop l).mask k :=
      s.manager.advanceLoop_mask k l
    simp only [step, hl, h, Option.map_some, hr, ha]
    split
    · rfl
    · rfl

theorem tick_mask (s : Traffic) (j : Nat) :
  (s.mask k).tick j = (s.tick j).mask k
  := by
  have hl : (s.mask k).manager.loops[j]? = s.manager.loops[j]?.map (·.mask k) :=
    List.getElem?_map
  cases h : s.manager.loops[j]? with
  | none => simp only [tick, hl, h, Option.map_none]
  | some l =>
    obtain ⟨id, stopping, phase⟩ := l
    cases phase with
    | starting | checking next check | reporting next status =>
      simp only [tick, hl, h, Option.map_some, MonitorLoop.mask]
    | waiting t =>
      have he : ∀ next, (s.manager.mask k).enter id (.checking next (.probing .ready))
          = (s.manager.enter id (.checking next (.probing .ready))).mask k := by
        intro next
        exact s.manager.modifyLoop_mask k id fun l => rfl
      by_cases ht : t ≤ s.manager.now
      · have ht' : t ≤ (s.mask k).manager.now := ht
        simp only [tick, hl, h, Option.map_some, MonitorLoop.mask, ht, ht', if_true]
        simp only [mask, Manager.period_mask, Manager.now_mask, he]
      · have ht' : ¬ t ≤ (s.mask k).manager.now := ht
        simp only [tick, hl, h, Option.map_some, MonitorLoop.mask, ht, ht', if_false]

/-- Whatever happens with other texts leads to the same but for the texts. -/
theorem beat_mask (s : Traffic) (b : Beat) :
  (s.mask k).beat (b.mask k) = (s.beat b).mask k
  := by
  cases b with
  | tick j => exact s.tick_mask k j
  | move move =>
    cases move with
    | ask r => simp [beat, Beat.mask, step, mask, call_mask]
    | advance i => exact s.advance_mask k i
    | watch j => exact s.watch_mask k j
    | elapse time => rfl
    | plan faults => rfl
    | meddle store => rfl

theorem play_mask (s : Traffic) (beats : List Beat) :
  (s.mask k).play (beats.map (Beat.mask k)) = (s.play beats).mask k
  := by
  induction beats generalizing s with
  | nil => rfl
  | cons b rest ih =>
    change ((s.mask k).beat (b.mask k)).play (rest.map (Beat.mask k)) = _
    rw [beat_mask, ih]
    rfl

theorem outcome?_mask (s : Traffic) (i : Nat) :
  (s.mask k).outcome? i = (s.outcome? i).map (Outcome.mask k)
  := by
  cases hc : s.call? i with
  | none => simp only [outcome?, call?_mask, hc, Option.map_none]
  | some c =>
    have hr : (c.mask k).isReady (s.mask k).manager = c.isReady s.manager :=
      c.isReady_mask k s.manager
    have ha : (c.mask k).advance (s.mask k).manager = (c.advance s.manager).mask k :=
      c.advance_mask k s.manager
    simp only [outcome?, call?_mask, hc, Option.map_some, hr, ha]
    split
    · generalize c.advance s.manager = step
      obtain ⟨m, progress⟩ := step
      cases progress with
      | going c' => rfl
      | done o => rfl
    · rfl

end Traffic

end Storekeeper

import Mathlib.Data.List.Basic
import Storekeeper.Proofs.Manager.Disconnection
import Storekeeper.Proofs.Manager.Quiet
import Storekeeper.Proofs.Manager.Sharing

/-!
# One call after another

A manager that is used by one caller, who makes one call after another, is in order whenever no
call is in progress, although the loop that watches the connection runs beside the calls: nobody is
connecting, and the connection is watched exactly if it is to be watched and established.  The
invariant is `Traffic.Course`, by the phase of the call in progress: `Manager.Steady` between the
calls and for most of them, and one of a few variants for the callers that connect and disconnect.
-/

namespace Storekeeper

theorem ConnectionState.ne_connecting_of_isUp {state : ConnectionState} (h : state.isUp = true) :
  state ≠ .connecting
  := by
  rintro rfl
  cases h

theorem ConnectionState.isUp_eq_true_iff {state : ConnectionState} :
  state.isUp = true ↔ state = .connected ∨ state = .degraded
  := by
  cases state with
  | _ => simp [ConnectionState.isUp]

/-- Settings that are accepted have a time between two probes. -/
theorem Settings.healthCheckInterval_ne_zero {settings : Settings}
    (h : settings.validate = .ok ()) :
  settings.healthCheckInterval.toNat ≠ 0
  := by
  obtain ⟨-, hpositive, -⟩ := validate_eq_ok_iff.mp h
  apply hpositive ("DATABASE_HEALTH_CHECK_INTERVAL_MS", settings.healthCheckInterval.toNat)
  simp [positiveSettings]

/-! ### The loops -/

namespace Manager

/-- The numbers of the loops, and whether they were told to stop. -/
def roll (m : Manager) : List (Nat × Bool) := m.loops.map fun l => (l.id, l.stopping)

theorem roll_eq_nil_iff {m : Manager} :
  m.roll = [] ↔ m.loops = []
  := List.map_eq_nil_iff

theorem loopIds_eq (m : Manager) :
  m.loopIds = m.roll.map Prod.fst
  := by
  simp [loopIds, roll]

theorem roll_enter (m : Manager) (id : Nat) (phase : MonitorPhase) :
  (m.enter id phase).roll = m.roll
  := by
  simp only [roll, enter, modifyLoop, List.map_map]
  apply List.map_congr_left
  intro l hl
  by_cases h : l.id = id
  · simp [h]
  · simp [h]

theorem roll_stopLoop (m : Manager) (id : Nat) :
  (m.modifyLoop id fun l => { l with stopping := true }).roll
    = m.roll.map fun p => if p.1 = id then (p.1, true) else p
  := by
  simp only [roll, modifyLoop, List.map_map]
  apply List.map_congr_left
  intro l hl
  by_cases h : l.id = id
  · simp [h]
  · simp [h]

theorem roll_advanceRegularCheck (m : Manager) (id next : Nat) (check : Check) :
  (m.advanceRegularCheck id next check).roll = m.roll
  := by
  obtain ⟨pings, metrics, state, journal, hc⟩ := check.advance_eq m
  unfold advanceRegularCheck
  generalize check.advance m = step at hc
  obtain ⟨m', progress⟩ := step
  subst hc
  cases progress with
  | going check' => exact roll_enter _ id _
  | done status => exact roll_enter _ id _

/-- A loop goes on as it is, or it ends because it was told to or has no period. -/
theorem roll_advanceLoop (m : Manager) (l : MonitorLoop) :
  (m.advanceLoop l).roll = m.roll
    ∨ (l.stopping = true ∨ m.period = 0) ∧ (m.advanceLoop l).roll.Sublist m.roll
  := by
  unfold advanceLoop
  split
  · split
    · next h => exact .inr ⟨.inr h, List.filter_sublist.map _⟩
    · exact .inl (roll_enter m l.id _)
  · split
    · next h =>
      have hs : l.stopping = true := ((Bool.and_eq_true _ _).mp h).1
      exact .inr ⟨.inl hs, List.filter_sublist.map _⟩
    · exact .inl (roll_enter m l.id _)
  · exact .inl (roll_advanceRegularCheck m l.id _ _)
  · next next status _ =>
    have hr : (m.reportHealth status).roll = m.roll := by
      obtain ⟨journal, h⟩ := m.reportHealth_eq status
      rw [h]
      rfl
    exact .inl ((roll_enter _ l.id _).trans hr)

/-- `m'` comes from `m` by a step that leaves the connection to others: it may only end a loop that
was told to stop. -/
structure Beside (m m' : Manager) : Prop where
  settings : m'.settings = m.settings
  monitor : m'.monitor = m.monitor
  isUp : m'.state.isUp = m.state.isUp
  state : m.state.isUp = false → m'.state = m.state
  connected : m'.store.connected = true → m.store.connected = true
  roll : m'.roll = m.roll ∨ (∃ id, (id, true) ∈ m.roll) ∧ m'.roll.Sublist m.roll

theorem Beside.of_aside {m m' : Manager} (h : m.Aside m') (hm : m'.monitor = m.monitor)
    (hr : m'.roll = m.roll ∨ (∃ id, (id, true) ∈ m.roll) ∧ m'.roll.Sublist m.roll) :
  m.Beside m'
  where
  settings := h.settings
  monitor := hm
  isUp := h.isUp
  state := h.vitals.state
  connected := h.connected
  roll := hr

theorem beside_advanceLoop {m : Manager} (hp : m.period ≠ 0) {l : MonitorLoop}
    (hl : l ∈ m.loops) :
  m.Beside (m.advanceLoop l)
  := by
  apply Beside.of_aside (m.aside_advanceLoop l) (m.monitor_advanceLoop l)
  apply (m.roll_advanceLoop l).imp_right
  rintro ⟨hs | hz, hsub⟩
  · exact ⟨⟨l.id, hs ▸ List.mem_map_of_mem hl⟩, hsub⟩
  · exact absurd hz hp

end Manager

/-- A call that neither connects nor disconnects leaves the connection and the loops to others. -/
theorem Call.beside_advance {m : Manager} {c : Call} (hd : c.isDecisive = false)
    (hs : c.stopPhase? = none) :
  m.Beside (c.advance m).1
  := by
  have ha := aside_advance m c hd
  cases keeps_advance (m := m) hs with
  | kept hl hm =>
    apply Manager.Beside.of_aside ha hm
    rw [Manager.roll, hl]
    exact .inl rfl
  | started hn hl hm =>
    -- Such a call starts no loop.
    have h := ha.loops.length_le
    simp only [Manager.loopIds, hl, List.length_map, List.length_append,
      List.length_singleton] at h
    exact absurd h (Nat.not_succ_le_self _)

/-! ### Who watches the connection -/

namespace Manager

/-- Nobody watches the connection, and nobody did until now. -/
structure Unwatched (m : Manager) : Prop where
  loops : m.loops = []
  monitor : m.monitor = none

/-- Nobody is connecting or disconnecting. -/
structure Steady (m : Manager) : Prop where
  state : m.state ≠ .connecting
  /-- There is no loop but the one that watches the connection, which was not told to stop. -/
  roll : m.roll = m.monitor.toList.map fun id => (id, false)
  monitor : m.monitor.isSome = (m.settings.isMonitored && m.state.isUp)

/-- Somebody waits for the end of the loop with the given number. -/
structure Parting (m : Manager) (id : Nat) : Prop where
  isUp : m.state.isUp = true
  roll : m.roll.Sublist [(id, true)]
  monitor : m.monitor = none

/-- The connection is in a state in which nobody watches it. -/
structure Bare (m : Manager) (state : ConnectionState) : Prop where
  state : m.state = state
  unwatched : m.Unwatched

/-- Somebody who disconnects has given the connection back. -/
structure Released (m : Manager) : Prop where
  bare : m.Bare .disconnected
  store : m.store.connected = false

theorem Unwatched.congr {m m' : Manager} (h : m.Unwatched) (hl : m'.loops = m.loops)
    (hm : m'.monitor = m.monitor) :
  m'.Unwatched
  := ⟨hl.trans h.loops, hm.trans h.monitor⟩

theorem Bare.congr {m m' : Manager} {state : ConnectionState} (h : m.Bare state)
    (hst : m'.state = m.state) (hl : m'.loops = m.loops) (hm : m'.monitor = m.monitor) :
  m'.Bare state
  := ⟨hst.trans h.state, h.unwatched.congr hl hm⟩

/-- Nobody has to watch a connection that was given up or given back. -/
theorem Unwatched.steady {m : Manager} (h : m.Unwatched)
    (hs : m.state = .disconnected ∨ m.state = .failed) :
  m.Steady
  := by
  have hroll : m.roll = [] := roll_eq_nil_iff.mpr h.loops
  rcases hs with hs | hs
  · constructor
    · simp [hs]
    · simp [hroll, h.monitor]
    · simp [h.monitor, hs, ConnectionState.isUp]
  · constructor
    · simp [hs]
    · simp [hroll, h.monitor]
    · simp [h.monitor, hs, ConnectionState.isUp]

/-- Whoever waits for the end of a loop waits for the last one. -/
theorem Parting.unwatched {m : Manager} {id : Nat} (h : m.Parting id)
    (hn : m.hasLoop id = false) :
  m.Unwatched
  where
  loops := by
    rw [← roll_eq_nil_iff]
    rcases List.sublist_singleton.mp h.roll with hr | hr
    · exact hr
    · have hid : id ∈ m.loopIds := by
        rw [loopIds_eq, hr]
        exact List.mem_singleton.mpr rfl
      cases hn.symm.trans (hasLoop_eq_true_iff.mpr hid)
  monitor := h.monitor

section

variable {m m' : Manager}

theorem Unwatched.beside (h : m.Unwatched) (hb : m.Beside m') :
  m'.Unwatched
  where
  loops := by
    have hn : m.roll = [] := roll_eq_nil_iff.mpr h.loops
    rw [← roll_eq_nil_iff]
    rcases hb.roll with hr | ⟨-, hr⟩
    · exact hr.trans hn
    · exact List.sublist_nil.mp (hn ▸ hr)
  monitor := hb.monitor.trans h.monitor

theorem Bare.beside {state : ConnectionState} (h : m.Bare state) (hs : state.isUp = false)
    (hb : m.Beside m') :
  m'.Bare state
  where
  state := by
    rw [hb.state]
    · exact h.state
    · rw [h.state, hs]
  unwatched := h.unwatched.beside hb

theorem Released.beside (h : m.Released) (hb : m.Beside m') :
  m'.Released
  where
  bare := h.bare.beside rfl hb
  store := by
    rw [← Bool.not_eq_true]
    intro hc
    cases h.store.symm.trans (hb.connected hc)

theorem Parting.beside {id : Nat} (h : m.Parting id) (hb : m.Beside m') :
  m'.Parting id
  where
  isUp := hb.isUp.trans h.isUp
  roll := by
    rcases hb.roll with hr | ⟨-, hr⟩
    · rw [hr]
      exact h.roll
    · exact hr.trans h.roll
  monitor := hb.monitor.trans h.monitor

end

namespace Steady

variable {m m' : Manager}

theorem congr (h : m.Steady) (hs : m'.settings = m.settings) (hst : m'.state = m.state)
    (hl : m'.loops = m.loops) (hm : m'.monitor = m.monitor) :
  m'.Steady
  where
  state := hst ▸ h.state
  roll := by
    rw [Manager.roll, hl, hm]
    exact h.roll
  monitor := by
    rw [hm, hs, hst]
    exact h.monitor

theorem unwatched_of_monitor (h : m.Steady) (hm : m.monitor = none) :
  m.Unwatched
  where
  loops := by
    rw [← roll_eq_nil_iff, h.roll, hm]
    rfl
  monitor := hm

/-- A connection that is not established is not watched. -/
theorem unwatched (h : m.Steady) (hu : m.state.isUp = false) :
  m.Unwatched
  := by
  apply h.unwatched_of_monitor
  have hm := h.monitor
  rw [hu, Bool.and_false] at hm
  exact Option.not_isSome_iff_eq_none.mp (Bool.eq_false_iff.mp hm)

theorem isMonitored (h : m.Steady) :
  m.isMonitored = (m.settings.isMonitored && m.state.isUp)
  := by
  rw [← h.monitor]
  cases hm : m.monitor with
  | none => simp [Manager.isMonitored, hm]
  | some id =>
    have hr := h.roll
    rw [hm] at hr
    have hid : id ∈ m.loopIds := by
      rw [loopIds_eq, hr]
      exact List.mem_singleton.mpr rfl
    exact isMonitored_eq_true_iff.mpr ⟨id, hid, hm⟩

theorem beside (h : m.Steady) (hb : m.Beside m') :
  m'.Steady
  where
  state := by
    cases hu : m.state.isUp with
    | true => exact ConnectionState.ne_connecting_of_isUp (hb.isUp.trans hu)
    | false =>
      rw [hb.state hu]
      exact h.state
  roll := by
    rcases hb.roll with hr | ⟨⟨id, hid⟩, -⟩
    · rw [hr, hb.monitor]
      exact h.roll
    · rw [h.roll] at hid
      simp at hid
  monitor := by
    rw [hb.monitor, hb.settings, hb.isUp]
    exact h.monitor

end Steady

theorem steady_startMonitor {m : Manager} (h : m.Unwatched)
    (hs : m.settings.isMonitored = true) (hu : m.state.isUp = true) :
  m.startMonitor.Steady
  := by
  have hn : m.isMonitored = false := by simp [Manager.isMonitored, h.monitor]
  simp only [startMonitor, hn, Bool.false_eq_true, if_false]
  constructor
  case state => exact ConnectionState.ne_connecting_of_isUp hu
  case roll => simp [roll, log, write, h.loops]
  case monitor => simp [log, write, hs, hu]

/-- A connection that was just established is watched if it is to be. -/
theorem steady_establish {m : Manager} (h : m.Unwatched) (a : Attempt) (latency : Nat) :
  (m.establish a latency).1.Steady
  := by
  have hu := HealthStatus.isUp_connectionState (.ofLatency latency m.threshold)
  simp only [establish]
  split
  · next hs =>
    refine Steady.congr (steady_startMonitor ?_ hs ?_) rfl rfl rfl rfl
    · exact ⟨h.loops, h.monitor⟩
    · exact hu
  · next hs =>
    constructor
    case state => exact ConnectionState.ne_connecting_of_isUp hu
    case roll => simp [roll, leave, log, write, h.loops, h.monitor]
    case monitor =>
      have hs : m.settings.isMonitored = false := Bool.eq_false_iff.mpr hs
      simp [leave, log, write, h.monitor, hs]

end Manager

/-! ### Connecting and disconnecting -/

/-- What has come of a call: it goes on as `fits` says, or it returned. -/
inductive Leads {φ ρ : Type} (fits : φ → Manager → Prop) : Manager × Progress φ ρ → Prop where
  | going {m : Manager} {phase : φ} (h : fits phase m) : Leads fits (m, .going phase)
  | done {m : Manager} {result : ρ} (h : m.Steady) : Leads fits (m, .done result)

namespace Connect

/-- How a manager stands to a call that connects. -/
def Fits : Connect → Manager → Prop
  | arriving, m | waiting _, m => m.Steady
  | opening _, m | probing _ _, m | closing _ _, m | pausing _ _ _, m => m.Bare .connecting
  | settling _ _, m | crashed, m => m.Bare .connecting
  | marking _, m | counting _, m => m.Bare .failed

theorem leads_fail {m : Manager} (h : m.Bare .connecting) (a : Attempt) (e : Error) :
  Leads Fits (m.fail a e)
  := by
  simp only [Manager.fail]
  split
  · exact .going (Manager.Bare.congr h rfl rfl rfl)
  · exact .going ⟨rfl, h.unwatched.congr rfl rfl⟩
  · exact .going (Manager.Bare.congr h rfl rfl rfl)

theorem leads_takeTurn {m : Manager} (h : m.Steady) :
  Leads Fits m.takeTurn
  := by
  unfold Manager.takeTurn
  split
  · exact .done (h.congr rfl rfl rfl rfl)
  · next hu => exact .going ⟨rfl, (h.unwatched (Bool.eq_false_iff.mpr hu)).congr rfl rfl⟩

theorem leads_conclude {m : Manager} (h : m.Bare .connecting) (a : Attempt) (p : Probed) :
  Leads Fits (m.conclude a p)
  := by
  unfold Manager.conclude
  split
  · exact .going (Manager.Bare.congr h rfl rfl rfl)
  · exact .going h

theorem leads_advance {m : Manager} {phase : Connect} (h : phase.Fits m) :
  Leads Fits (phase.advance m)
  := by
  cases phase with
  | arriving => exact .going (Manager.Steady.congr h rfl rfl rfl rfl)
  | waiting t => exact leads_takeTurn h
  | opening a =>
    have hs : m.openStore.2.Bare .connecting := Manager.Bare.congr h rfl rfl rfl
    simp only [advance]
    generalize m.openStore = step at hs
    obtain ⟨reply, m'⟩ := step
    cases reply with
    | ok u => exact .going hs
    | error e => exact leads_fail hs a e
  | probing a probe =>
    simp only [advance]
    split
    · obtain ⟨pings, journal, hp⟩ := probe.advance_eq m
      generalize probe.advance m = step at hp
      obtain ⟨m', progress⟩ := step
      subst hp
      have hs : Manager.Bare { m with
          store := { m.store with pings := pings }, journal := journal } .connecting :=
        Manager.Bare.congr h rfl rfl rfl
      cases progress with
      | going probe' => exact .going hs
      | done p => exact leads_conclude hs a p
    · exact leads_fail h a _
  | closing a e =>
    have hs : m.closeStore.2.Bare .connecting := Manager.Bare.congr h rfl rfl rfl
    simp only [advance]
    generalize m.closeStore = step at hs
    obtain ⟨reply, m'⟩ := step
    cases reply with
    | ok u => exact leads_fail hs a e
    | error e' =>
      apply leads_fail
      exact hs.congr rfl rfl rfl
  | pausing number failures due => exact .going h
  | settling a latency =>
    have hs := Manager.steady_establish (Manager.Bare.unwatched h) a latency
    obtain ⟨loops, monitor, fresh, journal, -, he⟩ := m.establish_eq a latency
    rw [he] at hs
    rw [advance, he]
    exact .done hs
  | marking d => exact .going (Manager.Bare.congr h rfl rfl rfl)
  | counting d =>
    have hb : m.Bare .failed := h
    exact .done (Manager.Unwatched.steady (hb.unwatched.congr rfl rfl) (.inr hb.state))
  | crashed => exact .going h

end Connect

namespace Disconnect

/-- How a manager stands to a call that disconnects. -/
def Fits : Disconnect → Manager → Prop
  | stopping .asked, m => m.Steady
  | stopping (.awaiting id), m => m.Parting id
  | closing, m => m.Unwatched
  | marking, m => m.Released

theorem leads_asked {m : Manager} (h : m.Steady) :
  Leads Fits ((stopping .asked).advance m)
  := by
  simp only [advance, StopMonitor.advance]
  cases hm : m.monitor with
  | none => exact .going (h.unwatched_of_monitor hm)
  | some id =>
    have hmon := h.monitor
    have hroll := h.roll
    rw [hm, Option.isSome_some] at hmon
    rw [hm] at hroll
    apply Leads.going
    constructor
    case isUp => exact ((Bool.and_eq_true _ _).mp hmon.symm).2
    case roll =>
      rw [Manager.roll_stopLoop]
      change (m.roll.map _).Sublist _
      simp [hroll]
    case monitor => rfl

theorem leads_advance {m : Manager} {phase : Disconnect} (h : phase.Fits m)
    (hr : phase.isReady m = true) :
  Leads Fits (phase.advance m)
  := by
  cases phase with
  | stopping phase =>
    cases phase with
    | asked => exact leads_asked h
    | awaiting id =>
      have hn : m.hasLoop id = false := by simpa [isReady, StopMonitor.isReady] using hr
      obtain ⟨journal, hl⟩ := m.logEnd_eq id
      simp only [advance, StopMonitor.advance, hl]
      exact .going ((Manager.Parting.unwatched h hn).congr rfl rfl)
  | closing =>
    obtain ⟨journal, hm⟩ := m.release_eq
    simp only [advance, hm]
    exact .going ⟨⟨rfl, Manager.Unwatched.congr h rfl rfl⟩, rfl⟩
  | marking =>
    have hb : m.Bare .disconnected := Manager.Released.bare h
    exact .done (Manager.Unwatched.steady (hb.unwatched.congr rfl rfl) (.inl hb.state))

end Disconnect

namespace Call

/-- How a manager stands to a call, where nobody else makes one. -/
def Fits : Call → Manager → Prop
  | connect _ phase, m => phase.Fits m
  | disconnect _ phase, m => phase.Fits m
  | stopMonitor _, _ => False
  | _, m => m.Steady

theorem leads_lift {φ ρ : Type} {fits : φ → Manager → Prop} {phase : φ → Call}
    {result : Manager → ρ → Manager × Outcome} {step : Manager × Progress φ ρ}
    (h : Leads fits step) (hf : ∀ p m, fits p m → (phase p).Fits m)
    (hr : ∀ m r, m.Steady → (result m r).1.Steady) :
  Leads Fits (lift phase result step)
  := by
  cases h with
  | going h => exact .going (hf _ _ h)
  | done h => exact .done (hr _ _ h)

/-- A call that leaves the connection to others finds and leaves the manager at rest. -/
theorem leads_aside {m : Manager} {c : Call} (h : m.Steady) (hd : c.isDecisive = false)
    (hs : c.stopPhase? = none) (hg : ∀ c', c.GoesOn m c' → c'.Fits = fun m => m.Steady) :
  Leads Fits (c.advance m)
  := by
  have hm := h.beside (beside_advance (m := m) hd hs)
  have hg := fun c' (hc : (c.advance m).2 = .going c') => hg c' (goesOn_of_going hc)
  generalize c.advance m = step at hm hg
  obtain ⟨m', progress⟩ := step
  cases progress with
  | going c' =>
    apply Leads.going
    rw [hg c' rfl]
    exact hm
  | done o => exact .done hm

theorem steady_connectResult (announced : Bool) {m : Manager} (h : m.Steady)
    (r : Except Error Unit) :
  (connectResult announced m r).1.Steady
  := by
  cases announced with
  | false => exact h
  | true =>
    cases r with
    | ok u => exact h.congr rfl rfl rfl rfl
    | error e => exact h

theorem steady_disconnectResult (announced : Bool) {m : Manager} (h : m.Steady) :
  (disconnectResult announced m).1.Steady
  := by
  cases announced with
  | false => exact h
  | true => exact h.congr rfl rfl rfl rfl

theorem leads_advance {m : Manager} {c : Call} (h : c.Fits m) (hr : c.isReady m = true) :
  Leads Fits (c.advance m)
  := by
  cases c with
  | connect announced phase =>
    apply leads_lift (Connect.leads_advance h)
    · exact fun p m hp => hp
    · exact fun m r hm => steady_connectResult announced hm r
  | disconnect announced phase =>
    change Leads Fits (lift _ (fun m _ => disconnectResult announced m) (phase.advance m))
    apply leads_lift (Disconnect.leads_advance h hr)
    · exact fun p m hp => hp
    · exact fun m r hm => steady_disconnectResult announced hm
  | stopMonitor phase => cases h
  | _ =>
    apply leads_aside h rfl rfl
    intro c' hg
    cases hg
    all_goals rfl

/-- A call stands as before to a manager that was changed beside it. -/
theorem Fits.beside {m m' : Manager} {c : Call} (h : c.Fits m) (hb : m.Beside m') :
  c.Fits m'
  := by
  cases c with
  | connect announced phase =>
    cases phase with
    | arriving | waiting t => exact Manager.Steady.beside h hb
    | _ => exact Manager.Bare.beside h rfl hb
  | disconnect announced phase =>
    cases phase with
    | stopping phase =>
      cases phase with
      | asked => exact Manager.Steady.beside h hb
      | awaiting id => exact Manager.Parting.beside h hb
    | closing => exact Manager.Unwatched.beside h hb
    | marking => exact Manager.Released.beside h hb
  | stopMonitor phase => cases h
  | _ => exact Manager.Steady.beside h hb

/-- A connection that is not established is not watched. -/
theorem Fits.loops_eq_nil {m : Manager} {c : Call} (h : c.Fits m) (hu : m.state.isUp = false) :
  m.loops = []
  := by
  cases c with
  | connect announced phase =>
    cases phase with
    | arriving | waiting t => exact (Manager.Steady.unwatched h hu).loops
    | _ => exact (Manager.Bare.unwatched h).loops
  | disconnect announced phase =>
    cases phase with
    | stopping phase =>
      cases phase with
      | asked => exact (Manager.Steady.unwatched h hu).loops
      | awaiting id => cases hu.symm.trans (Manager.Parting.isUp h)
    | closing => exact Manager.Unwatched.loops h
    | marking => exact (Manager.Released.bare h).unwatched.loops
  | stopMonitor phase => cases h
  | _ => exact (Manager.Steady.unwatched h hu).loops

end Call

/-- The connection was given back. -/
structure Manager.GivenBack (m : Manager) : Prop where
  state : m.state = .disconnected
  status : m.metrics.status = .unhealthy
  store : m.store.connected = false

namespace Traffic

/-! ### One call after another -/

/-- Whether no call is in progress.  A call that crashed never returns, so none follows it. -/
def isIdle (s : Traffic) : Bool := s.calls.all (·.isNone)

/-- Whether something may happen next where one call is made after another, by somebody who leaves
it to the manager to stop watching the connection, and the store too. -/
def isOrderly (s : Traffic) : Beat → Bool
  | .move (.ask .stopMonitor) | .move (.meddle _) => false
  | .move (.ask _) => s.isIdle
  | .move (.advance _) | .move (.watch _) | .move (.elapse _) | .move (.plan _) | .tick _ => true

/-- Whether all that happens is in order. -/
def isSequential (s : Traffic) : List Beat → Bool
  | [] => true
  | b :: rest => s.isOrderly b && (s.beat b).isSequential rest

theorem call?_eq_none_of_isIdle {s : Traffic} (h : s.isIdle = true) (i : Nat) :
  s.call? i = none
  := by
  rw [call?]
  cases hi : s.calls[i]? with
  | none => rfl
  | some c =>
    have hc := List.all_eq_true.mp h c (List.mem_of_getElem? hi)
    rw [Option.isNone_iff_eq_none.mp hc]
    rfl

/-- Where only one call was in progress, none is when it returned. -/
theorem call?_settle_eq_none {s : Traffic} {i : Nat} {step : Call.Step}
    (h : ∀ j, j ≠ i → (s.settle i step).call? j = none) {o : Outcome} (hs : step.2 = .done o)
    (j : Nat) :
  (s.settle i step).call? j = none
  := by
  by_cases hj : j = i
  · rw [hj]
    exact call?_settle_done hs
  · exact h j hj

/-- At most one call is in progress, and the manager is as that call has it. -/
inductive Course (s : Traffic) : Prop where
  | idle (hn : ∀ i, s.call? i = none) (hm : s.manager.Steady)
  | busy {i : Nat} {c : Call} (hc : s.call? i = some c) (ho : ∀ j, j ≠ i → s.call? j = none)
      (hf : c.Fits s.manager)

namespace Course

variable {s : Traffic}

theorem beside {m : Manager} (h : s.Course) (hb : s.manager.Beside m) :
  Course { s with manager := m }
  := by
  cases h with
  | idle hn hm => exact .idle hn (hm.beside hb)
  | busy hc ho hf => exact .busy hc ho (hf.beside hb)

theorem ask (h : s.Course) (hi : s.isIdle = true) {r : Request} (hr : r ≠ .stopMonitor) :
  (s.step (.ask r)).Course
  := by
  have hn := call?_eq_none_of_isIdle hi
  have hm : s.manager.Steady := by
    cases h with
    | idle hn hm => exact hm
    | busy hc ho hf => cases (hn _).symm.trans hc
  apply Course.busy (i := s.calls.length) (c := r.call s.manager)
  · rw [call?_ask, if_pos rfl]
  · intro j hj
    rw [call?_ask, if_neg hj]
    exact hn j
  · cases r with
    | stopMonitor => exact absurd rfl hr
    | _ => exact hm

/-- The call that is in progress is the only one. -/
theorem busy_of_call? (h : s.Course) {i : Nat} {c : Call} (hc : s.call? i = some c) :
  (∀ j, j ≠ i → s.call? j = none) ∧ c.Fits s.manager
  := by
  cases h with
  | idle hn hm => cases (hn i).symm.trans hc
  | @busy i' c' hc' ho hf =>
    have hi : i = i' := by
      by_contra hne
      cases (ho i hne).symm.trans hc
    subst hi
    cases hc.symm.trans hc'
    exact ⟨ho, hf⟩

theorem advance (h : s.Course) {i : Nat} {c : Call} (hc : s.call? i = some c)
    (hr : c.isReady s.manager = true) :
  (s.settle i (c.advance s.manager)).Course
  := by
  obtain ⟨ho, hf⟩ := h.busy_of_call? hc
  have hother : ∀ j, j ≠ i → (s.settle i (c.advance s.manager)).call? j = none := by
    intro j hj
    rw [call?_settle_of_ne s (Ne.symm hj)]
    exact ho j hj
  have hl := Call.leads_advance hf hr
  generalize c.advance s.manager = step at hl hother
  cases hl with
  | going h => exact .busy (call?_settle_going (lt_length_of_call? hc) rfl) hother h
  | done h => exact .idle (call?_settle_eq_none hother rfl) h

/-- The loops and the surroundings leave the connection to the calls. -/
theorem beat (h : s.Course) (hp : s.manager.period ≠ 0) {b : Beat}
    (hb : s.isOrderly b = true) :
  (s.beat b).Course
  := by
  cases b with
  | tick k =>
    rw [Traffic.beat]
    rcases s.tick_cases k with hs | ⟨l, tick, next, -, -, hs⟩
    · rw [hs]
      exact h
    · rw [hs]
      exact h.beside ⟨rfl, rfl, rfl, fun _ => rfl, id, .inl (Manager.roll_enter _ _ _)⟩
  | move move =>
    have hc := s.step_change move
    rw [Traffic.beat]
    generalize hs : s.step move = s' at hc
    cases hc with
    | idle => exact h
    | asked r =>
      rw [← hs]
      cases r with
      | stopMonitor => cases hb
      | _ =>
        apply h.ask hb
        intro hr
        cases hr
    | advanced i c hc hready => exact h.advance hc hready
    | watched k l hl hready =>
      exact h.beside (Manager.beside_advanceLoop hp (List.mem_of_getElem? hl))
    | elapsed time => exact h.beside ⟨rfl, rfl, rfl, fun _ => rfl, id, .inl rfl⟩
    | planned faults => exact h.beside ⟨rfl, rfl, rfl, fun _ => rfl, id, .inl rfl⟩
    | meddled store => cases hb

/-- As long as all that happens is in order, so is the manager. -/
theorem play (h : s.Course) (hp : s.manager.period ≠ 0) {beats : List Beat}
    (hb : s.isSequential beats = true) :
  (s.play beats).Course
  := by
  induction beats generalizing s with
  | nil => exact h
  | cons b rest ih =>
    obtain ⟨ho, hb⟩ := (Bool.and_eq_true _ _).mp hb
    have hset : (s.beat b).manager.settings = s.manager.settings := s.settings_play [b]
    apply ih (h.beat hp ho) _ hb
    rw [Manager.period, hset]
    exact hp

theorem steady (h : s.Course) (hi : s.isIdle = true) :
  s.manager.Steady
  := by
  cases h with
  | idle hn hm => exact hm
  | busy hc ho hf => cases (call?_eq_none_of_isIdle hi _).symm.trans hc

theorem loops_eq_nil (h : s.Course) (hu : s.manager.state.isUp = false) :
  s.manager.loops = []
  := by
  cases h with
  | idle hn hm => exact (hm.unwatched hu).loops
  | busy hc ho hf => exact hf.loops_eq_nil hu

end Course

/-! ### After a disconnect -/

/-- Whether no call is made, and the store is left to the manager. -/
def Beat.isCalm : Beat → Bool
  | .move (.ask _) | .move (.meddle _) => false
  | .move (.advance _) | .move (.watch _) | .move (.elapse _) | .move (.plan _) | .tick _ => true

/-- No call is in progress, and the connection was given back. -/
structure Resting (s : Traffic) : Prop where
  idle : ∀ i, s.call? i = none
  loops : s.manager.loops = []
  givenBack : s.manager.GivenBack

theorem tick_of_loops_eq_nil {s : Traffic} (h : s.manager.loops = []) (k : Nat) :
  s.tick k = s
  := by
  simp [tick, h]

theorem watch_of_loops_eq_nil {s : Traffic} (h : s.manager.loops = []) (k : Nat) :
  s.step (.watch k) = s
  := by
  simp [step, h]

theorem Resting.beat {s : Traffic} (h : s.Resting) {b : Beat} (hb : b.isCalm = true) :
  (s.beat b).Resting
  := by
  cases b with
  | tick k =>
    rw [Traffic.beat, tick_of_loops_eq_nil h.loops]
    exact h
  | move move =>
    cases move with
    | ask r => cases hb
    | advance i =>
      have hs : s.step (.advance i) = s := by simp only [step, h.idle i]
      rw [Traffic.beat, hs]
      exact h
    | watch k =>
      rw [Traffic.beat, watch_of_loops_eq_nil h.loops]
      exact h
    | elapse time =>
      exact ⟨h.idle, h.loops, h.givenBack.state, h.givenBack.status, h.givenBack.store⟩
    | plan faults =>
      exact ⟨h.idle, h.loops, h.givenBack.state, h.givenBack.status, h.givenBack.store⟩
    | meddle store => cases hb

/-- A connection that was given back stays so until the next call is made. -/
theorem Resting.play {s : Traffic} (h : s.Resting) {beats : List Beat}
    (hb : ∀ b ∈ beats, b.isCalm = true) :
  (s.play beats).Resting
  := by
  induction beats generalizing s with
  | nil => exact h
  | cons b rest ih =>
    obtain ⟨hc, hb⟩ := List.forall_mem_cons.mp hb
    exact ih (h.beat hc) hb

theorem givenBack_mark {m : Manager} (h : m.Released) (announced : Bool) :
  ((Call.disconnect announced .marking).advance m).1.GivenBack
    ∧ ((Call.disconnect announced .marking).advance m).1.loops = m.loops
  := by
  cases announced with
  | false => exact ⟨⟨h.bare.state, rfl, h.store⟩, rfl⟩
  | true => exact ⟨⟨h.bare.state, rfl, h.store⟩, rfl⟩

/-- A call that disconnects returns when it has given the connection back. -/
theorem Course.resting {s : Traffic} (h : s.Course) {i : Nat} (hd : s.Disconnects i) :
  (s.step (.advance i)).Resting
  := by
  obtain ⟨announced, hc⟩ := hd.marks
  obtain ⟨ho, hf⟩ := h.busy_of_call? hc
  have hf : s.manager.Released := hf
  obtain ⟨hg, hl⟩ := givenBack_mark hf announced
  rw [step_advance hc rfl]
  constructor
  case idle =>
    apply call?_settle_eq_none _ rfl
    intro j hj
    rw [call?_settle_of_ne s (Ne.symm hj)]
    exact ho j hj
  case loops =>
    rw [manager_settle, hl]
    exact hf.bare.unwatched.loops
  case givenBack =>
    rw [manager_settle]
    exact hg

/-- What holds of a manager that is used by one caller, who makes one call after another. -/
structure InOrder (s : Traffic) : Prop where
  /-- Between two calls nobody is connecting. -/
  state : s.isIdle = true → s.manager.state ≠ .connecting
  /-- Between two calls the connection is watched exactly if it is to be and is established. -/
  monitored : s.isIdle = true → (s.manager.isMonitored = true
    ↔ s.manager.settings.environment = .production
      ∧ s.manager.settings.healthCheckEnabled = true
      ∧ (s.manager.state = .connected ∨ s.manager.state = .degraded))
  /-- From the return of a call that disconnects until the next call the connection is given
  back. -/
  givenBack : ∀ i, s.Disconnects i → ∀ beats, (∀ b ∈ beats, b.isCalm = true) →
    ((s.step (.advance i)).play beats).manager.GivenBack
  /-- While there is no connection only the calls probe the store. -/
  unprobed : s.manager.state = .disconnected ∨ s.manager.state = .failed →
    ∀ b, s.isOrderly b = true → (∀ i, b ≠ .move (.advance i)) →
      (s.beat b).manager.store.pings = s.manager.store.pings

theorem pings_beat {s : Traffic} (h : s.manager.loops = []) {b : Beat}
    (hb : s.isOrderly b = true) (hn : ∀ i, b ≠ .move (.advance i)) :
  (s.beat b).manager.store.pings = s.manager.store.pings
  := by
  cases b with
  | tick k => rw [beat, tick_of_loops_eq_nil h]
  | move move =>
    cases move with
    | advance i => exact absurd rfl (hn i)
    | watch k => rw [beat, watch_of_loops_eq_nil h]
    | meddle store => cases hb
    | _ => rfl

theorem Course.inOrder {s : Traffic} (h : s.Course) :
  s.InOrder
  where
  state hi := (h.steady hi).state
  monitored hi := by
    rw [(h.steady hi).isMonitored, Settings.isMonitored, Bool.and_eq_true, Bool.and_eq_true,
      beq_iff_eq, ConnectionState.isUp_eq_true_iff, and_assoc]
  givenBack i hd beats hb := ((h.resting hd).play hb).givenBack
  unprobed hs b hb hn := by
    apply pings_beat _ hb hn
    apply h.loops_eq_nil
    rcases hs with hs | hs
    · rw [hs]
      rfl
    · rw [hs]
      rfl

/-- If one call is made after another on a new manager with settings that are accepted, it is in
order all the time. -/
theorem inOrder_of_isSequential (settings : Settings) (chance : Chance) (now : Nat)
    (store : MemoryStore) (beats : List Beat) (hv : settings.validate = .ok ())
    (hs : (opened settings chance now store).isSequential beats = true) :
  ((opened settings chance now store).play beats).InOrder
  := by
  have hfirst : (opened settings chance now store).Course := by
    apply Course.idle
    · intro i
      rfl
    · exact Manager.Unwatched.steady ⟨rfl, rfl⟩ (.inl rfl)
  exact (hfirst.play (Settings.healthCheckInterval_ne_zero hv) hs).inOrder

/-- The connection is given back while a slow probe is in progress, by a store that does not take it
back cleanly. -/
def farewell : List Beat :=
  watching ++ [.move (.plan { latency := 50, disconnect := some "socket hang up" }),
    .move (.ask .stop), .move (.advance 1), .move (.advance 1), .move (.elapse 50),
    .move (.watch 0), .move (.watch 0), .move (.watch 0), .move (.watch 0), .move (.advance 1),
    .move (.advance 1)]

theorem inOrder_farewell :
  attentive.manager.settings.validate = .ok () ∧ attentive.isSequential farewell = true
    ∧ (attentive.play farewell).InOrder ∧ (attentive.play farewell).Disconnects 1
    ∧ ((attentive.play farewell).step (.advance 1)).manager.GivenBack
  := by
  have hv : attentive.manager.settings.validate = .ok () := rfl
  have hs : attentive.isSequential farewell = true := by decide
  have h : (attentive.play farewell).InOrder := inOrder_of_isSequential _ _ _ _ farewell hv hs
  have hd : (attentive.play farewell).Disconnects 1 := ⟨⟨true, .marking, rfl⟩, by decide⟩
  exact ⟨hv, hs, h, hd, h.givenBack 1 hd [] nofun⟩

end Traffic

end Storekeeper

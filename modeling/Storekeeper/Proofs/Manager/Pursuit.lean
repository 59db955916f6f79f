import Storekeeper.Proofs.Manager.Frame

/-!
# What connecting changes

The decisive steps of a call: those of one that connects, and the one of a call that disconnects by
which it gives the connection back.
`Pursues` says what a connecting call that had its ticket already makes of a manager.  Either the
sequence goes on and the caller keeps its turn, or the call returns and the turn passes to the
next in the queue.
-/

namespace Storekeeper

theorem RetryPolicy.lt_budget_of_sequel {policy : RetryPolicy} {draw : UInt64} {number : Nat}
    {e : Error} (h : policy.sequel draw number e ≠ .surrender) :
  number < policy.budget
  := by
  unfold sequel at h
  split at h
  · next hc =>
    rw [Bool.and_eq_true, decide_eq_true_eq] at hc
    exact hc.2
  · exact absurd rfl h

/-- Whether a call that connects has its turn. -/
def Connect.isActive : Connect → Bool
  | arriving | waiting _ | crashed => false
  | opening _ | probing _ _ | closing _ _ | pausing _ _ _ => true
  | settling _ _ | marking _ | counting _ => true

namespace Manager

/-- What a step of a call that connects makes of the health of a connection. -/
inductive Pursuit (m : Manager) : Vitals → Prop where
  | kept : Pursuit m m.vitals
  | begun : Pursuit m { m.vitals with state := .connecting }
  | succeeded (latency : Nat) : Pursuit m (m.vitals.report m.instant m.threshold ⟨.ok (), latency⟩)
  | established (latency : Nat) :
    Pursuit m
      { m.vitals with state := (HealthStatus.ofLatency latency m.threshold).connectionState }
  | failed : Pursuit m { m.vitals with state := .failed }
  | marked : Pursuit m m.vitals.mark

/-- What a step may do to the loops and to the monitor, unless it is one of a loop or of a call that
stops to watch the connection: it leaves them as they are, or it starts a loop. -/
inductive Keeps (m m' : Manager) : Prop where
  | kept (hl : m'.loops = m.loops) (hm : m'.monitor = m.monitor)
  | started (hn : m.isMonitored = false) (hl : m'.loops = m.loops ++ [{ id := m.fresh }])
      (hm : m'.monitor = some m.fresh)

/-- `s` is what a call that connects and has its ticket can make of `m` in one step. -/
structure Pursues (m : Manager) (s : Connecting) : Prop where
  settings : s.1.settings = m.settings
  chance : s.1.chance = m.chance
  now : s.1.now = m.now
  fresh : m.fresh ≤ s.1.fresh
  keeps : m.Keeps s.1
  vitals : m.Pursuit s.1.vitals
  going : ∀ phase, s.2 = .going phase → phase.isActive = true ∧ s.1.queue = m.queue
    ∨ phase = .crashed ∧ s.1.queue = m.queue.tail
  done : ∀ r, s.2 = .done r → s.1.queue = m.queue.tail

theorem Pursuit.after {m : Manager} {store : MemoryStore} {journal : List Notice} {v : Vitals}
    (h : { m with store := store, journal := journal }.Pursuit v) :
  m.Pursuit v
  := by
  cases h with
  | kept => exact .kept
  | begun => exact .begun
  | succeeded latency => exact .succeeded latency
  | established latency => exact .established latency
  | failed => exact .failed
  | marked => exact .marked

theorem Keeps.after {m m' : Manager} {store : MemoryStore} {journal : List Notice}
    (h : { m with store := store, journal := journal }.Keeps m') :
  m.Keeps m'
  := by
  cases h with
  | kept hl hm => exact .kept hl hm
  | started hn hl hm => exact .started hn hl hm

/-- Before such a step the store may change, and something may be written to the journal. -/
theorem Pursues.after {m m' : Manager} {s : Connecting} (h : m'.Pursues s)
    (hm : ∃ store journal, m' = { m with store := store, journal := journal }) :
  m.Pursues s
  := by
  obtain ⟨store, journal, rfl⟩ := hm
  exact ⟨h.settings, h.chance, h.now, h.fresh, h.keeps.after, h.vitals.after, h.going, h.done⟩

theorem pursues_going {m m' : Manager} {phase : Connect}
    (hm : ∃ store journal, m' = { m with store := store, journal := journal })
    (h : phase.isActive = true) :
  m.Pursues (m', .going phase)
  := by
  obtain ⟨store, journal, rfl⟩ := hm
  constructor
  case settings => rfl
  case chance => rfl
  case now => rfl
  case fresh => exact Nat.le_refl _
  case keeps => exact .kept rfl rfl
  case vitals => exact .kept
  case going =>
    intro phase' hp
    cases hp
    exact .inl ⟨h, rfl⟩
  case done => simp

/-- Starting to watch the connection changes nothing but what concerns the loops. -/
theorem startMonitor_eq (m : Manager) :
  ∃ loops monitor fresh journal, m.fresh ≤ fresh
    ∧ m.startMonitor
      = { m with loops := loops, monitor := monitor, fresh := fresh, journal := journal }
  := by
  unfold startMonitor
  split
  · exact ⟨_, _, _, _, Nat.le_refl _, rfl⟩
  · exact ⟨_, _, _, _, Nat.le_succ _, rfl⟩

theorem keeps_startMonitor (m : Manager) :
  m.Keeps m.startMonitor
  := by
  unfold startMonitor
  cases h : m.isMonitored with
  | true => exact .kept rfl rfl
  | false => exact .started h rfl rfl

theorem keeps_establish (m : Manager) (a : Attempt) (latency : Nat) :
  m.Keeps (m.establish a latency).1
  := by
  simp only [establish]
  split
  · cases keeps_startMonitor _ with
    | kept hl hm => exact .kept hl hm
    | started hn hl hm => exact .started hn hl hm
  · exact .kept rfl rfl

theorem establish_eq (m : Manager) (a : Attempt) (latency : Nat) :
  ∃ loops monitor fresh journal, m.fresh ≤ fresh
    ∧ m.establish a latency
      = ({ m with
            state := (HealthStatus.ofLatency latency m.threshold).connectionState
            attempts := a.failures
            queue := m.queue.tail
            loops := loops
            monitor := monitor
            fresh := fresh
            journal := journal },
          .done (.ok ()))
  := by
  simp only [establish]
  split
  · obtain ⟨loops, monitor, fresh, journal, hf, h⟩ := startMonitor_eq _
    rw [h]
    exact ⟨loops, monitor, fresh, journal, hf, rfl⟩
  · exact ⟨_, _, _, _, Nat.le_refl _, rfl⟩

theorem pursues_takeTurn (m : Manager) :
  m.Pursues m.takeTurn
  := by
  unfold takeTurn
  split
  · constructor
    case settings => rfl
    case chance => rfl
    case now => rfl
    case fresh => exact Nat.le_refl _
    case keeps => exact .kept rfl rfl
    case vitals => exact .kept
    case going => simp
    case done =>
      intro r h
      rfl
  · constructor
    case settings => rfl
    case chance => rfl
    case now => rfl
    case fresh => exact Nat.le_refl _
    case keeps => exact .kept rfl rfl
    case vitals => exact .begun
    case going =>
      intro phase h
      cases h
      exact .inl ⟨rfl, rfl⟩
    case done => simp

theorem pursues_succeed (m : Manager) (a : Attempt) (latency : Nat) :
  m.Pursues (m.succeed a latency)
  where
  settings := rfl
  chance := rfl
  now := rfl
  fresh := Nat.le_refl _
  keeps := .kept rfl rfl
  vitals := .succeeded latency
  going phase h := by
    cases h
    exact .inl ⟨rfl, rfl⟩
  done r h := by cases h

theorem pursues_establish (m : Manager) (a : Attempt) (latency : Nat) :
  m.Pursues (m.establish a latency)
  := by
  have hk := m.keeps_establish a latency
  obtain ⟨loops, monitor, fresh, journal, hf, h⟩ := m.establish_eq a latency
  rw [h] at hk ⊢
  constructor
  case settings => rfl
  case chance => rfl
  case now => rfl
  case fresh => exact hf
  case keeps => exact hk
  case vitals => exact .established latency
  case going => simp
  case done =>
    intro r hr
    rfl

theorem pursues_giveUp (m : Manager) (d : Defeat) :
  m.Pursues (m.giveUp d)
  where
  settings := rfl
  chance := rfl
  now := rfl
  fresh := Nat.le_refl _
  keeps := .kept rfl rfl
  vitals := .kept
  going phase h := by cases h
  done r h := rfl

/-- All that can follow a failed attempt. -/
inductive Fails (m : Manager) (a : Attempt) : Connecting → Prop where
  | again (failures : List FailedAttempt) (due : Nat) (journal : List Notice)
      (h : a.number < m.settings.retryPolicy.budget) :
    Fails m a ({ m with journal := journal }, .going (.pausing (a.number + 1) failures due))
  | surrenders (e : Error) (journal : List Notice) :
    Fails m a
      ({ m with state := .failed, journal := journal },
        .going (.marking ⟨a.number, a.failures, e⟩))
  | crashes (h : a.number < m.settings.retryPolicy.budget) : Fails m a (m.leave, .going .crashed)

theorem fails_fail (m : Manager) (a : Attempt) (e : Error) :
  m.Fails a (m.fail a e)
  := by
  unfold fail
  split
  · next d h => exact .again _ _ _ (RetryPolicy.lt_budget_of_sequel (by rw [h]; simp))
  · exact .surrenders e _
  · next h => exact .crashes (RetryPolicy.lt_budget_of_sequel (by rw [h]; simp))

theorem Fails.pursues {m : Manager} {a : Attempt} {s : Connecting} (h : m.Fails a s) :
  m.Pursues s
  := by
  constructor
  case settings => cases h with | _ => rfl
  case chance => cases h with | _ => rfl
  case now => cases h with | _ => rfl
  case fresh => cases h with | _ => exact Nat.le_refl _
  case keeps => cases h with | _ => exact .kept rfl rfl
  case vitals =>
    cases h with
    | again => exact .kept
    | surrenders => exact .failed
    | crashes => exact .kept
  case going =>
    intro phase hp
    cases h with
    | crashes =>
      cases hp
      exact .inr ⟨rfl, rfl⟩
    | _ =>
      cases hp
      exact .inl ⟨rfl, rfl⟩
  case done =>
    intro r hd
    cases h with | _ => cases hd

theorem pursues_fail (m : Manager) (a : Attempt) (e : Error) :
  m.Pursues (m.fail a e)
  := (m.fails_fail a e).pursues

theorem pursues_conclude (m : Manager) (a : Attempt) (p : Probed) :
  m.Pursues (m.conclude a p)
  := by
  unfold conclude
  split
  · exact m.pursues_succeed a p.latency
  · exact pursues_going ⟨_, _, rfl⟩ rfl

/-! ### The store -/

theorem store_takeTurn (m : Manager) :
  m.takeTurn.1.store = m.store
  := by
  unfold takeTurn
  split
  · rfl
  · rfl

theorem store_fail (m : Manager) (a : Attempt) (e : Error) :
  (m.fail a e).1.store = m.store
  := by
  have hf := m.fails_fail a e
  generalize m.fail a e = s at hf
  cases hf with | _ => rfl

theorem store_conclude (m : Manager) (a : Attempt) (p : Probed) :
  (m.conclude a p).1.store = m.store
  := by
  unfold conclude
  split
  · rfl
  · rfl

theorem store_establish (m : Manager) (a : Attempt) (latency : Nat) :
  (m.establish a latency).1.store = m.store
  := by
  obtain ⟨loops, monitor, fresh, journal, -, h⟩ := m.establish_eq a latency
  rw [h]

/-- Connecting the store changes nothing else but the journal. -/
theorem openStore_eq (m : Manager) :
  ∃ store journal, m.openStore.2 = { m with store := store, journal := journal }
  := ⟨_, _, rfl⟩

theorem closeStore_eq (m : Manager) :
  ∃ store journal, m.closeStore.2 = { m with store := store, journal := journal }
  := ⟨_, _, rfl⟩

end Manager

/-- A call that has its ticket goes on with the sequence or returns. -/
theorem Connect.pursues_advance (m : Manager) (phase : Connect) (h : phase ≠ .arriving)
    (hc : phase ≠ .crashed) :
  m.Pursues (phase.advance m)
  := by
  cases phase with
  | arriving => exact absurd rfl h
  | crashed => exact absurd rfl hc
  | waiting ticket => exact m.pursues_takeTurn
  | opening a =>
    have ho := m.openStore_eq
    simp only [advance]
    split
    · next m' hs =>
      rw [hs] at ho
      exact Manager.pursues_going ho rfl
    · next e m' hs =>
      rw [hs] at ho
      exact (m'.pursues_fail a e).after ho
  | probing a probe =>
    simp only [advance]
    split
    · obtain ⟨pings, journal, hp⟩ := probe.advance_eq m
      split
      · next m' probe' hs =>
        rw [hs] at hp
        exact Manager.pursues_going ⟨_, _, hp⟩ rfl
      · next m' probed hs =>
        rw [hs] at hp
        exact (m'.pursues_conclude a probed).after ⟨_, _, hp⟩
    · exact m.pursues_fail a m.attemptTimeout
  | closing a e =>
    have hc := m.closeStore_eq
    simp only [advance]
    split
    · next m' hs =>
      rw [hs] at hc
      exact (m'.pursues_fail a e).after hc
    · next e' m' hs =>
      rw [hs] at hc
      obtain ⟨store, journal, rfl⟩ := hc
      apply (Manager.pursues_fail _ a e).after
      exact ⟨_, _, rfl⟩
  | pausing number failures due => exact Manager.pursues_going ⟨_, _, rfl⟩ rfl
  | settling a latency => exact m.pursues_establish a latency
  | marking d =>
    constructor
    case settings => rfl
    case chance => rfl
    case now => rfl
    case fresh => exact Nat.le_refl _
    case keeps => exact .kept rfl rfl
    case vitals => exact .marked
    case going =>
      intro phase hp
      cases hp
      exact .inl ⟨rfl, rfl⟩
    case done => simp [advance]
  | counting d => exact m.pursues_giveUp d

theorem MemoryStore.disconnect_snd (s : MemoryStore) :
  s.disconnect.2 = { s with connected := false }
  := by
  simp only [disconnect]
  split
  · rfl
  · rfl

/-- The store after the next step of a call that connects. -/
def Connect.store (m : Manager) : Connect → MemoryStore
  | arriving | waiting _ | pausing _ _ _ => m.store
  | settling _ _ | marking _ | counting _ | crashed => m.store
  | opening _ => m.store.connect.2
  | probing _ probe => if probe.isReady m.now then (probe.advance m).1.store else m.store
  | closing _ _ => m.store.disconnect.2

/-- A call that connects uses the store when an attempt starts, for its probe, and to disconnect
after a failed one. -/
theorem Connect.store_advance (m : Manager) (phase : Connect) :
  (phase.advance m).1.store = phase.store m
  := by
  cases phase with
  | arriving => rfl
  | waiting t => exact m.store_takeTurn
  | opening a =>
    have ho : m.openStore.2.store = m.store.connect.2 := rfl
    simp only [advance]
    split
    · next hs =>
      rw [hs] at ho
      exact ho
    · next e m' hs =>
      rw [hs] at ho
      exact (m'.store_fail a e).trans ho
  | probing a probe =>
    simp only [advance, store]
    split
    · split
      · next hs => rw [hs]
      · next m' p hs =>
        rw [hs]
        exact m'.store_conclude a p
    · exact m.store_fail a _
  | closing a e =>
    have hc : m.closeStore.2.store = m.store.disconnect.2 := rfl
    simp only [advance]
    split
    · next m' hs =>
      rw [hs] at hc
      exact (m'.store_fail a e).trans hc
    · next e' m' hs =>
      rw [hs] at hc
      exact (Manager.store_fail _ a e).trans hc
  | settling a latency => exact m.store_establish a latency
  | pausing number failures due => rfl
  | marking d => rfl
  | counting d => rfl
  | crashed => rfl

/-- Giving the connection back changes nothing but the connection and its state. -/
theorem Manager.release_eq (m : Manager) :
  ∃ journal,
    m.release
      = { m with
          store := { m.store with connected := false }
          state := .disconnected
          journal := journal }
  := by
  simp only [release, closeStore, MemoryStore.disconnect_snd]
  split
  · exact ⟨_, rfl⟩
  · exact ⟨_, rfl⟩

/-- The result of a call that connected or tried to. -/
def Outcome.connection? : Outcome → Option (Except Error Unit)
  | started r | connected r => some r
  | _ => none

namespace Call

/-- What one step of a call does to the manager. -/
inductive Effect (m : Manager) : Call → Manager → Prop where
  | aside {c : Call} {m' : Manager} (h : c.isDecisive = false) (ha : m.Aside m') : Effect m c m'
  | arrived (announced : Bool) :
    Effect m (connect announced .arriving)
      { m with queue := m.queue ++ [m.fresh], fresh := m.fresh + 1 }
  | pursued (announced : Bool) {phase : Connect} (h : phase ≠ .arriving) (hc : phase ≠ .crashed)
      (hp : m.Pursues (phase.advance m)) (journal : List Notice) :
    Effect m (connect announced phase) { (phase.advance m).1 with journal := journal }
  | released (announced : Bool) (journal : List Notice) :
    Effect m (disconnect announced .closing)
      { m with
        store := { m.store with connected := false }
        state := .disconnected
        journal := journal }

/-- A call that connects does to the manager what its phase does, and writes to the log. -/
theorem connect_advance_eq (m : Manager) (announced : Bool) (phase : Connect) :
  ∃ journal,
    ((connect announced phase).advance m).1 = { (phase.advance m).1 with journal := journal }
  := by
  simp only [advance]
  generalize phase.advance m = step
  obtain ⟨m', progress⟩ := step
  cases progress with
  | going phase => exact ⟨m'.journal, rfl⟩
  | done r =>
    cases announced with
    | false => exact ⟨m'.journal, rfl⟩
    | true =>
      cases r with
      | ok u => exact ⟨(m'.log .info "✅ Database connection manager started").journal, rfl⟩
      | error e => exact ⟨m'.journal, rfl⟩

theorem state_connect (m : Manager) (announced : Bool) (phase : Connect) :
  ((connect announced phase).advance m).1.state = (phase.advance m).1.state
  := by
  obtain ⟨journal, h⟩ := connect_advance_eq m announced phase
  rw [h]

theorem store_connect (m : Manager) (announced : Bool) (phase : Connect) :
  ((connect announced phase).advance m).1.store = phase.store m
  := by
  obtain ⟨journal, h⟩ := connect_advance_eq m announced phase
  rw [h]
  exact phase.store_advance m

theorem connect_advance_going {m : Manager} {phase phase' : Connect}
    (h : (phase.advance m).2 = .going phase') (announced : Bool) :
  ((connect announced phase).advance m).2 = .going (connect announced phase')
  := snd_lift_going h

theorem connection?_connectResult (announced : Bool) (m : Manager) (r : Except Error Unit) :
  (connectResult announced m r).2.connection? = some r
  := by
  cases announced with
  | false => rfl
  | true =>
    cases r with
    | ok u => rfl
    | error e => rfl

theorem connect_advance_done {m : Manager} {phase : Connect} {r : Except Error Unit}
    (h : (phase.advance m).2 = .done r) (announced : Bool) :
  ∃ o, ((connect announced phase).advance m).2 = .done o ∧ o.connection? = some r
  := ⟨_, snd_lift_done h, connection?_connectResult announced _ r⟩

theorem done_connect {m : Manager} {announced : Bool} {phase : Connect} {o : Outcome}
    (h : ((connect announced phase).advance m).2 = .done o) :
  ∃ r, (phase.advance m).2 = .done r ∧ o.connection? = some r
  := by
  obtain ⟨r, hr, rfl⟩ := done_lift h
  exact ⟨r, hr, connection?_connectResult announced _ r⟩

theorem effect_connect (m : Manager) (announced : Bool) (phase : Connect) (hc : phase ≠ .crashed) :
  Effect m (connect announced phase) ((connect announced phase).advance m).1
  := by
  by_cases ha : phase = .arriving
  · subst ha
    exact .arrived announced
  · obtain ⟨journal, h⟩ := connect_advance_eq m announced phase
    rw [h]
    exact .pursued announced ha hc (phase.pursues_advance m ha hc) journal

theorem effect_release (m : Manager) (announced : Bool) :
  Effect m (disconnect announced .closing) ((disconnect announced .closing).advance m).1
  := by
  obtain ⟨journal, h⟩ := m.release_eq
  simp only [advance, Disconnect.advance, h]
  exact .released announced journal

theorem effect_advance (m : Manager) (c : Call) :
  c.Effect m (c.advance m).1
  := by
  by_cases hd : c.isDecisive
  · cases c with
    | connect announced phase =>
      apply effect_connect m announced phase
      rintro rfl
      cases hd
    | disconnect announced phase =>
      cases phase with
      | closing => exact effect_release m announced
      | _ => cases hd
    | _ => cases hd
  · have hd := Bool.eq_false_iff.mpr hd
    exact .aside hd (aside_advance m c hd)

theorem Effect.settings {m m' : Manager} {c : Call} (h : c.Effect m m') :
  m'.settings = m.settings
  := by
  cases h with
  | aside hd ha => exact ha.settings
  | arrived announced => rfl
  | pursued announced h hc hp journal => exact hp.settings
  | released announced journal => rfl

/-- No time passes during a step. -/
theorem Effect.now {m m' : Manager} {c : Call} (h : c.Effect m m') :
  m'.now = m.now
  := by
  cases h with
  | aside hd ha => exact ha.now
  | arrived announced => rfl
  | pursued announced h hc hp journal => exact hp.now
  | released announced journal => rfl

/-- Who does not connect does nothing to the queue. -/
theorem Effect.queue {m m' : Manager} {c : Call} (h : c.Effect m m')
    (hn : ∀ announced phase, c ≠ connect announced phase) :
  m'.queue = m.queue ∧ m'.fresh = m.fresh
  := by
  cases h with
  | aside hd ha => exact ⟨ha.queue, ha.fresh⟩
  | arrived announced => exact absurd rfl (hn announced .arriving)
  | pursued announced h hc hp journal => exact absurd rfl (hn announced _)
  | released announced journal => exact ⟨rfl, rfl⟩

end Call

end Storekeeper

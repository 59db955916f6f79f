import Storekeeper.Proofs.Manager.Turns

/-!
# After a disconnect

A call that disconnects does not wait for the callers that connect, nor for a loop that was started
while it waited for the end of an earlier one.  So the connection need not stay down after such a
call returned, even if nobody asks for a connection from then on.  `Traffic.staysDown_iff` says
when it does: exactly when nobody was connecting at that moment, and nobody had brought the
connection up again between the last steps of the call.

That nothing else can bring the connection up again is an invariant.  That somebody who connects
always can do so shows in what he needs for it: no more than his turn, some time, and a store
without planned failures.  The callers before him may have to leave the queue first.
-/

namespace Storekeeper

namespace Manager

/-- The connection is down and known to be so, and nobody watches it. -/
structure Down (m : Manager) : Prop where
  state : m.state = .disconnected
  status : m.metrics.status ≠ .healthy
  store : m.store.connected = false
  monitor : m.isMonitored = false

/-- A step beside the connection does not start to watch it. -/
theorem Aside.isMonitored {m m' : Manager} (h : m.Aside m') (hm : m.isMonitored = false) :
  m'.isMonitored = false
  := by
  rw [← Bool.not_eq_true, isMonitored_eq_true_iff] at hm ⊢
  rintro ⟨id, hid, hs⟩
  apply hm
  use id, h.loops.subset hid
  rcases h.monitor with hk | hn
  · rw [← hk, hs]
  · cases hs.symm.trans hn

/-- A step beside the connection does not bring it up: no probe succeeds while it is down. -/
theorem Aside.down {m m' : Manager} (h : m.Aside m') (hd : m.Down) :
  m'.Down
  where
  state := by
    have hs : m'.state = m.state := by
      apply h.vitals.state
      rw [hd.state]
      rfl
    rw [hs, hd.state]
  status := by
    have hv := h.vitals
    generalize hs : m'.vitals = v at hv
    have hs : m'.metrics.status = v.status := congrArg Vitals.status hs
    rw [hs]
    cases hv with
    | nothing => exact hd.status
    | reported p hp =>
      intro hh
      cases hd.store.symm.trans (hp (Probed.status_eq_healthy_iff.mp hh).1)
    | settled status => exact hd.status
    | marked => nofun
  store := by
    rw [← Bool.not_eq_true]
    intro hc
    cases hd.store.symm.trans (h.connected hc)
  monitor := h.isMonitored hd.monitor

end Manager

/-- Whether a call that connects may yet bring the connection up, or write a failure into its state:
it has not written one already, and is not about to end without a result. -/
def Connect.Seeks (m : Manager) : Connect → Prop
  | marking _ | counting _ | crashed => False
  | closing a e =>
    m.settings.retryPolicy.sequel (m.chance.draw m.store.connectAttempts) a.number e ≠ .crash
  | _ => True

/-- Whether a call connects, or is going to. -/
def Call.Seeks (m : Manager) : Call → Prop
  | start => m.settings.validate = .ok ()
  | connect _ phase => phase.Seeks m
  | _ => False

/-- What a call seeks depends on little of the manager. -/
theorem Call.seeks_congr {m m' : Manager} {c : Call} (hs : m'.settings = m.settings)
    (hc : m'.chance = m.chance) (ha : m'.store.connectAttempts = m.store.connectAttempts)
    (h : c.Seeks m') :
  c.Seeks m
  := by
  cases c with
  | start =>
    rw [Seeks, ← hs]
    exact h
  | connect announced phase =>
    cases phase with
    | closing a e =>
      rw [Seeks, Connect.Seeks, ← hs, ← hc, ← ha]
      exact h
    | _ => exact h
  | _ => exact h

/-- A call that connects and seeks nothing any more is about to return or to end without a result,
and leaves the connection as it is. -/
inductive Connect.Idles (m : Manager) : Manager.Connecting → Prop where
  | marked (d : Defeat) : Idles m (m.markUnhealthy, .going (.counting d))
  | gaveUp (d : Defeat) : Idles m (m.giveUp d)
  | crashed (journal : List Notice) :
    Idles m
      ({ m with
          store := { m.store with connected := false }
          queue := m.queue.tail
          journal := journal },
        .going .crashed)
  | ended : Idles m (m, .going .crashed)

namespace Connect

/-- The store is disconnected before what follows a failed probe. -/
theorem advance_closing (m : Manager) (a : Attempt) (e : Error) :
  ∃ journal,
    (closing a e).advance m
      = { m with
          store := { m.store with connected := false }
          journal := journal }.fail a e
  := by
  simp only [advance, Manager.closeStore, MemoryStore.disconnect_snd]
  split
  · next h =>
    rw [← (Prod.mk.inj h).2]
    exact ⟨_, rfl⟩
  · next h =>
    rw [← (Prod.mk.inj h).2]
    exact ⟨_, rfl⟩

theorem advance_closing_of_crash {m : Manager} {a : Attempt} {e : Error}
    (h : ¬ (closing a e).Seeks m) :
  ∃ journal,
    (closing a e).advance m
      = ({ m with
            store := { m.store with connected := false }
            queue := m.queue.tail
            journal := journal },
          .going .crashed)
  := by
  obtain ⟨journal, ha⟩ := advance_closing m a e
  use journal
  rw [ha]
  simp only [Manager.fail, Classical.not_not.mp h]
  rfl

theorem idles_advance {m : Manager} {phase : Connect} (h : ¬ phase.Seeks m) :
  Idles m (phase.advance m)
  := by
  cases phase with
  | marking d => exact .marked d
  | counting d => exact .gaveUp d
  | crashed => exact .ended
  | closing a e =>
    obtain ⟨journal, ha⟩ := advance_closing_of_crash h
    rw [ha]
    exact .crashed journal
  | _ => exact absurd trivial h

theorem Idles.down {m : Manager} {s : Manager.Connecting} (h : Idles m s) (hd : m.Down) :
  s.1.Down
  := by
  cases h with
  | marked d => exact ⟨hd.state, nofun, hd.store, hd.monitor⟩
  | gaveUp d => exact ⟨hd.state, hd.status, hd.store, hd.monitor⟩
  | crashed journal => exact ⟨hd.state, hd.status, rfl, hd.monitor⟩
  | ended => exact hd

theorem Idles.attempts {m : Manager} {s : Manager.Connecting} (h : Idles m s) :
  s.1.store.connectAttempts = m.store.connectAttempts
  := by
  cases h with | _ => rfl

theorem Idles.not_seeks {m m' : Manager} {s : Manager.Connecting} (h : Idles m s)
    {phase : Connect} (hs : s.2 = .going phase) :
  ¬ phase.Seeks m'
  := by
  cases h with
  | gaveUp d => cases hs
  | _ =>
    cases hs
    exact id

end Connect

/-- Nobody connects after a step unless he sought to before it. -/
theorem Call.seeks_of_going {m m' : Manager} {c c' : Call} (h : (c.advance m).2 = .going c')
    (hs : c'.Seeks m') :
  c.Seeks m
  := by
  cases goesOn_of_going h with
  | start hv => exact hv
  | connect announced hp =>
    by_contra hn
    exact (Connect.idles_advance hn).not_seeks hp hs
  | _ => cases hs

namespace Traffic

/-- Nobody connects, or is going to. -/
def Unsought (s : Traffic) : Prop := ∀ i c, s.call? i = some c → ¬ c.Seeks s.manager

/-- Whether a move leaves the store to the manager. -/
def Move.isPrivate : Move → Bool
  | .meddle _ => false
  | _ => true

/-- Whether a move leaves the store to the manager and asks for no connection. -/
def Move.isPassive : Move → Bool
  | .ask r => !r.isToConnect
  | move => move.isPrivate

/-- The connection stays down as long as nobody asks for one. -/
def StaysDown (s : Traffic) : Prop :=
  ∀ moves : List Move, (∀ move ∈ moves, move.isPassive = true) → (s.run moves).manager.Down

/-- The call with the given number disconnects, and returns with its next step. -/
def Disconnects (s : Traffic) (i : Nat) : Prop :=
  (∃ announced phase, s.call? i = some (.disconnect announced phase)) ∧ (s.outcome? i).isSome = true

/-! ### Staying down -/

/-- What a caller seeks depends on nothing that changes while nobody connects. -/
theorem Change.seeks_congr {s s' : Traffic} {move : Move} (h : s.Change move s')
    (hp : move.isPassive = true) (hu : s.Unsought) {c : Call} (hs : c.Seeks s'.manager) :
  c.Seeks s.manager
  := by
  cases h with
  | advanced i c' hc hr =>
    have he := c'.effect_advance s.manager
    rw [manager_settle] at hs
    generalize hm : (c'.advance s.manager).1 = m at he hs
    cases he with
    | aside h ha => exact Call.seeks_congr ha.settings ha.chance ha.attempts hs
    | arrived announced => exact absurd trivial (hu i _ hc)
    | pursued announced h hc' hp journal =>
      have hi := Connect.idles_advance (hu i _ hc)
      exact Call.seeks_congr hp.settings hp.chance hi.attempts hs
    | released announced journal => exact Call.seeks_congr rfl rfl rfl hs
  | watched k l h hr =>
    have ha := s.manager.aside_advanceLoop l
    exact Call.seeks_congr ha.settings ha.chance ha.attempts hs
  | meddled store => cases hp
  | _ => exact Call.seeks_congr rfl rfl rfl hs

theorem Change.unsought {s s' : Traffic} {move : Move} (h : s.Change move s')
    (hp : move.isPassive = true) (hu : s.Unsought) :
  s'.Unsought
  := by
  intro j c' hc' hs
  have hseeks := h.seeks_congr hp hu hs
  cases h with
  | asked r =>
    rw [← step, call?_ask] at hc'
    split at hc'
    · cases r with
      | start | connect => cases hp
      | _ =>
        cases hc'
        cases hs
    · exact hu j c' hc' hseeks
  | advanced i c hc hr =>
    by_cases hij : i = j
    · subst hij
      exact hu i c hc (Call.seeks_of_going (going_of_call?_settle hc') hs)
    · rw [call?_settle_of_ne s hij] at hc'
      exact hu j c' hc' hseeks
  | meddled store => cases hp
  | _ => exact hu j c' hc' hseeks

theorem Change.down {s s' : Traffic} {move : Move} (h : s.Change move s')
    (hp : move.isPassive = true) (hu : s.Unsought) (hd : s.manager.Down) :
  s'.manager.Down
  := by
  cases h with
  | advanced i c hc hr =>
    have he := c.effect_advance s.manager
    rw [manager_settle]
    generalize (c.advance s.manager).1 = m at he
    cases he with
    | aside h ha => exact ha.down hd
    | arrived announced => exact absurd trivial (hu i _ hc)
    | pursued announced h hc' hp journal =>
      have hd' := (Connect.idles_advance (hu i _ hc)).down hd
      exact ⟨hd'.state, hd'.status, hd'.store, hd'.monitor⟩
    | released announced journal => exact ⟨rfl, hd.status, rfl, hd.monitor⟩
  | watched k l h hr => exact (s.manager.aside_advanceLoop l).down hd
  | meddled store => cases hp
  | _ => exact ⟨hd.state, hd.status, hd.store, hd.monitor⟩

/-- A connection that is down stays down as long as nobody seeks one. -/
theorem staysDown_of_unsought {s : Traffic} (hd : s.manager.Down) (hu : s.Unsought) :
  s.StaysDown
  := by
  intro moves
  induction moves generalizing s with
  | nil =>
    intro hp
    exact hd
  | cons move moves ih =>
    intro hp
    obtain ⟨hm, hp⟩ := List.forall_mem_cons.mp hp
    have hc := s.step_change move
    exact ih (hc.down hm hu hd) (hc.unsought hm hu) hp

end Traffic

/-! ### Bringing the connection up -/

theorem Manager.state_takeTurn {m : Manager} (h : m.state.isUp = false) :
  m.takeTurn.1.state = .connecting
  := by
  simp only [takeTurn, h, if_false, Bool.false_eq_true]
  rfl

theorem Manager.state_establish (m : Manager) (a : Attempt) (latency : Nat) :
  (m.establish a latency).1.state.isUp = true
  := by
  obtain ⟨loops, monitor, fresh, journal, -, h⟩ := m.establish_eq a latency
  rw [h]
  exact HealthStatus.isUp_connectionState _

theorem Manager.Down.not_isUp {m : Manager} (h : m.Down) :
  m.state.isUp = false
  := by
  rw [h.state]
  rfl

namespace Traffic

/-- The connection does not stay down, even if nobody asks for one. -/
def Leaks (s : Traffic) : Prop :=
  ∃ moves : List Move, (∀ move ∈ moves, move.isPassive = true) ∧ ¬ (s.run moves).manager.Down

theorem Leaks.not_staysDown {s : Traffic} (h : s.Leaks) :
  ¬ s.StaysDown
  := by
  obtain ⟨moves, hp, hd⟩ := h
  intro hs
  exact hd (hs moves hp)

theorem leaks_of_not_down {s : Traffic} (h : ¬ s.manager.Down) :
  s.Leaks
  := ⟨[], by simp, h⟩

theorem Leaks.of_step {s : Traffic} {move : Move} (hp : move.isPassive = true)
    (h : (s.step move).Leaks) :
  s.Leaks
  := by
  obtain ⟨moves, hps, hd⟩ := h
  exact ⟨move :: moves, List.forall_mem_cons.mpr ⟨hp, hps⟩, hd⟩

theorem Leaks.of_advance {s : Traffic} (i : Nat) (h : (s.step (.advance i)).Leaks) :
  s.Leaks
  := h.of_step rfl

section

variable {s : Traffic} {i : Nat} {announced : Bool}

/-- The connection does not stay down if a step of a caller that connects leaves it otherwise. -/
theorem leaks_of_step {phase : Connect} (hc : s.call? i = some (.connect announced phase))
    (hr : phase.isReady s.manager = true) (h : ¬ (phase.advance s.manager).1.Down) :
  s.Leaks
  := by
  apply Leaks.of_advance i
  apply leaks_of_not_down
  obtain ⟨journal, hm⟩ := Call.connect_advance_eq s.manager announced phase
  rw [step_advance hc hr, manager_settle, hm]
  intro hd
  exact h ⟨hd.state, hd.status, hd.store, hd.monitor⟩

/-- The phase after a step of a caller that connects. -/
theorem call?_of_going {phase phase' : Connect}
    (hc : s.call? i = some (.connect announced phase)) (hr : phase.isReady s.manager = true)
    (h : (phase.advance s.manager).2 = .going phase') :
  (s.step (.advance i)).call? i = some (.connect announced phase')
  := by
  rw [step_advance hc hr]
  exact call?_settle_going (lt_length_of_call? hc) (Call.connect_advance_going h announced)

/-- Taking a turn shows in the state of the connection. -/
theorem leaks_of_turn {t : Nat} (hc : s.call? i = some (.connect announced (.waiting t)))
    (hr : (Connect.waiting t).isReady s.manager = true) :
  s.Leaks
  := by
  by_cases hd : s.manager.Down
  · apply leaks_of_step hc hr
    intro hd'
    cases (Manager.state_takeTurn hd.not_isUp).symm.trans hd'.state
  · exact leaks_of_not_down hd

/-- An attempt connects the store if no failure is planned. -/
theorem leaks_of_opening {a : Attempt} (hc : s.call? i = some (.connect announced (.opening a))) :
  s.Leaks
  := by
  apply Leaks.of_step (show Move.isPassive (.plan {}) = true from rfl)
  apply leaks_of_step (s := s.step (.plan {})) hc rfl
  intro hd
  cases hd.store

theorem leaks_of_pausing {number due : Nat} {failures : List FailedAttempt}
    (hc : s.call? i = some (.connect announced (.pausing number failures due))) :
  s.Leaks
  := by
  apply Leaks.of_step (show Move.isPassive (.elapse due) = true from rfl)
  have hr : (Connect.pausing number failures due).isReady (s.step (.elapse due)).manager = true :=
    decide_eq_true (Nat.le_add_left due s.manager.now)
  apply Leaks.of_advance i
  exact leaks_of_opening (call?_of_going (s := s.step (.elapse due)) hc hr rfl)

theorem leaks_of_settling {a : Attempt} {latency : Nat}
    (hc : s.call? i = some (.connect announced (.settling a latency))) :
  s.Leaks
  := by
  apply leaks_of_step hc rfl
  intro hd
  cases (s.manager.state_establish a latency).symm.trans hd.not_isUp

theorem leaks_of_closing {a : Attempt} {e : Error}
    (hc : s.call? i = some (.connect announced (.closing a e)))
    (hs : (Connect.closing a e).Seeks s.manager) :
  s.Leaks
  := by
  obtain ⟨journal, ha⟩ := Connect.advance_closing s.manager a e
  cases hq : s.manager.settings.retryPolicy.sequel
      (s.manager.chance.draw s.manager.store.connectAttempts) a.number e with
  | again d =>
    apply Leaks.of_advance i
    apply leaks_of_pausing (call?_of_going hc rfl _)
    · exact a.number + 1
    · exact s.manager.now + d.toNat
    · exact a.failures ++ [⟨a.number, Redaction.ofError e, some d⟩]
    · rw [ha]
      simp only [Manager.fail, hq]
  | surrender =>
    apply leaks_of_step hc rfl
    rw [ha]
    simp only [Manager.fail, hq]
    intro hd
    cases hd.state
  | crash => exact absurd hq hs

/-- A probe cannot succeed while the connection is down, and its failure is not one after which
there is another attempt. -/
theorem leaks_of_probing {a : Attempt} {probe : Probe}
    (hc : s.call? i = some (.connect announced (.probing a probe))) :
  s.Leaks
  := by
  by_cases hd : s.manager.Down
  · have hgo : ∀ s' : Traffic, s'.manager.store.connected = false →
        s'.call? i = some (.connect announced (.probing a probe)) →
        probe.isReady s'.manager.now = true → (∃ p, (probe.advance s'.manager).2 = .done p) →
          s'.Leaks := by
      rintro s' hstore hc' hr ⟨p, hp⟩
      have ho : p.outcome = .error .notConnected := by
        rw [Probe.advance_done hp, Probe.probed, Ping.outcome, hstore]
        rfl
      have hg : ((Connect.probing a probe).advance s'.manager).2
          = .going (.closing a .notConnected) := by
        simp only [Connect.advance, hr, if_true]
        generalize probe.advance s'.manager = step at hp
        obtain ⟨m', progress⟩ := step
        subst hp
        simp only [Manager.conclude, ho]
      apply Leaks.of_advance i
      apply leaks_of_closing (call?_of_going hc' _ hg)
      · simp [Connect.Seeks, RetryPolicy.sequel, RetryPolicy.isRetriable]
      · simp [Connect.isReady, hr]
    cases probe with
    | ready =>
      apply Leaks.of_step (show Move.isPassive (.plan {}) = true from rfl)
      apply hgo (s.step (.plan {})) hd.store hc rfl
      have hdue : (s.step (.plan {})).manager.startPing.1.due ≤ s.manager.now := Nat.le_refl _
      refine ⟨((s.step (.plan {})).manager.startPing.2.endPing
        (s.step (.plan {})).manager.startPing.1).1, ?_⟩
      simp only [Probe.advance]
      exact if_pos hdue ▸ rfl
    | waiting ping =>
      apply Leaks.of_step (show Move.isPassive (.elapse ping.due) = true from rfl)
      apply hgo (s.step (.elapse ping.due)) hd.store hc
      · exact decide_eq_true (Nat.le_add_left ping.due s.manager.now)
      · exact ⟨_, rfl⟩
  · exact leaks_of_not_down hd

/-- A caller that has its turn and seeks the connection brings it up, or says that it failed. -/
theorem leaks_of_active {phase : Connect} (hc : s.call? i = some (.connect announced phase))
    (ha : phase.isActive = true) (hs : phase.Seeks s.manager) :
  s.Leaks
  := by
  cases phase with
  | arriving | waiting t | crashed => cases ha
  | opening a => exact leaks_of_opening hc
  | probing a probe => exact leaks_of_probing hc
  | closing a e => exact leaks_of_closing hc hs
  | pausing number failures due => exact leaks_of_pausing hc
  | settling a latency => exact leaks_of_settling hc
  | marking d | counting d => cases hs

/-- A caller that has its turn and seeks nothing any more leaves the queue. -/
theorem exists_departure {phase : Connect} (hc : s.call? i = some (.connect announced phase))
    (ha : phase.isActive = true) (hs : ¬ phase.Seeks s.manager) :
  ∃ moves : List Move, (∀ move ∈ moves, move = .advance i)
    ∧ (s.run moves).manager.queue = s.manager.queue.tail
  := by
  have hqueue : ∀ {s' : Traffic} {phase : Connect},
      s'.call? i = some (.connect announced phase) → phase.isReady s'.manager = true →
        (s'.step (.advance i)).manager.queue = (phase.advance s'.manager).1.queue := by
    intro s' phase hc hr
    obtain ⟨journal, hm⟩ := Call.connect_advance_eq s'.manager announced phase
    rw [step_advance hc hr, manager_settle, hm]
  cases phase with
  | marking d =>
    use [.advance i, .advance i], by simp
    have hc' := call?_of_going hc rfl rfl
    exact (hqueue hc' rfl).trans (congrArg List.tail (hqueue hc rfl))
  | counting d =>
    use [.advance i], by simp
    exact hqueue hc rfl
  | closing a e =>
    use [.advance i], by simp
    obtain ⟨journal, he⟩ := Connect.advance_closing_of_crash hs
    rw [run_cons, run_nil, hqueue hc rfl, he]
  | arriving | waiting t | crashed => cases ha
  | _ => exact absurd trivial hs

/-- The steps of one caller do not move another one. -/
theorem beside_moves {moves : List Move} (hm : ∀ move ∈ moves, move = .advance i) {j : Nat}
    (hij : j ≠ i) {c : Call} (hl : ∃ line, s.Line line) (hc : s.call? j = some c) :
  (∃ line, (s.run moves).Line line) ∧ (s.run moves).call? j = some c
  := by
  induction moves generalizing s with
  | nil => exact ⟨hl, hc⟩
  | cons move moves ih =>
    obtain ⟨rfl, hrest⟩ := List.forall_mem_cons.mp hm
    apply ih hrest
    · exact (s.step_change (.advance i)).line hl
    · apply call?_beside hc
      rintro ⟨he, -⟩
      cases he
      exact hij rfl

/-- A caller that waits for its turn gets it in the end, unless those before it bring the connection
up. -/
theorem leaks_of_waiting {t : Nat} (hl : ∃ line, s.Line line)
    (hc : s.call? i = some (.connect announced (.waiting t))) :
  s.Leaks
  := by
  have ht : ∀ {s' : Traffic}, s'.call? i = some (.connect announced (.waiting t)) →
      s'.turn? i = some (.waiting t) := by
    intro s' hc
    rw [turn?, hc]
    rfl
  -- The induction is on the number of the callers in the queue.
  induction hn : s.manager.queue.length generalizing s with
  | zero =>
    obtain ⟨line, hline⟩ := hl
    exact absurd (List.length_eq_zero_iff.mp hn) (hline.queue_ne_nil (ht hc))
  | succ n ih =>
    obtain ⟨line, hline⟩ := hl
    obtain ⟨j, phase, hp, hw⟩ := hline.exists_turn (hline.queue_ne_nil (ht hc))
    obtain ⟨announced', hc', -, -⟩ := turn?_eq_some hp
    rcases hw with ha | ⟨t', rfl, hr⟩
    · by_cases hs : phase.Seeks s.manager
      · exact leaks_of_active hc' ha hs
      · have hij : i ≠ j := by
          rintro rfl
          cases (ht hc).symm.trans hp
          cases ha
        obtain ⟨moves, hm, hq⟩ := exists_departure hc' ha hs
        obtain ⟨hl', hc''⟩ := beside_moves hm hij ⟨line, hline⟩ hc
        obtain ⟨rest, hrest, hd⟩ := ih hl' hc'' (by rw [hq, List.length_tail, hn]; rfl)
        refine ⟨moves ++ rest, ?_, ?_⟩
        · intro move hmove
          rcases List.mem_append.mp hmove with hmove | hmove
          · rw [hm move hmove]
            rfl
          · exact hrest move hmove
        · rw [run_append]
          exact hd
    · exact leaks_of_turn hc' hr

/-- A caller that connects and seeks the connection does not let it stay down. -/
theorem leaks_of_connect {phase : Connect} (hl : ∃ line, s.Line line)
    (hc : s.call? i = some (.connect announced phase)) (hs : phase.Seeks s.manager) :
  s.Leaks
  := by
  cases hphase : phase with
  | arriving =>
    subst hphase
    apply Leaks.of_advance i
    exact leaks_of_waiting ((s.step_change (.advance i)).line hl) (call?_of_going hc rfl rfl)
  | waiting t =>
    subst hphase
    exact leaks_of_waiting hl hc
  | crashed =>
    subst hphase
    cases hs
  | _ =>
    apply leaks_of_active hc _ hs
    rw [hphase]
    rfl

end

theorem leaks_of_seeks {s : Traffic} (hl : ∃ line, s.Line line) {i : Nat} {c : Call}
    (hc : s.call? i = some c) (hs : c.Seeks s.manager) :
  s.Leaks
  := by
  cases c with
  | start =>
    apply Leaks.of_advance i
    have hg : (Call.start.advance s.manager).2 = .going (.connect true .arriving) := by
      have hv : s.manager.settings.validate = .ok () := hs
      simp only [Call.advance, Call.advanceStart, hv]
    have hc' : (s.step (.advance i)).call? i = some (.connect true .arriving) := by
      rw [step_advance hc rfl]
      exact call?_settle_going (lt_length_of_call? hc) hg
    exact leaks_of_connect ((s.step_change (.advance i)).line hl) hc' trivial
  | connect announced phase => exact leaks_of_connect hl hc hs
  | _ => cases hs

/-! ### The return of a disconnect -/

/-- A call that disconnects returns when it has reported the connection as down. -/
theorem Disconnects.marks {s : Traffic} {i : Nat} (h : s.Disconnects i) :
  ∃ announced, s.call? i = some (.disconnect announced .marking)
  := by
  obtain ⟨⟨announced, phase, hc⟩, ho⟩ := h
  obtain ⟨o, ho⟩ := Option.isSome_iff_exists.mp ho
  obtain ⟨c, hc', -, hd⟩ := outcome?_eq_some_iff.mp ho
  cases hc.symm.trans hc'
  cases phase with
  | marking => exact ⟨announced, hc⟩
  | closing => cases hd
  | stopping phase =>
    simp only [Call.advance, Disconnect.advance] at hd
    split at hd
    · cases hd
    · cases hd

/-- When a call that disconnects returns, the connection is reported as down, but others may have
brought it up again since the call gave it back. -/
theorem Disconnects.down_iff {s : Traffic} {i : Nat} (h : s.Disconnects i) :
  (s.step (.advance i)).manager.Down
    ↔ s.manager.state = .disconnected ∧ s.manager.store.connected = false
      ∧ s.manager.isMonitored = false
  := by
  obtain ⟨announced, hc⟩ := h.marks
  have hm : ∃ journal, (s.step (.advance i)).manager
      = { s.manager.markUnhealthy with journal := journal } := by
    rw [step_advance hc rfl, manager_settle]
    cases announced with
    | false => exact ⟨_, rfl⟩
    | true => exact ⟨_, rfl⟩
  obtain ⟨journal, hm⟩ := hm
  rw [hm]
  constructor
  · intro hd
    exact ⟨hd.state, hd.store, hd.monitor⟩
  · rintro ⟨hs, hst, hmon⟩
    exact ⟨hs, nofun, hst, hmon⟩

/-- A second disconnect and a connect overtake a first one, which waits for the end of a slow
probe: when it returns at last, a new loop watches the connection that it gives back. -/
example :
  let first := opened
    { url := "memory://localhost/projects", environment := .production, healthCheckInterval := 10 }
    { draw := fun _ => 0, name := fun _ => "" } 0 {}
  let s := first.run
    [.ask .connect, .advance 0, .advance 0, .advance 0, .advance 0, .advance 0, .watch 0,
      .elapse 10, .plan { latency := 50 }, .watch 0, .watch 0, .ask .disconnect, .advance 1,
      .ask .disconnect, .advance 2, .advance 2, .advance 2, .plan {}, .ask .connect, .advance 3,
      .advance 3, .advance 3, .advance 3, .advance 3, .elapse 50, .watch 0, .watch 0, .watch 0,
      .watch 0, .advance 1]
  s.manager.state = .connected
    ∧ (s.run [.advance 1, .advance 1]).manager.state = .disconnected
    ∧ (s.run [.advance 1, .advance 1]).manager.isMonitored = true
  := by
  decide

/-- A new manager of a store on which the first attempt to connect fails. -/
def reluctant : Traffic :=
  opened { url := "memory://localhost/projects", environment := .test, retryDelay := 100 }
    { draw := fun _ => 0, name := fun _ => "" } 0
    { faults := { connect := .next 1 "connect ECONNREFUSED" } }

/-- The moves of one caller who connects, at the second attempt, and disconnects then. -/
def visit : List Move :=
  [.ask .connect, .advance 0, .advance 0, .advance 0, .elapse 100, .advance 0, .advance 0,
    .advance 0, .advance 0, .ask .disconnect, .advance 1, .advance 1]

/-- The moves of a caller who connects and of another one who disconnects during the pause between
two attempts. -/
def crossing : List Move :=
  [.ask .connect, .advance 0, .advance 0, .advance 0, .ask .disconnect, .elapse 50, .advance 1,
    .advance 1]

end Traffic

end Storekeeper

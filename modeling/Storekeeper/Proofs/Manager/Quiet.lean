import Storekeeper.Proofs.Manager.Traffic

/-!
# After the watching has stopped

A call that stops to watch the connection takes the loop that does so, and waits for its end.
Another such call in the meantime finds no loop to stop and returns at once, though the first one
may still be waiting for the end of a slow probe.  `Traffic.staysQuiet_iff` says when nothing is
heard of a loop after such a call returned, as long as none is started: exactly when no other such
call is waiting for the end of a loop, and the connection is not being watched again.

The loop waits for its next tick and to be told to stop, whichever comes first, and if both have
come there is no telling which of them it takes.  `Traffic.tick` is the step in which it takes the
tick.
-/

namespace Storekeeper

/-- Whether a loop is checking the health of the connection. -/
def MonitorLoop.isProbing (l : MonitorLoop) : Bool :=
  match l.phase with
  | .checking _ _ => true
  | _ => false

/-! ### The loops -/

theorem Manager.keeps_of_outline {m m' : Manager} (h : m'.outline = m.outline) :
  m.Keeps m'
  := .kept (eq_of_outline h loops fun _ => rfl) (eq_of_outline h monitor fun _ => rfl)

/-- The phase in which a call stops to watch the connection, if it is about to. -/
def Call.stopPhase? : Call → Option StopMonitor
  | stopMonitor phase | disconnect _ (.stopping phase) => some phase
  | _ => none

namespace Call

theorem keeps_advance {m : Manager} {c : Call} (h : c.stopPhase? = none) :
  m.Keeps (c.advance m).1
  := by
  cases c with
  | start =>
    simp only [advance, advanceStart]
    split
    · exact .kept rfl rfl
    · exact .kept rfl rfl
  | connect announced phase =>
    by_cases hc : phase = .crashed
    · subst hc
      exact .kept rfl rfl
    have he := effect_connect m announced phase hc
    generalize ((connect announced phase).advance m).1 = m' at he
    cases he with
    | aside hd ha =>
      cases phase with
      | crashed => exact absurd rfl hc
      | _ => cases hd
    | arrived announced => exact .kept rfl rfl
    | pursued announced h hc hp journal =>
      cases hp.keeps with
      | kept hl hm => exact .kept hl hm
      | started hn hl hm => exact .started hn hl hm
  | stop => exact .kept rfl rfl
  | disconnect announced phase =>
    cases phase with
    | stopping phase => cases h
    | closing =>
      have he := effect_release m announced
      generalize ((disconnect announced .closing).advance m).1 = m' at he
      cases he with
      | aside hd ha => cases hd
      | released announced journal => exact .kept rfl rfl
    | marking =>
      cases announced with
      | false => exact .kept rfl rfl
      | true => exact .kept rfl rfl
  | stopMonitor phase => cases h
  | checkHealth check =>
    obtain ⟨pings, metrics, state, journal, hm⟩ := check.advance_eq m
    simp only [advance]
    generalize check.advance m = step at hm
    obtain ⟨m', progress⟩ := step
    subst hm
    cases progress with
    | going check' => exact .kept rfl rfl
    | done status => exact .kept rfl rfl
  | askStatus probe =>
    exact Manager.keeps_of_outline (outline_lift _ _ (fun m r => rfl) (probe.outline_advance m))
  | ping probe =>
    exact Manager.keeps_of_outline (outline_lift _ _ (fun m r => rfl) (probe.outline_advance m))
  | run phase =>
    exact Manager.keeps_of_outline (outline_lift _ _ (fun m r => rfl) (phase.outline_advance m))
  | maintain task =>
    exact Manager.keeps_of_outline
      (outline_lift _ _ (fun m r => task.outline_finish m _) (task.outline_start m))
  | maintaining task phase =>
    exact Manager.keeps_of_outline
      (outline_lift _ _ (fun m r => task.outline_finish m _) (phase.outline_advance m))
  | sleep due => exact .kept rfl rfl

theorem stopPhase?_eq_some {c : Call} {phase : StopMonitor} (h : c.stopPhase? = some phase) :
  c = stopMonitor phase ∨ ∃ announced, c = disconnect announced (.stopping phase)
  := by
  cases c with
  | stopMonitor phase' =>
    cases h
    exact .inl rfl
  | disconnect announced phase' =>
    cases phase' with
    | stopping phase' =>
      cases h
      exact .inr ⟨announced, rfl⟩
    | _ => cases h
  | _ => cases h

theorem isReady_stop {m : Manager} {c : Call} {phase : StopMonitor}
    (h : c.stopPhase? = some phase) :
  c.isReady m = phase.isReady m
  := by
  rcases stopPhase?_eq_some h with rfl | ⟨announced, rfl⟩
  · rfl
  · rfl

/-- While a call stops to watch the connection it does nothing else. -/
theorem advance_stop {m : Manager} {c : Call} {phase : StopMonitor}
    (h : c.stopPhase? = some phase) :
  (c.advance m).1 = (phase.advance m).1
    ∧ ∀ phase', (phase.advance m).2 = .going phase' →
        ∃ c', (c.advance m).2 = .going c' ∧ c'.stopPhase? = some phase'
  := by
  rcases stopPhase?_eq_some h with rfl | ⟨announced, rfl⟩
  · simp only [advance]
    generalize phase.advance m = step
    obtain ⟨m', progress⟩ := step
    cases progress with
    | going phase' => simp [lift, stopPhase?]
    | done u => simp [lift]
  · simp only [advance, Disconnect.advance]
    generalize phase.advance m = step
    obtain ⟨m', progress⟩ := step
    cases progress with
    | going phase' => simp [lift, stopPhase?]
    | done u => simp [lift]

end Call

namespace Manager

theorem monitor_advanceLoop (m : Manager) (l : MonitorLoop) :
  (m.advanceLoop l).monitor = m.monitor
  := by
  obtain ⟨pings, metrics, state, loops, journal, h⟩ := m.advanceLoop_eq l
  rw [h]

/-- A loop that is not checking the health changes nothing but the loops and the log. -/
theorem advanceLoop_of_idle {m : Manager} {l : MonitorLoop} (h : l.isProbing = false) :
  ∃ loops journal, m.advanceLoop l = { m with loops := loops, journal := journal }
  := by
  unfold advanceLoop
  split
  · split
    · exact ⟨_, m.journal, rfl⟩
    · exact ⟨_, m.journal, rfl⟩
  · split
    · exact ⟨_, m.journal, rfl⟩
    · exact ⟨_, m.journal, rfl⟩
  · next hp =>
    rw [MonitorLoop.isProbing, hp] at h
    cases h
  · next next status hp =>
    obtain ⟨journal, hr⟩ := m.reportHealth_eq status
    rw [hr]
    exact ⟨_, journal, rfl⟩

theorem loopIds_enter (m : Manager) (id : Nat) (phase : MonitorPhase) :
  (m.enter id phase).loopIds = m.loopIds
  := loopIds_modifyLoop m id _ fun _ => rfl

theorem getElem?_enter {m : Manager} {k : Nat} {l : MonitorLoop} (h : m.loops[k]? = some l)
    (phase : MonitorPhase) :
  (m.enter l.id phase).loops[k]? = some { l with phase := phase }
  := by
  simp [enter, modifyLoop, h]

end Manager

theorem StopMonitor.mem_loops_advance (m : Manager) (phase : StopMonitor) {l : MonitorLoop}
    (h : l ∈ (phase.advance m).1.loops) :
  ∃ l' ∈ m.loops, l.phase = l'.phase
  := by
  cases phase with
  | asked =>
    simp only [advance] at h
    split at h
    · exact ⟨l, h, rfl⟩
    · next id hm =>
      obtain ⟨l', hl', rfl⟩ := List.mem_map.mp h
      use l', hl'
      split
      · rfl
      · rfl
  | awaiting loop =>
    obtain ⟨journal, he⟩ := m.logEnd_eq loop
    rw [advance, he] at h
    exact ⟨l, h, rfl⟩

namespace Traffic

/-! ### Ticks -/

/-- What may happen next: a move, or that the loop at the given place takes a tick. -/
inductive Beat where
  | move (move : Move)
  | tick (k : Nat)

/-- Lets the loop at the given place take a tick that has come, even if it was told to stop. -/
def tick (s : Traffic) (k : Nat) : Traffic :=
  match s.manager.loops[k]? with
  | some l =>
    match l.phase with
    | .waiting tick =>
      if tick ≤ s.manager.now then
        let next := MonitorLoop.nextTick s.manager.period tick s.manager.now
        { s with manager := s.manager.enter l.id (.checking next (.probing .ready)) }
      else s
    | _ => s
  | none => s

/-- Makes a move or lets a loop take a tick. -/
def beat (s : Traffic) : Beat → Traffic
  | .move move => s.step move
  | .tick k => s.tick k

/-- Lets some beats happen one after another. -/
def play (s : Traffic) (beats : List Beat) : Traffic := beats.foldl beat s

theorem play_concat (s : Traffic) (beats : List Beat) (b : Beat) :
  s.play (beats ++ [b]) = (s.play beats).beat b
  := List.foldl_append

/-- All that a tick can do. -/
theorem tick_cases (s : Traffic) (k : Nat) :
  s.tick k = s
    ∨ ∃ l tick next, s.manager.loops[k]? = some l ∧ l.phase = .waiting tick
      ∧ s.tick k = { s with manager := s.manager.enter l.id (.checking next (.probing .ready)) }
  := by
  unfold tick
  split
  · next l hl =>
    split
    · next tick hp =>
      split
      · exact .inr ⟨l, tick, _, hl, hp, rfl⟩
      · exact .inl rfl
    · exact .inl rfl
  · exact .inl rfl

/-- What every move and every tick preserves is preserved by all beats. -/
theorem play_induction {P : Traffic → Prop} {s : Traffic} (h : P s)
    (hstep : ∀ s move, P s → P (s.step move)) (htick : ∀ s k, P s → P (s.tick k))
    (beats : List Beat) :
  P (s.play beats)
  := by
  induction beats using List.reverseRecOn with
  | nil => exact h
  | append_singleton beats b ih =>
    rw [play_concat]
    cases b with
    | move move => exact hstep _ move ih
    | tick k => exact htick _ k ih

theorem settings_play (s : Traffic) (beats : List Beat) :
  (s.play beats).manager.settings = s.manager.settings
  := by
  apply play_induction (P := fun s' => s'.manager.settings = s.manager.settings) rfl
  · intro s' move h
    rw [(s'.step_change move).settings, h]
  · intro s' k h
    rcases s'.tick_cases k with hs | ⟨l, tick, next, -, -, hs⟩
    · rw [hs, h]
    · rw [hs]
      exact h

/-! ### Who looks after a loop -/

/-- The call with the given number waits for the end of a loop. -/
def Awaits (s : Traffic) (i id : Nat) : Prop :=
  ∃ c, s.call? i = some c ∧ c.stopPhase? = some (.awaiting id)

/-- Every loop is the one that watches the connection, or some call waits for its end. -/
def Tended (s : Traffic) : Prop :=
  ∀ id ∈ s.manager.loopIds, s.manager.monitor = some id ∨ ∃ i, s.Awaits i id

theorem Awaits.ask {s : Traffic} {i id : Nat} (h : s.Awaits i id) (r : Request) :
  (s.step (.ask r)).Awaits i id
  := by
  obtain ⟨c, hc, hp⟩ := h
  refine ⟨c, ?_, hp⟩
  rw [call?_ask, if_neg (Nat.ne_of_lt (lt_length_of_call? hc))]
  exact hc

theorem Awaits.settle {s : Traffic} {i j id : Nat} (h : s.Awaits j id) (hij : i ≠ j)
    (step : Call.Step) :
  (s.settle i step).Awaits j id
  := by
  obtain ⟨c, hc, hp⟩ := h
  exact ⟨c, (call?_settle_of_ne s hij step).trans hc, hp⟩

namespace Tended

variable {s : Traffic} {i : Nat} {c : Call}

/-- A call that does not wait for the end of a loop leaves it to the others to do so. -/
theorem awaits_others (hc : s.call? i = some c) (id : Nat)
    (hn : c.stopPhase? ≠ some (.awaiting id)) (step : Call.Step) (h : ∃ j, s.Awaits j id) :
  ∃ j, (s.settle i step).Awaits j id
  := by
  obtain ⟨j, hj⟩ := h
  use j
  apply hj.settle
  rintro rfl
  obtain ⟨c', hc', hp⟩ := hj
  cases hc.symm.trans hc'
  exact hn hp

theorem advance_keeps (h : s.Tended) (hc : s.call? i = some c) (hp : c.stopPhase? = none) :
  (s.settle i (c.advance s.manager)).Tended
  := by
  intro id hid
  have hothers := awaits_others hc id (by rw [hp]; nofun) (c.advance s.manager)
  rw [manager_settle] at hid ⊢
  cases Call.keeps_advance (m := s.manager) hp with
  | kept hl hm =>
    rw [Manager.loopIds, hl] at hid
    rw [hm]
    exact (h id hid).imp_right hothers
  | started hn hl hm =>
    rw [Manager.loopIds, hl, List.map_append, List.mem_append] at hid
    rcases hid with hid | hid
    · rcases h id hid with hmon | ha
      · cases hn.symm.trans (Manager.isMonitored_eq_true_iff.mpr ⟨id, hid, hmon⟩)
      · exact .inr (hothers ha)
    · rw [List.mem_singleton.mp hid]
      exact .inl hm

/-- A call that takes the loop that watches the connection waits for its end from then on. -/
theorem advance_asked (h : s.Tended) (hc : s.call? i = some c) (hp : c.stopPhase? = some .asked) :
  (s.settle i (c.advance s.manager)).Tended
  := by
  obtain ⟨hs, hgoing⟩ := Call.advance_stop (m := s.manager) hp
  intro id hid
  have hothers := awaits_others hc id (by rw [hp]; nofun) (c.advance s.manager)
  rw [manager_settle, hs] at hid
  apply Or.inr
  rcases h id ((StopMonitor.asked.aside_advance s.manager).loops.subset hid) with hm | ha
  · obtain ⟨c', hc', hp'⟩ := hgoing (.awaiting id) (by simp only [StopMonitor.advance, hm])
    exact ⟨i, c', call?_settle_going (lt_length_of_call? hc) hc', hp'⟩
  · exact hothers ha

/-- A call that waited for the end of a loop goes on when the loop has ended. -/
theorem advance_awaiting (h : s.Tended) (hc : s.call? i = some c) {loop : Nat}
    (hp : c.stopPhase? = some (.awaiting loop)) (hr : c.isReady s.manager = true) :
  (s.settle i (c.advance s.manager)).Tended
  := by
  obtain ⟨hs, -⟩ := Call.advance_stop (m := s.manager) hp
  obtain ⟨journal, he⟩ := s.manager.logEnd_eq loop
  rw [Call.isReady_stop hp] at hr
  rw [StopMonitor.advance, he] at hs
  intro id hid
  rw [manager_settle, hs] at hid ⊢
  have hne : loop ≠ id := by
    rintro rfl
    have hl := Manager.hasLoop_eq_true_iff.mpr hid
    change (!s.manager.hasLoop loop) = true at hr
    rw [show s.manager.hasLoop loop = true from hl] at hr
    cases hr
  apply (h id hid).imp_right
  apply awaits_others hc
  rw [hp]
  intro he
  cases he
  exact hne rfl

theorem advance (h : s.Tended) (hc : s.call? i = some c) (hr : c.isReady s.manager = true) :
  (s.settle i (c.advance s.manager)).Tended
  := by
  cases hp : c.stopPhase? with
  | none => exact h.advance_keeps hc hp
  | some phase =>
    cases phase with
    | asked => exact h.advance_asked hc hp
    | awaiting loop => exact h.advance_awaiting hc hp hr

theorem step (h : s.Tended) (move : Move) :
  (s.step move).Tended
  := by
  have hc := s.step_change move
  generalize hs : s.step move = s' at hc
  cases hc with
  | asked r =>
    rw [← hs]
    intro id hid
    apply (h id hid).imp_right
    rintro ⟨i, hi⟩
    exact ⟨i, hi.ask r⟩
  | advanced i c hc hr => exact h.advance hc hr
  | watched k l hl hr =>
    intro id hid
    have hid := (s.manager.aside_advanceLoop l).loops.subset hid
    change (s.manager.advanceLoop l).monitor = some id ∨ _
    rw [Manager.monitor_advanceLoop]
    exact h id hid
  | _ => exact h

theorem tick (h : s.Tended) (k : Nat) :
  (s.tick k).Tended
  := by
  rcases s.tick_cases k with hs | ⟨l, tick, next, -, -, hs⟩
  · rw [hs]
    exact h
  · rw [hs]
    intro id hid
    exact h id (s.manager.loopIds_enter l.id _ ▸ hid)

/-- All loops have ended if none watches the connection and nobody waits for the end of one. -/
theorem loops_eq_nil (h : s.Tended) (hm : s.manager.isMonitored = false)
    (ha : ∀ i id, s.Awaits i id → s.manager.hasLoop id = false) :
  s.manager.loops = []
  := by
  rw [List.eq_nil_iff_forall_not_mem]
  intro l hl
  have hid : l.id ∈ s.manager.loopIds := List.mem_map_of_mem hl
  rcases h l.id hid with hmon | ⟨i, hi⟩
  · cases hm.symm.trans (Manager.isMonitored_eq_true_iff.mpr ⟨l.id, hid, hmon⟩)
  · cases (ha i l.id hi).symm.trans (Manager.hasLoop_eq_true_iff.mpr hid)

end Tended

theorem tended_play (first : Traffic) (h : first.manager.loops = []) (beats : List Beat) :
  (first.play beats).Tended
  := by
  apply play_induction
  · intro id hid
    rw [Manager.loopIds, h] at hid
    cases hid
  · intro s move h
    exact h.step move
  · intro s k h
    exact h.tick k

/-! ### Loops without a period -/

/-- No loop without a period ever gets beyond its start. -/
def Dormant (s : Traffic) : Prop :=
  s.manager.period = 0 → ∀ l ∈ s.manager.loops, l.phase = .starting

namespace Dormant

variable {s : Traffic}

theorem advance (h : s.Dormant) {i : Nat} {c : Call} :
  (s.settle i (c.advance s.manager)).Dormant
  := by
  intro hp l hl
  rw [manager_settle] at hp hl
  rw [Manager.period, (c.effect_advance s.manager).settings] at hp
  cases hs : c.stopPhase? with
  | none =>
    cases Call.keeps_advance (m := s.manager) hs with
    | kept hk hm => exact h hp l (hk ▸ hl)
    | started hn hk hm =>
      rw [hk, List.mem_append] at hl
      rcases hl with hl | hl
      · exact h hp l hl
      · rw [List.mem_singleton.mp hl]
  | some phase =>
    rw [(Call.advance_stop hs).1] at hl
    obtain ⟨l', hl', hphase⟩ := phase.mem_loops_advance s.manager hl
    exact hphase.trans (h hp l' hl')

theorem step (h : s.Dormant) (move : Move) :
  (s.step move).Dormant
  := by
  have hc := s.step_change move
  generalize s.step move = s' at hc
  cases hc with
  | advanced i c hc hr => exact h.advance
  | watched k l hl hr =>
    intro hp l' hl'
    have hp : s.manager.period = 0 := by
      rw [Manager.period, ← (s.manager.aside_advanceLoop l).settings]
      exact hp
    change l' ∈ (s.manager.advanceLoop l).loops at hl'
    simp only [Manager.advanceLoop, h hp l (List.mem_of_getElem? hl), hp, if_true] at hl'
    exact h hp l' (List.mem_filter.mp hl').1
  | _ => exact h

theorem tick (h : s.Dormant) (k : Nat) :
  (s.tick k).Dormant
  := by
  rcases s.tick_cases k with hs | ⟨l, tick, next, hl, hw, hs⟩
  · rw [hs]
    exact h
  · rw [hs]
    intro hp
    cases (h hp l (List.mem_of_getElem? hl)).symm.trans hw

end Dormant

theorem Dormant.play {s : Traffic} (h : s.Dormant) (beats : List Beat) :
  (s.play beats).Dormant
  := by
  apply play_induction h
  · intro s move h
    exact h.step move
  · intro s k h
    exact h.tick k

/-! ### Quiet -/

/-- Nothing is heard of the loops. -/
structure Quiet (s : Traffic) : Prop where
  /-- No probe is in progress. -/
  idle : ∀ l ∈ s.manager.loops, l.isProbing = false
  metrics : ∀ k, (s.step (.watch k)).manager.metrics = s.manager.metrics
  state : ∀ k, (s.step (.watch k)).manager.state = s.manager.state

/-- No loop is started. -/
def Unstarted (s : Traffic) (beats : List Beat) : Prop :=
  ∀ done, done <+: beats → (s.play done).manager.loopIds ⊆ s.manager.loopIds

/-- Nothing is heard of the loops as long as none is started. -/
def StaysQuiet (s : Traffic) : Prop :=
  ∀ beats, s.Unstarted beats → (s.play beats).Quiet

theorem quiet_of_idle {s : Traffic} (h : ∀ l ∈ s.manager.loops, l.isProbing = false) :
  s.Quiet
  := by
  have hk : ∀ k, ∃ loops journal,
      (s.step (.watch k)).manager = { s.manager with loops := loops, journal := journal } := by
    intro k
    have hc := s.step_change (.watch k)
    generalize s.step (.watch k) = s' at hc
    cases hc with
    | idle => exact ⟨s.manager.loops, s.manager.journal, rfl⟩
    | watched k l hl hr => exact Manager.advanceLoop_of_idle (h l (List.mem_of_getElem? hl))
  constructor
  case idle => exact h
  case metrics =>
    intro k
    obtain ⟨loops, journal, hm⟩ := hk k
    rw [hm]
  case state =>
    intro k
    obtain ⟨loops, journal, hm⟩ := hk k
    rw [hm]

theorem staysQuiet_of_nil {s : Traffic} (h : s.manager.loops = []) :
  s.StaysQuiet
  := by
  intro beats hu
  apply quiet_of_idle
  intro l hl
  have hid := hu beats List.prefix_rfl (List.mem_map_of_mem hl)
  rw [Manager.loopIds, h] at hid
  cases hid

theorem staysQuiet_of_dormant {s : Traffic} (h : s.Dormant) (hp : s.manager.period = 0) :
  s.StaysQuiet
  := by
  intro beats hu
  have hz : (s.play beats).manager.period = 0 := by
    rw [Manager.period, settings_play]
    exact hp
  apply quiet_of_idle
  intro l hl
  rw [MonitorLoop.isProbing, h.play beats hz l hl]

/-! ### A loop that has not ended -/

/-- Whether a beat is one of a loop, or time that passes. -/
def Beat.isIdle : Beat → Bool
  | .tick _ | .move (.watch _) | .move (.elapse _) => true
  | _ => false

theorem loopIds_beat (s : Traffic) {b : Beat} (h : b.isIdle = true) :
  (s.beat b).manager.loopIds ⊆ s.manager.loopIds
  := by
  cases b with
  | tick k =>
    rw [beat]
    rcases s.tick_cases k with hs | ⟨l, tick, next, -, -, hs⟩
    · rw [hs]
      exact List.Subset.refl _
    · rw [hs]
      intro id hid
      exact s.manager.loopIds_enter l.id _ ▸ hid
  | move move =>
    have hc := s.step_change move
    rw [beat]
    generalize s.step move = s' at hc
    cases hc with
    | idle => exact List.Subset.refl _
    | watched k l hl hr => exact (s.manager.aside_advanceLoop l).loops.subset
    | elapsed time => exact List.Subset.refl _
    | _ => cases h

/-- The loops do not start others. -/
theorem unstarted_of_isIdle {s : Traffic} {beats : List Beat}
    (h : ∀ b ∈ beats, b.isIdle = true) :
  s.Unstarted beats
  := by
  intro done hd
  induction done using List.reverseRecOn with
  | nil => exact List.Subset.refl _
  | append_singleton done b ih =>
    rw [play_concat]
    have hb : b ∈ beats := hd.subset (List.mem_append_right _ (List.mem_singleton.mpr rfl))
    apply List.Subset.trans ((s.play done).loopIds_beat (h b hb))
    exact ih ((List.prefix_append _ _).trans hd)

/-- A loop that waits probes the store in the end, if nobody prevents it. -/
theorem probing_of_waiting {s : Traffic} {k tick : Nat} {l : MonitorLoop}
    (hl : s.manager.loops[k]? = some l) (hw : l.phase = .waiting tick) :
  ∃ l' ∈ (s.play [.move (.elapse tick), .tick k]).manager.loops, l'.isProbing = true
  := by
  have ht : tick ≤ s.manager.now + tick := Nat.le_add_left tick s.manager.now
  obtain ⟨next, hs⟩ : ∃ next, (s.play [.move (.elapse tick), .tick k]).manager.loops[k]?
      = some { l with phase := .checking next (.probing .ready) } := by
    simp only [play, List.foldl_cons, List.foldl_nil, beat, step, Traffic.tick, hl, hw, ht, if_true]
    exact ⟨_, Manager.getElem?_enter hl _⟩
  exact ⟨_, List.mem_of_getElem? hs, rfl⟩

/-- A loop that is about to wait is heard of in the end. -/
theorem not_staysQuiet_of_waiting {s : Traffic} {k tick : Nat} {l : MonitorLoop}
    (hw : (s.step (.watch k)).manager.loops[k]? = some { l with phase := .waiting tick }) :
  ¬ s.StaysQuiet
  := by
  intro h
  obtain ⟨l', hl', hpr⟩ := probing_of_waiting hw rfl
  have hu : s.Unstarted [.move (.watch k), .move (.elapse tick), .tick k] :=
    unstarted_of_isIdle (by simp [Beat.isIdle])
  cases ((h _ hu).idle l' hl').symm.trans hpr

/-- As long as a loop has not ended it may be heard of. -/
theorem loops_eq_nil_of_staysQuiet {s : Traffic} (h : s.StaysQuiet) (hp : s.manager.period ≠ 0) :
  s.manager.loops = []
  := by
  rw [List.eq_nil_iff_forall_not_mem]
  intro l hl
  obtain ⟨k, hk⟩ := List.getElem?_of_mem hl
  cases hphase : l.phase with
  | checking next check =>
    have hi := (h [] (unstarted_of_isIdle (by simp))).idle l hl
    rw [MonitorLoop.isProbing, hphase] at hi
    cases hi
  | waiting tick =>
    obtain ⟨l', hl', hpr⟩ := probing_of_waiting hk hphase
    have hi := (h _ (unstarted_of_isIdle (by simp [Beat.isIdle]))).idle l' hl'
    cases hi.symm.trans hpr
  | starting =>
    have hw : (s.step (.watch k)).manager.loops[k]?
        = some { l with phase := .waiting (s.manager.now + s.manager.period) } := by
      have hr : l.isReady s.manager.now = true := by simp only [MonitorLoop.isReady, hphase]
      simp only [step, hk, hr, if_true, Manager.advanceLoop, hphase, hp, if_false]
      exact Manager.getElem?_enter hk _
    exact not_staysQuiet_of_waiting hw h
  | reporting next status =>
    have hw : (s.step (.watch k)).manager.loops[k]? = some { l with phase := .waiting next } := by
      have hr : l.isReady s.manager.now = true := by simp only [MonitorLoop.isReady, hphase]
      obtain ⟨journal, he⟩ := s.manager.reportHealth_eq status
      simp only [step, hk, hr, if_true, Manager.advanceLoop, hphase, he]
      exact Manager.getElem?_enter hk _
    exact not_staysQuiet_of_waiting hw h

/-! ### The return of a call that stops -/

/-- The call with the given number stops to watch the connection, and is done with it after its
next step. -/
def Stops (s : Traffic) (i : Nat) : Prop :=
  ∃ c phase, s.call? i = some c ∧ c.stopPhase? = some phase ∧ phase.isReady s.manager = true
    ∧ (phase.advance s.manager).2 = .done ()

theorem Stops.step {s : Traffic} {i : Nat} (h : s.Stops i) :
  (s.step (.advance i)).manager.loops = s.manager.loops
    ∧ ∀ id, s.Awaits i id → s.manager.hasLoop id = false
  := by
  obtain ⟨c, phase, hc, hp, hr, hd⟩ := h
  constructor
  · rw [step_advance hc ((Call.isReady_stop hp).trans hr), manager_settle, (Call.advance_stop hp).1]
    cases phase with
    | asked =>
      simp only [StopMonitor.advance] at hd ⊢
      split at hd
      · rfl
      · cases hd
    | awaiting loop =>
      obtain ⟨journal, he⟩ := s.manager.logEnd_eq loop
      rw [StopMonitor.advance, he]
  · rintro id ⟨c', hc', hp'⟩
    cases hc.symm.trans hc'
    cases hp.symm.trans hp'
    simpa [StopMonitor.isReady] using hr

/-- All loops have ended when a call that stops to watch the connection is done with it, unless the
connection is watched again or another such call waits for the end of a loop. -/
theorem Stops.loops_eq_nil_iff {s : Traffic} {i : Nat} (h : s.Stops i) (ht : s.Tended) :
  (s.step (.advance i)).manager.loops = []
    ↔ s.manager.isMonitored = false
      ∧ ∀ j id, j ≠ i → s.Awaits j id → s.manager.hasLoop id = false
  := by
  obtain ⟨hloops, hown⟩ := h.step
  rw [hloops]
  constructor
  · intro hnil
    constructor
    · rw [← Bool.not_eq_true, Manager.isMonitored_eq_true_iff]
      rintro ⟨id, hid, -⟩
      rw [Manager.loopIds, hnil] at hid
      cases hid
    · intro j id hj ha
      rw [Manager.hasLoop, hnil]
      rfl
  · rintro ⟨hm, hothers⟩
    apply ht.loops_eq_nil hm
    intro j id ha
    by_cases hji : j = i
    · subst hji
      exact hown id ha
    · exact hothers j id hji ha

/-- After a call that stops to watch the connection returned, nothing is heard of a loop as long as
none is started exactly if there is no period to probe at, or the connection is not watched and no
other such call is waiting for the end of a loop. -/
theorem staysQuiet_iff (settings : Settings) (chance : Chance) (now : Nat) (store : MemoryStore)
    (beats : List Beat) (i : Nat)
    (h : ((opened settings chance now store).play beats).Stops i) :
  (((opened settings chance now store).play beats).step (.advance i)).StaysQuiet
    ↔ settings.healthCheckInterval = 0
      ∨ (((opened settings chance now store).play beats).manager.isMonitored = false
        ∧ ∀ j id, j ≠ i → ((opened settings chance now store).play beats).Awaits j id →
          ((opened settings chance now store).play beats).manager.hasLoop id = false)
  := by
  have ht := tended_play (opened settings chance now store) rfl beats
  have hd := Dormant.play (s := opened settings chance now store) nofun beats
  have hset := (opened settings chance now store).settings_play beats
  generalize (opened settings chance now store).play beats = s at h ht hd hset
  have hp : (s.step (.advance i)).manager.period = 0 ↔ settings.healthCheckInterval = 0 := by
    rw [Manager.period, (s.step_change (.advance i)).settings, hset, ← UInt64.toNat_inj]
    rfl
  rw [← h.loops_eq_nil_iff ht, ← hp]
  constructor
  · intro hq
    by_cases hz : (s.step (.advance i)).manager.period = 0
    · exact .inl hz
    · exact .inr (loops_eq_nil_of_staysQuiet hq hz)
  · rintro (hz | hnil)
    · exact staysQuiet_of_dormant (hd.step _) hz
    · exact staysQuiet_of_nil hnil

/-- A manager in production that probes the store often. -/
def attentive : Traffic :=
  opened
    { url := "memory://localhost/projects", environment := .production, healthCheckInterval := 10 }
    { draw := fun _ => 0, name := fun _ => "" } 0 {}

/-- The connection is established and watched, and a slow probe is in progress. -/
def watching : List Beat :=
  [.move (.ask .connect), .move (.advance 0), .move (.advance 0), .move (.advance 0),
    .move (.advance 0), .move (.advance 0), .move (.watch 0), .move (.plan { latency := 50 }),
    .move (.elapse 10), .move (.watch 0), .move (.watch 0)]

/-- The only call that stops to watch the connection waits for the end of the probe. -/
def parting : List Beat :=
  watching ++ [.move (.ask .stopMonitor), .move (.advance 1), .move (.elapse 50), .move (.watch 0),
    .move (.watch 0), .move (.watch 0), .move (.watch 0)]

theorem staysQuiet_parting :
  (attentive.play parting).Stops 1 ∧ ((attentive.play parting).step (.advance 1)).StaysQuiet
  := by
  have hn : (attentive.play parting).calls = [none, some (.stopMonitor (.awaiting 1))] := rfl
  have h : (attentive.play parting).Stops 1 :=
    ⟨.stopMonitor (.awaiting 1), .awaiting 1, rfl, rfl, by decide, rfl⟩
  have hothers : ∀ j id, j ≠ 1 → ¬ (attentive.play parting).Awaits j id := by
    rintro j id hj ⟨c, hc, hp⟩
    rw [call?, hn] at hc
    rcases j with _ | _ | j
    · cases hc
    · exact hj rfl
    · cases hc
  use h
  apply (staysQuiet_iff _ _ _ _ _ _ h).mpr
  apply Or.inr
  use by decide
  intro j id hj ha
  exact absurd ha (hothers j id hj)

/-- A second call that stops to watch the connection returns while the first one waits for the end
of the probe. -/
def hurry : List Beat :=
  watching ++ [.move (.ask .stopMonitor), .move (.advance 1), .move (.ask .stopMonitor)]

/-- The probe goes on after the second call returned. -/
theorem not_forall_staysQuiet :
  ¬ ∀ settings chance now store beats i, ((opened settings chance now store).play beats).Stops i →
      (((opened settings chance now store).play beats).step (.advance i)).StaysQuiet
  := by
  intro h
  have hs : (attentive.play hurry).Stops 2 := ⟨.stopMonitor .asked, .asked, rfl, rfl, rfl, rfl⟩
  have hq := h _ _ _ _ hurry 2 hs [] (unstarted_of_isIdle (by simp))
  have hl : (⟨1, true, .checking 20 (.probing (.waiting ⟨10, 60, none⟩))⟩ : MonitorLoop)
      ∈ ((attentive.play hurry).step (.advance 2)).manager.loops := by
    decide
  exact absurd (hq.idle _ hl) (by decide)

end Traffic

end Storekeeper

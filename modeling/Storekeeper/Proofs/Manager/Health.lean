import Storekeeper.Proofs.Manager.InFlight
import Storekeeper.Proofs.Manager.Sharing

/-!
# State and health report

The state of a connection and its health report are written by four parties: a call that connects,
a call that disconnects, and the checks of callers and of the loop.  Each of them makes two writes,
one after the other, and others may write in between: a caller that connects may find a success,
report it, and write it into the state after a check of the loop has reported a failure.  Then the
connection counts as connected and is reported as unhealthy, until the next check.

`Traffic.Clear` are the moments at which nobody is halfway through his writes, and a move tears the
writes of somebody if it makes the second of them although another has overwritten the first.  At
clear moments state and report agree as long as no writes were torn.  The report for itself is true
of the latest probe at every moment, the answer of a health check is that of its own ping, and no
probe has a say in the state of a connection that is not established.
-/

namespace Storekeeper

/-- The status of a health report fits the latency in it. -/
structure Vitals.Sound (v : Vitals) (threshold : Nat) : Prop where
  fast : v.status = .healthy → v.responseTime < threshold ∧ v.lastSuccessfulProbe.isSome = true
  slow : v.status = .degraded → threshold ≤ v.responseTime ∧ v.lastSuccessfulProbe.isSome = true

/-- The state of a connection agrees with its health report. -/
structure Vitals.Agree (v : Vitals) : Prop where
  connected : v.state = .connected → v.status = .healthy
  degraded : v.state = .degraded → v.status ≠ .healthy

theorem HealthStatus.ofLatency_eq_degraded_iff {latency threshold : Nat} :
  ofLatency latency threshold = .degraded ↔ threshold ≤ latency
  := by
  simp [ofLatency]

theorem Probed.status_eq_degraded_iff {p : Probed} {threshold : Nat} :
  p.status threshold = .degraded ↔ p.outcome = .ok () ∧ threshold ≤ p.latency
  := by
  unfold status
  split
  · next h => simp [h, HealthStatus.ofLatency_eq_degraded_iff]
  · next e h => simp [h]

/-! ### The report for itself -/

namespace Vitals

theorem isSome_lastSuccessfulProbe_report {p : Probed} (h : p.outcome = .ok ()) (v : Vitals)
    (now : Instant) (threshold : Nat) :
  (v.report now threshold p).lastSuccessfulProbe.isSome = true
  := by
  simp [report, h, Except.isOk, Except.toBool]

theorem sound_report (v : Vitals) (now : Instant) (threshold : Nat) (p : Probed) :
  (v.report now threshold p).Sound threshold
  where
  fast hs := by
    obtain ⟨ho, hl⟩ := Probed.status_eq_healthy_iff.mp hs
    exact ⟨hl, isSome_lastSuccessfulProbe_report ho v now threshold⟩
  slow hs := by
    obtain ⟨ho, hl⟩ := Probed.status_eq_degraded_iff.mp hs
    exact ⟨hl, isSome_lastSuccessfulProbe_report ho v now threshold⟩

theorem sound_mark (v : Vitals) (threshold : Nat) :
  v.mark.Sound threshold
  where
  fast hs := by cases hs
  slow hs := by cases hs

namespace Sound

variable {m : Manager} {v : Vitals}

theorem news (h : m.vitals.Sound m.threshold) (hn : m.News v) :
  v.Sound m.threshold
  := by
  cases hn with
  | nothing => exact h
  | reported p hp => exact sound_report m.vitals m.instant m.threshold p
  | settled status => exact ⟨h.fast, h.slow⟩
  | marked => exact sound_mark m.vitals m.threshold

theorem pursuit (h : m.vitals.Sound m.threshold) (hp : m.Pursuit v) :
  v.Sound m.threshold
  := by
  cases hp with
  | kept => exact h
  | begun | established latency | failed => exact ⟨h.fast, h.slow⟩
  | succeeded latency => exact sound_report m.vitals m.instant m.threshold _
  | marked => exact sound_mark m.vitals m.threshold

theorem effect {c : Call} {m' : Manager} (h : m.vitals.Sound m.threshold) (he : c.Effect m m') :
  m'.vitals.Sound m.threshold
  := by
  cases he with
  | aside hd hm => exact h.news hm.vitals
  | arrived announced => exact h
  | pursued announced hne hc hp journal => exact h.pursuit hp.vitals
  | released announced journal => exact ⟨h.fast, h.slow⟩

end Sound

end Vitals

theorem Traffic.Change.sound {s s' : Traffic} {move : Move} (hc : s.Change move s')
    (h : s.manager.vitals.Sound s.manager.threshold) :
  s'.manager.vitals.Sound s'.manager.threshold
  := by
  have ht : s'.manager.threshold = s.manager.threshold := by
    rw [Manager.threshold, hc.settings, Manager.threshold]
  rw [ht]
  cases hc with
  | advanced i c hc hr =>
    rw [manager_settle]
    exact h.effect (c.effect_advance s.manager)
  | watched k l hl hr => exact h.news (s.manager.aside_advanceLoop l).vitals
  | _ => exact h

/-! ### Two writes -/

/-- Whether a check has reported a status and is about to write it into the state. -/
def Check.isHalfway : Check → Bool
  | settling _ => true
  | probing _ => false

/-- Whether a call that connects has reported a status and is about to write it into the state. -/
def Connect.isHalfway : Connect → Bool
  | settling _ _ => true
  | _ => false

/-- Whether a call has reported a status and is about to write it into the state. -/
def Call.isHalfway : Call → Bool
  | connect _ phase => phase.isHalfway
  | checkHealth check => check.isHalfway
  | _ => false

/-- Whether a loop has reported a status and is about to write it into the state. -/
def MonitorLoop.isHalfway (l : MonitorLoop) : Bool :=
  match l.phase with
  | .checking _ check => check.isHalfway
  | _ => false

/-- Whether a check writes a status into the state that is not reported any more. -/
def Check.isTorn (m : Manager) : Check → Bool
  | settling status => m.state.isUp && status != m.metrics.status
  | probing _ => false

/-- Whether the next step of a call makes the second of two writes after another has overwritten the
first: the reported status, or the state if the connection is being given back. -/
def Call.isTorn (m : Manager) : Call → Bool
  | connect _ (.settling _ latency) =>
    HealthStatus.ofLatency latency m.threshold != m.metrics.status
  | disconnect _ .marking => m.state.isUp
  | checkHealth check => check.isTorn m
  | _ => false

/-- Whether a loop writes a status into the state that is not reported any more. -/
def MonitorLoop.isTorn (m : Manager) (l : MonitorLoop) : Bool :=
  match l.phase with
  | .checking _ check => check.isTorn m
  | _ => false

namespace Traffic

/-- Nobody has reported a status that is not written into the state yet. -/
structure Clear (s : Traffic) : Prop where
  calls : ∀ i c, s.call? i = some c → c.isHalfway = false
  loops : ∀ l ∈ s.manager.loops, l.isHalfway = false

/-- Whether a move makes the second of two writes after another has overwritten the first. -/
def tears (s : Traffic) : Move → Bool
  | .advance i => (s.call? i).any (·.isTorn s.manager)
  | .watch k => (s.manager.loops[k]?).any (·.isTorn s.manager)
  | _ => false

/-- Whether no writes are torn by some moves. -/
def isWhole (s : Traffic) : List Move → Bool
  | [] => true
  | move :: moves => !s.tears move && (s.step move).isWhole moves

end Traffic

namespace Vitals

theorem agree_of_not_up {v : Vitals} (h : v.state.isUp = false) :
  v.Agree
  := by
  constructor
  case connected =>
    intro hs
    rw [hs] at h
    cases h
  case degraded =>
    intro hs
    rw [hs] at h
    cases h

/-- State and report agree if the status was written into the state. -/
theorem agree_of_written {v : Vitals} (h : v.state = v.status.connectionState) :
  v.Agree
  := by
  constructor
  case connected =>
    rw [h]
    cases v.status with
    | healthy => simp
    | _ => simp [HealthStatus.connectionState]
  case degraded =>
    rw [h]
    cases v.status with
    | healthy => simp [HealthStatus.connectionState]
    | _ => simp

end Vitals

/-- Whether what goes on after a step is halfway through its writes, where `f` says which phases
are. -/
def Progress.isHalfway {φ ρ : Type} (f : φ → Bool) : Progress φ ρ → Bool
  | going phase => f phase
  | done _ => false

/-- What a step that tears no writes makes of state and report, where the two flags say whether it
begins and ends halfway through some writes.  It leaves state and report alone, it is the first of
two writes, or state and report agree after it. -/
inductive Tidies (m m' : Manager) : Bool → Bool → Prop where
  | kept (b : Bool) (h : m'.vitals = m.vitals) : Tidies m m' false b
  | reported (b : Bool) : Tidies m m' b true
  | agreed (b b' : Bool) (h : m'.vitals.Agree) : Tidies m m' b b'

namespace Tidies

variable {m m' : Manager}

theorem of_outline {b : Bool} (h : m'.outline = m.outline) :
  Tidies m m' false b
  := .kept b (Manager.vitals_eq_of_outline h)

theorem of_not_up {b b' : Bool} (h : m'.state.isUp = false) :
  Tidies m m' b b'
  := .agreed b b' (Vitals.agree_of_not_up h)

theorem congr {m₁ : Manager} {b b' : Bool} (h : Tidies m m₁ b b') (hv : m'.vitals = m₁.vitals) :
  Tidies m m' b b'
  := by
  cases h with
  | kept b h => exact .kept b' (hv.trans h)
  | reported b => exact .reported b
  | agreed b b' h => exact .agreed b b' (hv ▸ h)

end Tidies

theorem Check.tidies_advance {m : Manager} (check : Check) (h : check.isTorn m = false) :
  Tidies m (check.advance m).1 check.isHalfway ((check.advance m).2.isHalfway isHalfway)
  := by
  have hs := check.step_advance m
  generalize check.advance m = step at hs
  cases hs with
  | waits hp => exact .of_outline (Probe.outline_advance m _)
  | reports hp => exact .reported false
  | settles status =>
    apply Tidies.agreed
    rw [m.vitals_settle]
    cases hu : m.state.isUp with
    | false =>
      apply Vitals.agree_of_not_up
      exact (congrArg ConnectionState.isUp (congrArg Vitals.state
        (Vitals.settle_of_not_up (v := m.vitals) hu status))).trans hu
    | true =>
      have he : status = m.metrics.status := by simpa [isTorn, hu] using h
      apply Vitals.agree_of_written
      simp [Vitals.settle, Manager.vitals, hu, ← he]

namespace Manager

theorem Fails.tidies {m m' : Manager} {a : Attempt} {s : Connecting} (h : m'.Fails a s)
    (hm : ∃ store journal, m' = { m with store := store, journal := journal }) :
  Tidies m s.1 false (s.2.isHalfway Connect.isHalfway)
  := by
  obtain ⟨store, journal, rfl⟩ := hm
  cases h with
  | again failures due journal hb => exact .kept false rfl
  | surrenders e journal => exact .of_not_up rfl
  | crashes hb => exact .kept false rfl

theorem tidies_takeTurn (m : Manager) :
  Tidies m m.takeTurn.1 false (m.takeTurn.2.isHalfway Connect.isHalfway)
  := by
  unfold takeTurn
  split
  · exact .kept false rfl
  · exact .of_not_up rfl

/-- The connection is established as it was reported. -/
theorem tidies_establish {m : Manager} {a : Attempt} {latency : Nat}
    (h : HealthStatus.ofLatency latency m.threshold = m.metrics.status) (b b' : Bool) :
  Tidies m (m.establish a latency).1 b b'
  := by
  obtain ⟨loops, monitor, fresh, journal, -, he⟩ := m.establish_eq a latency
  rw [he]
  apply Tidies.agreed
  apply Vitals.agree_of_written
  exact congrArg HealthStatus.connectionState h

end Manager

/-- A caller in its turn finds the connection not established, so that it reports no connection as
down that is up. -/
theorem Connect.tidies_advance {m : Manager} {phase : Connect}
    (hu : phase.isActive = true → m.state.isUp = false)
    (h : ∀ a latency, phase = settling a latency →
      HealthStatus.ofLatency latency m.threshold = m.metrics.status) :
  Tidies m (phase.advance m).1 phase.isHalfway ((phase.advance m).2.isHalfway isHalfway)
  := by
  cases phase with
  | arriving | pausing number failures due | counting d | crashed => exact .kept false rfl
  | waiting ticket => exact m.tidies_takeTurn
  | opening a =>
    have ho := m.openStore_eq
    simp only [advance]
    split
    · next m' hs =>
      rw [hs] at ho
      obtain ⟨store, journal, rfl⟩ := ho
      exact .kept false rfl
    · next e m' hs =>
      rw [hs] at ho
      exact (m'.fails_fail a e).tidies ho
  | probing a probe =>
    simp only [advance]
    split
    · obtain ⟨pings, journal, hp⟩ := probe.advance_eq m
      split
      · next m' probe' hs =>
        rw [hs] at hp
        subst hp
        exact .kept false rfl
      · next m' p hs =>
        rw [hs] at hp
        subst hp
        unfold Manager.conclude
        split
        · exact .reported false
        · exact .kept false rfl
    · exact (m.fails_fail a m.attemptTimeout).tidies ⟨_, _, rfl⟩
  | closing a e =>
    have hc := m.closeStore_eq
    simp only [advance]
    split
    · next m' hs =>
      rw [hs] at hc
      exact (m'.fails_fail a e).tidies hc
    · next e' m' hs =>
      rw [hs] at hc
      obtain ⟨store, journal, rfl⟩ := hc
      apply (Manager.fails_fail _ a e).tidies
      exact ⟨_, _, rfl⟩
  | settling a latency => exact Manager.tidies_establish (h a latency rfl) true _
  | marking d => exact .of_not_up (hu rfl)

theorem StopMonitor.vitals_advance (m : Manager) (phase : StopMonitor) :
  (phase.advance m).1.vitals = m.vitals
  := by
  cases phase with
  | asked =>
    simp only [advance]
    split
    · rfl
    · rfl
  | awaiting loop =>
    obtain ⟨journal, h⟩ := m.logEnd_eq loop
    rw [advance, h]
    rfl

namespace Call

theorem lift_isHalfway {φ ρ : Type} {phase : φ → Call} {result : Manager → ρ → Manager × Outcome}
    {f : φ → Bool} (hf : ∀ p, (phase p).isHalfway = f p) (step : Manager × Progress φ ρ) :
  (lift phase result step).2.isHalfway isHalfway = step.2.isHalfway f
  := by
  obtain ⟨m, progress⟩ := step
  cases progress with
  | going p => exact hf p
  | done r => rfl

/-- Whoever disconnects marks a connection as down that is not up, unless its writes are torn. -/
theorem tidies_disconnect {m : Manager} {announced : Bool} {phase : Disconnect}
    (h : (disconnect announced phase).isTorn m = false) :
  Tidies m ((disconnect announced phase).advance m).1 false
    (((disconnect announced phase).advance m).2.isHalfway isHalfway)
  := by
  cases phase with
  | stopping phase =>
    have hv := phase.vitals_advance m
    apply Tidies.kept
    simp only [advance, Disconnect.advance]
    split
    · next hp => simpa [lift, hp] using hv
    · next hp => simpa [lift, hp] using hv
  | closing =>
    obtain ⟨journal, hr⟩ := m.release_eq
    apply Tidies.of_not_up
    simp only [advance, Disconnect.advance, hr]
    rfl
  | marking =>
    apply Tidies.of_not_up
    cases announced with
    | false => exact h
    | true => exact h

theorem tidies_advance {m : Manager} {c : Call} (h : c.isTorn m = false)
    (hu : ∀ announced phase, c = connect announced phase → phase.isActive = true →
      m.state.isUp = false) :
  Tidies m (c.advance m).1 c.isHalfway ((c.advance m).2.isHalfway isHalfway)
  := by
  cases c with
  | start =>
    simp only [advance, advanceStart]
    split
    · exact .kept false rfl
    · exact .kept false rfl
  | connect announced phase =>
    have ht : Tidies m (phase.advance m).1 phase.isHalfway
        ((phase.advance m).2.isHalfway Connect.isHalfway) := by
      apply Connect.tidies_advance (hu announced phase rfl)
      rintro a latency rfl
      simpa [isTorn] using h
    obtain ⟨journal, hm⟩ := connect_advance_eq m announced phase
    have hb : ((connect announced phase).advance m).2.isHalfway isHalfway
        = (phase.advance m).2.isHalfway Connect.isHalfway := lift_isHalfway (fun _ => rfl) _
    rw [hm, hb]
    exact ht.congr rfl
  | stop => exact .kept false rfl
  | disconnect announced phase => exact tidies_disconnect h
  | stopMonitor phase =>
    have hv := phase.vitals_advance m
    apply Tidies.kept
    simp only [advance]
    generalize phase.advance m = step at hv
    obtain ⟨m', progress⟩ := step
    cases progress with
    | going phase' => exact hv
    | done u => exact hv
  | checkHealth check =>
    have ht : Tidies m (check.advance m).1 check.isHalfway
        ((check.advance m).2.isHalfway Check.isHalfway) := check.tidies_advance h
    simp only [advance]
    rw [lift_isHalfway (f := Check.isHalfway) fun _ => rfl]
    generalize check.advance m = step at ht
    obtain ⟨m', progress⟩ := step
    cases progress with
    | going check' => exact ht
    | done status => exact ht
  | askStatus probe =>
    exact .of_outline (outline_lift _ _ (fun m r => rfl) (probe.outline_advance m))
  | ping probe => exact .of_outline (outline_lift _ _ (fun m r => rfl) (probe.outline_advance m))
  | run phase => exact .of_outline (outline_lift _ _ (fun m r => rfl) (phase.outline_advance m))
  | maintain task =>
    exact .of_outline (outline_lift _ _ (fun m r => task.outline_finish m _)
      (task.outline_start m))
  | maintaining task phase =>
    exact .of_outline (outline_lift _ _ (fun m r => task.outline_finish m _)
      (phase.outline_advance m))
  | sleep due => exact .kept false rfl

end Call

/-! ### Loops -/

theorem StopMonitor.exists_loop_advance (m : Manager) (phase : StopMonitor) {l : MonitorLoop}
    (h : l ∈ m.loops) :
  ∃ l' ∈ (phase.advance m).1.loops, l'.phase = l.phase
  := by
  cases phase with
  | asked =>
    simp only [advance]
    split
    · exact ⟨l, h, rfl⟩
    · refine ⟨_, List.mem_map_of_mem h, ?_⟩
      split
      · rfl
      · rfl
  | awaiting loop =>
    obtain ⟨journal, he⟩ := m.logEnd_eq loop
    rw [advance, he]
    exact ⟨l, h, rfl⟩

/-- No call ends a loop or moves it on. -/
theorem Call.exists_loop_advance (m : Manager) (c : Call) {l : MonitorLoop} (h : l ∈ m.loops) :
  ∃ l' ∈ (c.advance m).1.loops, l'.phase = l.phase
  := by
  cases hs : c.stopPhase? with
  | none =>
    cases keeps_advance (m := m) hs with
    | kept hl hm => exact ⟨l, hl ▸ h, rfl⟩
    | started hn hl hm => exact ⟨l, hl ▸ List.mem_append_left _ h, rfl⟩
  | some phase =>
    rw [(advance_stop (m := m) hs).1]
    exact phase.exists_loop_advance m h

namespace Manager

variable {m : Manager} {l : MonitorLoop}

theorem mem_enter (h : l ∈ m.loops) (phase : MonitorPhase) :
  { l with phase := phase } ∈ (m.enter l.id phase).loops
  := by
  have hm := List.mem_map_of_mem (f := fun l' : MonitorLoop =>
    if l'.id = l.id then { l' with phase := phase } else l') h
  rwa [if_pos rfl] at hm

theorem mem_enter_of_ne (h : l ∈ m.loops) {id : Nat} (hid : l.id ≠ id) (phase : MonitorPhase) :
  l ∈ (m.enter id phase).loops
  := by
  have hm := List.mem_map_of_mem (f := fun l' : MonitorLoop =>
    if l'.id = id then { l' with phase := phase } else l') h
  rwa [if_neg hid] at hm

/-- A loop that goes on leaves the others as they are. -/
theorem mem_advanceLoop_of_ne (h : l ∈ m.loops) {l' : MonitorLoop} (hid : l.id ≠ l'.id) :
  l ∈ (m.advanceLoop l').loops
  := by
  have hend : l ∈ (m.endLoop l'.id).loops := List.mem_filter.mpr ⟨h, by simpa using hid⟩
  unfold advanceLoop
  split
  · split
    · exact hend
    · exact mem_enter_of_ne h hid _
  · split
    · exact hend
    · exact mem_enter_of_ne h hid _
  · next next check hp =>
    obtain ⟨phase, hl, -⟩ := m.loops_advanceRegularCheck l'.id next check
    rw [hl]
    exact mem_enter_of_ne h hid phase
  · next next status hp =>
    obtain ⟨journal, hr⟩ := m.reportHealth_eq status
    rw [hr]
    exact mem_enter_of_ne h hid _

/-- A loop reports and writes what its check says. -/
theorem tidies_advanceLoop (h : l ∈ m.loops) (ht : l.isTorn m = false) :
  ∃ b, Tidies m (m.advanceLoop l) l.isHalfway b
    ∧ (b = true → ∃ l' ∈ (m.advanceLoop l).loops, l'.isHalfway = true)
  := by
  obtain ⟨id, stopping, phase⟩ := l
  cases phase with
  | starting =>
    refine ⟨false, ?_, by simp⟩
    apply Tidies.kept
    simp only [advanceLoop]
    split
    · rfl
    · rfl
  | waiting tick =>
    refine ⟨false, ?_, by simp⟩
    apply Tidies.kept
    simp only [advanceLoop]
    split
    · rfl
    · rfl
  | checking next check =>
    have hc := check.tidies_advance ht
    obtain ⟨pings, metrics, state, journal, hm⟩ := check.advance_eq m
    simp only [advanceLoop, advanceRegularCheck]
    generalize check.advance m = step at hc hm
    obtain ⟨m', progress⟩ := step
    subst hm
    cases progress with
    | going check' =>
      refine ⟨check'.isHalfway, hc.congr rfl, ?_⟩
      intro hb
      exact ⟨_, mem_enter h _, hb⟩
    | done status => exact ⟨false, hc.congr rfl, by simp⟩
  | reporting next status =>
    refine ⟨false, ?_, by simp⟩
    obtain ⟨journal, hr⟩ := m.reportHealth_eq status
    apply Tidies.kept
    simp only [advanceLoop, hr]
    rfl

end Manager

/-! ### Moments of agreement -/

namespace Traffic

/-- At a clear moment state and report agree, or they are what they were before. -/
def Fits (s : Traffic) (before : Vitals) : Prop :=
  s.Clear → s.manager.vitals.Agree ∨ s.manager.vitals = before

section

variable {s s' : Traffic} {before : Vitals}

namespace Fits

theorem tidy (h : s.Fits before) {b b' : Bool} (ht : Tidies s.manager s'.manager b b')
    (hend : s'.Clear → b' = false) (hbegin : b = false → s'.Clear → s.Clear) :
  s'.Fits before
  := by
  intro hc
  have hb := hend hc
  cases ht with
  | kept b' hv =>
    rw [hv]
    exact h (hbegin rfl hc)
  | reported b => cases hb
  | agreed b b' ha => exact .inl ha

/-- A step of a call. -/
theorem advance (h : s.Fits before) (ho : s.Orderly) {i : Nat} {c : Call}
    (hc : s.call? i = some c) (ht : c.isTorn s.manager = false) :
  (s.settle i (c.advance s.manager)).Fits before
  := by
  have htidy : Tidies s.manager (s.settle i (c.advance s.manager)).manager c.isHalfway
      ((c.advance s.manager).2.isHalfway Call.isHalfway) := by
    rw [manager_settle]
    apply Call.tidies_advance ht
    rintro announced phase rfl ha
    exact ho.not_isUp hc ha
  apply h.tidy htidy
  · intro hclear
    cases hp : (c.advance s.manager).2 with
    | going c' => exact hclear.calls i c' (call?_settle_going (lt_length_of_call? hc) hp)
    | done o => rfl
  · intro hb hclear
    constructor
    case calls =>
      intro j c' hc'
      by_cases hij : i = j
      · subst hij
        cases hc.symm.trans hc'
        exact hb
      · exact hclear.calls j c' ((call?_settle_of_ne s hij _).trans hc')
    case loops =>
      intro l hl
      obtain ⟨l', hl', hp⟩ := c.exists_loop_advance s.manager hl
      rw [MonitorLoop.isHalfway, ← hp]
      exact hclear.loops l' (by rwa [manager_settle])

/-- A step of a loop. -/
theorem watch (h : s.Fits before) (hn : s.manager.Numbered) {k : Nat} {l : MonitorLoop}
    (hl : s.manager.loops[k]? = some l) (ht : l.isTorn s.manager = false) :
  Fits { s with manager := s.manager.advanceLoop l } before
  := by
  have hmem := List.mem_of_getElem? hl
  obtain ⟨b, htidy, hb⟩ := Manager.tidies_advanceLoop hmem ht
  apply h.tidy htidy
  · intro hclear
    rw [Bool.eq_false_iff]
    intro hhalf
    obtain ⟨l', hl', hb'⟩ := hb hhalf
    cases (hclear.loops l' hl').symm.trans hb'
  · intro hbegin hclear
    refine ⟨hclear.calls, ?_⟩
    intro l' hl'
    by_cases hid : l'.id = l.id
    · rw [hn.eq_of_id hl' hmem hid]
      exact hbegin
    · exact hclear.loops l' (Manager.mem_advanceLoop_of_ne hl' hid)

theorem change (h : s.Fits before) (ho : s.Orderly) (hn : s.manager.Numbered) {move : Move}
    (hc : s.Change move s') (ht : s.tears move = false) :
  s'.Fits before
  := by
  cases hc with
  | idle => exact h
  | asked r =>
    refine h.tidy (.kept false rfl) (fun _ => rfl) ?_
    intro _ hclear
    refine ⟨?_, hclear.loops⟩
    intro i c hi
    apply hclear.calls i c
    rw [← step, call?_ask, if_neg (Nat.ne_of_lt (lt_length_of_call? hi))]
    exact hi
  | advanced i c hc hr =>
    rw [tears, hc] at ht
    exact h.advance ho hc ht
  | watched k l hl hr =>
    rw [tears, hl] at ht
    exact h.watch hn hl ht
  | elapsed time | planned faults | meddled store =>
    exact h.tidy (.kept false rfl) (fun _ => rfl) fun _ hclear => ⟨hclear.calls, hclear.loops⟩

theorem run (h : s.Fits before) (ho : s.Orderly) (hn : s.manager.Numbered) {moves : List Move}
    (hw : s.isWhole moves = true) :
  (s.run moves).Fits before
  := by
  induction moves generalizing s with
  | nil => exact h
  | cons move moves ih =>
    rw [isWhole, Bool.and_eq_true, Bool.not_eq_true'] at hw
    have hc := s.step_change move
    exact ih (h.change ho hn hc hw.1) (ho.change hc) (hc.numbered hn) hw.2

end Fits

end

end Traffic

/-! ### Health checks -/

/-- Only a health check answers whether the connection is healthy. -/
theorem Call.done_healthy {m : Manager} {c : Call} {b : Bool}
    (h : (c.advance m).2 = .done (.healthy b)) :
  ∃ status, c = .checkHealth (.settling status) ∧ b = (status == .healthy)
  := by
  cases c with
  | start =>
    obtain ⟨e, -, ho⟩ := done_start h
    cases ho
  | stop => cases h
  | sleep due => cases h
  | connect announced phase =>
    obtain ⟨r, -, ho⟩ := done_connect h
    cases ho
  | checkHealth check =>
    obtain ⟨status, hd, ho⟩ := done_lift h
    have hs := check.step_advance m
    generalize check.advance m = step at hd hs
    cases hs with
    | waits hp => cases hd
    | reports hp => cases hd
    | settles =>
      cases hd
      cases ho
      use status
  | _ =>
    obtain ⟨r, hr, ho⟩ := done_lift h
    cases ho

namespace Traffic

/-- During a run the health check with number `i` sent `ping`. -/
def Sent (first : Traffic) (moves : List Move) (i : Nat) (ping : Ping) : Prop :=
  ∃ before, before ++ [.advance i] <+: moves
    ∧ (first.run before).call? i = some (.checkHealth (.probing .ready))
    ∧ ping = (first.run before).manager.startPing.1

/-- With its next step the health check with number `i` learns and reports how its probe ended. -/
structure Hears (s : Traffic) (i : Nat) (probe : Probe) (p : Probed) : Prop where
  call : s.call? i = some (.checkHealth (.probing probe))
  isReady : probe.isReady s.manager.now = true
  ends : (probe.advance s.manager).2 = .done p

theorem Sent.mono {first : Traffic} {moves moves' : List Move} {i : Nat} {ping : Ping}
    (h : first.Sent moves i ping) (hm : moves <+: moves') :
  first.Sent moves' i ping
  := by
  obtain ⟨before, hb, hc, hp⟩ := h
  use before, hb.trans hm, hc, hp

/-- A health check that waits sends a ping by the move that makes it wait. -/
theorem Change.waiting {s s' : Traffic} {move : Move} (h : s.Change move s') {i : Nat}
    {ping : Ping} (hw : s'.call? i = some (.checkHealth (.probing (.waiting ping)))) :
  s.call? i = some (.checkHealth (.probing (.waiting ping)))
    ∨ move = .advance i ∧ s.call? i = some (.checkHealth (.probing .ready))
      ∧ ping = s.manager.startPing.1
  := by
  cases h with
  | asked r =>
    rw [← step, call?_ask] at hw
    split at hw
    · cases r with
      | _ => cases hw
    · exact .inl hw
  | advanced j c hc hr =>
    by_cases hij : j = i
    · subst hij
      cases Call.goesOn_of_going (going_of_call?_settle hw) with
      | @checkHealth check check' hp =>
        have hs := check.step_advance s.manager
        generalize check.advance s.manager = step at hp hs
        cases hs with
        | waits hg =>
          cases hp
          obtain ⟨rfl, hw⟩ := Probe.advance_going hg
          cases hw
          exact .inr ⟨rfl, hc, rfl⟩
        | reports hd => cases hp
        | settles status => cases hp
    · rw [call?_settle_of_ne s hij] at hw
      exact .inl hw
  | _ => exact .inl hw

/-- A health check that is halfway through its writes heard of its ping by the move that got it
there. -/
theorem Change.settling {s s' : Traffic} {move : Move} (h : s.Change move s') {i : Nat}
    {status : HealthStatus} (hw : s'.call? i = some (.checkHealth (.settling status))) :
  s.call? i = some (.checkHealth (.settling status))
    ∨ move = .advance i ∧ ∃ probe p, s.Hears i probe p ∧ status = p.status s.manager.threshold
  := by
  cases h with
  | asked r =>
    rw [← step, call?_ask] at hw
    split at hw
    · cases r with
      | _ => cases hw
    · exact .inl hw
  | advanced j c hc hr =>
    by_cases hij : j = i
    · subst hij
      cases Call.goesOn_of_going (going_of_call?_settle hw) with
      | @checkHealth check check' hp =>
        have hs := check.step_advance s.manager
        generalize check.advance s.manager = step at hp hs
        cases hs with
        | waits hg => cases hp
        | @reports probe p hd =>
          cases hp
          exact .inr ⟨rfl, probe, p, ⟨hc, hr, hd⟩, rfl⟩
        | settles status => cases hp
    · rw [call?_settle_of_ne s hij] at hw
      exact .inl hw
  | _ => exact .inl hw

/-- A health check that waits does so for the ping that it sent. -/
theorem sent_of_waiting {first : Traffic} (h : first.calls = []) {moves : List Move} {i : Nat}
    {ping : Ping}
    (hw : (first.run moves).call? i = some (.checkHealth (.probing (.waiting ping)))) :
  first.Sent moves i ping
  := by
  induction moves using List.reverseRecOn with
  | nil => simp [call?, h] at hw
  | append_singleton moves move ih =>
    rw [run_concat] at hw
    rcases ((first.run moves).step_change move).waiting hw with hw | ⟨rfl, hr, hp⟩
    · exact (ih hw).mono (List.prefix_append moves [move])
    · exact ⟨moves, List.prefix_rfl, hr, hp⟩

/-- The ping of a health check whose next step ends its probe is one that it sent. -/
theorem Hears.sent {first : Traffic} (h : first.calls = []) {moves : List Move} {i : Nat}
    {probe : Probe} {p : Probed} (hh : (first.run moves).Hears i probe p) :
  first.Sent (moves ++ [.advance i]) i (probe.ping (first.run moves).manager)
  := by
  cases probe with
  | ready => exact ⟨moves, List.prefix_rfl, hh.call, rfl⟩
  | waiting ping => exact (sent_of_waiting h hh.call).mono (List.prefix_append moves [.advance i])

/-- A health check that is halfway through its writes has heard of its ping what it reported. -/
theorem heard_of_settling {first : Traffic} (h : first.calls = []) {moves : List Move} {i : Nat}
    {status : HealthStatus}
    (hw : (first.run moves).call? i = some (.checkHealth (.settling status))) :
  ∃ ended probe p, ended ++ [.advance i] <+: moves ∧ (first.run ended).Hears i probe p
    ∧ status = p.status (first.run ended).manager.threshold
  := by
  induction moves using List.reverseRecOn with
  | nil => simp [call?, h] at hw
  | append_singleton moves move ih =>
    rw [run_concat] at hw
    rcases ((first.run moves).step_change move).settling hw with hw | ⟨rfl, probe, p, hh, hp⟩
    · obtain ⟨ended, probe, p, he, hh, hp⟩ := ih hw
      exact ⟨ended, probe, p, he.trans (List.prefix_append moves [move]), hh, hp⟩
    · exact ⟨moves, probe, p, List.prefix_rfl, hh, hp⟩

/-- A health check that returns with its next step answers what its ping said. -/
theorem healthy_iff {first : Traffic} (h : first.calls = []) {moves : List Move} {i : Nat}
    {b : Bool} (ho : (first.run moves).outcome? i = some (.healthy b)) :
  ∃ ended probe p ping, ended ++ [.advance i] <+: moves ∧ (first.run ended).Hears i probe p
    ∧ first.Sent (ended ++ [.advance i]) i ping
    ∧ (b = true ↔ (first.run ended).manager.store.connected = true ∧ ping.fault = none
      ∧ (first.run ended).manager.now - ping.started < (first.run ended).manager.threshold)
  := by
  obtain ⟨c, hc, -, hd⟩ := outcome?_eq_some_iff.mp ho
  obtain ⟨status, rfl, rfl⟩ := Call.done_healthy hd
  obtain ⟨ended, probe, p, he, hh, rfl⟩ := heard_of_settling h hc
  use ended, probe, p, probe.ping (first.run ended).manager, he, hh, hh.sent h
  rw [beq_iff_eq, Probed.status_eq_healthy_iff, Probe.advance_done hh.ends, Probe.probed,
    Ping.outcome_eq_ok_iff, and_assoc]

/-! ### Runs -/

/-- Whether a move goes on with a probe, of a caller or of a loop. -/
def Probes (s : Traffic) : Move → Prop
  | .advance i =>
    (∃ check, s.call? i = some (.checkHealth check)) ∨ ∃ probe, s.call? i = some (.askStatus probe)
  | .watch _ => True
  | _ => False

/-- A probe has no say in the state of a connection that is not established. -/
theorem Change.state_of_probes {s s' : Traffic} {move : Move} (h : s.Change move s')
    (hp : s.Probes move) (hu : s.manager.state.isUp = false) :
  s'.manager.state = s.manager.state
  := by
  cases h with
  | idle => rfl
  | advanced i c hc hr =>
    have hd : c.isDecisive = false := by
      rcases hp with ⟨check, hp⟩ | ⟨probe, hp⟩
      · cases hc.symm.trans hp
        rfl
      · cases hc.symm.trans hp
        rfl
    rw [manager_settle]
    exact (c.aside_advance s.manager hd).vitals.state hu
  | watched k l h hr => exact (s.manager.aside_advanceLoop l).vitals.state hu
  | _ => cases hp

/-- A new manager of a store, which is to watch the connection. -/
def vigilant : Traffic :=
  opened
    { url := "memory://localhost/projects", environment := .production, healthCheckInterval := 100 }
    { draw := fun _ => 0, name := fun _ => "" } 0 {}

/-- The moves of a caller who connects and of another one whose health check and a regular one write
by turns. -/
def alternation : List Move :=
  [.ask .connect, .advance 0, .advance 0, .advance 0, .advance 0, .advance 0, .watch 0,
    .plan { ping := some "gone" }, .elapse 100, .watch 0, .ask .checkHealth, .advance 1, .watch 0,
    .advance 1, .watch 0]

/-- The moves of a caller who connects while a health check of another one reports a failure. -/
def outpacing : List Move :=
  [.ask .connect, .advance 0, .advance 0, .advance 0, .advance 0, .plan { ping := some "gone" },
    .ask .checkHealth, .advance 1, .advance 1, .advance 0]

end Traffic

end Storekeeper

import Mathlib.Data.List.Nodup
import Storekeeper.Proofs.Manager.Incidents
import Storekeeper.Proofs.Manager.Quiet

/-!
# Probes in progress

A probe that has started is in the hands of the call or of the loop that made it, until it returns
or is cut off.  Each step balances: the probes that were in progress and those that start are the
ones that end and those that are in progress after it, each of them once.
-/

namespace Storekeeper

/-- The probe that starts with an incident. -/
def Incident.started? : Incident → Option Ping
  | started ping => some ping
  | cutOff _ | completed _ => none

/-- The probe that is cut off with an incident. -/
def Incident.cutOff? : Incident → Option Ping
  | cutOff ping => some ping
  | started _ | completed _ => none

/-- The probe that returns with an incident. -/
def Incident.returned? : Incident → Option Ping
  | completed (.ping ping _) => some ping
  | _ => none

/-- The probes `before` and those that start with some incidents are the probes that end with them
and those `after`. -/
def Balanced (before : List Ping) (incidents : List Incident) (after : List Ping) : Prop :=
  ∀ p, before.count p + (incidents.filterMap Incident.started?).count p
    = (incidents.filterMap Incident.returned?).count p
      + (incidents.filterMap Incident.cutOff?).count p + after.count p

namespace Balanced

theorem nil (pings : List Ping) :
  Balanced pings [] pings
  := by
  intro p
  simp

theorem append {before between after : List Ping} {incidents incidents' : List Incident}
    (h : Balanced before incidents between) (h' : Balanced between incidents' after) :
  Balanced before (incidents ++ incidents') after
  := by
  intro p
  have hp := h p
  have hp' := h' p
  simp only [List.filterMap_append, List.count_append]
  omega

/-- Probes that nothing happens to stay in progress. -/
theorem frame {before after : List Ping} {incidents : List Incident}
    (h : Balanced before incidents after) (pings : List Ping) :
  Balanced (pings ++ before) incidents (pings ++ after)
  := by
  intro p
  have hp := h p
  simp only [List.count_append]
  omega

theorem started (ping : Ping) :
  Balanced [] [.started ping] [ping]
  := fun _ => rfl

theorem returned (ping : Ping) (probed : Probed) :
  Balanced [ping] [.completed (.ping ping probed)] []
  := fun _ => rfl

theorem cutOff (ping : Ping) :
  Balanced [ping] [.cutOff ping] []
  := fun p => (Nat.zero_add ([ping].count p)).symm

theorem abandoned (pings : List Ping) :
  Balanced pings (pings.map .cutOff) []
  := by
  have hstarted : (pings.map Incident.cutOff).filterMap Incident.started? = [] := by
    rw [List.filterMap_map]
    apply List.filterMap_eq_nil_iff.mpr
    intro ping hping
    rfl
  have hreturned : (pings.map Incident.cutOff).filterMap Incident.returned? = [] := by
    rw [List.filterMap_map]
    apply List.filterMap_eq_nil_iff.mpr
    intro ping hping
    rfl
  have hcut : (pings.map Incident.cutOff).filterMap Incident.cutOff? = pings := by
    rw [List.filterMap_map]
    exact List.filterMap_some
  intro p
  rw [hstarted, hreturned, hcut]
  exact (Nat.zero_add (pings.count p)).symm

/-- An operation that takes no time has nothing to do with the probes. -/
theorem completed {c : Completion} (h : ∀ ping probed, c ≠ .ping ping probed) (pings : List Ping) :
  Balanced pings [.completed c] pings
  := by
  cases c with
  | ping ping probed => exact absurd rfl (h ping probed)
  | _ => exact fun p => (Nat.zero_add (pings.count p)).symm

end Balanced

namespace Manager

theorem balanced_opens (m : Manager) (pings : List Ping) :
  Balanced pings m.opens pings
  := .completed (by nofun) pings

theorem balanced_closes (m : Manager) (pings : List Ping) :
  Balanced pings m.closes pings
  := .completed (by nofun) pings

theorem balanced_begins (m : Manager) (options : Transaction.Options) (pings : List Ping) :
  Balanced pings (m.begins options) pings
  := .completed (by nofun) pings

theorem balanced_performs (m : Manager) (tx : Transaction) (op : Transaction.Operation)
    (pings : List Ping) :
  Balanced pings (m.performs tx op) pings
  := by
  unfold performs
  split
  · exact .nil pings
  · exact .completed (by nofun) pings

end Manager

/-! ### Probes -/

/-- The probe that is in progress, if it has started. -/
def Probe.inFlight : Probe → List Ping
  | ready => []
  | waiting ping => [ping]

/-- The probe that is in progress in something that goes on or is over. -/
def Progress.inFlight {φ ρ : Type} (pings : φ → List Ping) : Progress φ ρ → List Ping
  | going phase => pings phase
  | done _ => []

theorem Probe.balanced_advance (m : Manager) (probe : Probe) :
  Balanced probe.inFlight (probe.incidents m) ((probe.advance m).2.inFlight Probe.inFlight)
  := by
  cases probe with
  | ready =>
    by_cases hd : m.startPing.1.due ≤ m.startPing.2.now
    · simp only [incidents, advance, hd, if_true]
      exact (Balanced.started _).append (.returned _ _)
    · simp only [incidents, advance, hd, if_true, if_false]
      exact .started _
  | waiting ping => exact .returned ping _

/-- The probe that is in progress in a check. -/
def Check.inFlight : Check → List Ping
  | probing probe => probe.inFlight
  | settling _ => []

theorem Check.balanced_advance (m : Manager) (check : Check) :
  Balanced check.inFlight (check.incidents m) ((check.advance m).2.inFlight Check.inFlight)
  := by
  have hs := check.step_advance m
  generalize check.advance m = step at hs
  cases hs with
  | @waits probe probe' h =>
    have hb := probe.balanced_advance m
    rw [h] at hb
    exact hb
  | @reports probe p h =>
    have hb := probe.balanced_advance m
    rw [h] at hb
    exact hb
  | settles status => exact .nil []

/-! ### Calls -/

/-- The probe that is in progress in a call that connects. -/
def Connect.inFlight : Connect → List Ping
  | probing _ probe => probe.inFlight
  | _ => []

namespace Connect

theorem inFlight_fail (m : Manager) (a : Attempt) (e : Error) :
  (m.fail a e).2.inFlight inFlight = []
  := by
  have hf := m.fails_fail a e
  generalize m.fail a e = step at hf
  cases hf with | _ => rfl

theorem inFlight_conclude (m : Manager) (a : Attempt) (probed : Probed) :
  (m.conclude a probed).2.inFlight inFlight = []
  := by
  unfold Manager.conclude
  split
  · rfl
  · rfl

theorem balanced_advance (m : Manager) (phase : Connect) :
  Balanced phase.inFlight (phase.incidents m) ((phase.advance m).2.inFlight inFlight)
  := by
  cases phase with
  | arriving | pausing number failures due => exact .nil []
  | settling a latency | marking d | counting d | crashed => exact .nil []
  | waiting ticket =>
    simp only [advance, Manager.takeTurn]
    split
    · exact .nil []
    · exact .nil []
  | opening a =>
    have hb := m.balanced_opens []
    simp only [advance, incidents]
    split
    · exact hb
    · rw [inFlight_fail]
      exact hb
  | probing a probe =>
    simp only [advance, incidents]
    split
    · have hb := probe.balanced_advance m
      generalize probe.advance m = step at hb
      obtain ⟨m', progress⟩ := step
      cases progress with
      | going probe' => exact hb
      | done p =>
        dsimp only
        rw [inFlight_conclude]
        exact hb
    · rw [inFlight_fail]
      cases probe with
      | ready => exact .nil []
      | waiting ping => exact .cutOff ping
  | closing a e =>
    have hb := m.balanced_closes []
    simp only [advance, incidents]
    split
    · rw [inFlight_fail]
      exact hb
    · rw [inFlight_fail]
      exact hb

end Connect

namespace Call

/-- The probe that is in progress in a call. -/
def inFlight : Call → List Ping
  | connect _ phase => phase.inFlight
  | checkHealth check => check.inFlight
  | askStatus probe | ping probe => probe.inFlight
  | _ => []

theorem inFlight_lift {φ ρ : Type} {pings : φ → List Ping} {phase : φ → Call}
    (h : ∀ p, (phase p).inFlight = pings p) (result : Manager → ρ → Manager × Outcome)
    (step : Manager × Progress φ ρ) :
  (lift phase result step).2.inFlight inFlight = step.2.inFlight pings
  := by
  obtain ⟨m, progress⟩ := step
  cases progress with
  | going p => exact h p
  | done r => rfl

/-- Nothing is in progress in a call that does not probe. -/
theorem inFlight_lift_nil {φ ρ : Type} {phase : φ → Call} (h : ∀ p, (phase p).inFlight = [])
    (result : Manager → ρ → Manager × Outcome) (step : Manager × Progress φ ρ) :
  (lift phase result step).2.inFlight inFlight = []
  := by
  obtain ⟨m, progress⟩ := step
  cases progress with
  | going p => exact h p
  | done r => rfl

theorem balanced_run (m : Manager) (phase : Run Nat) :
  Balanced [] (phase.incidents m) []
  := by
  cases phase with
  | beginning options work => exact m.balanced_begins options []
  | performing r op next => exact m.balanced_performs r.transaction op []
  | sleeping r due next => exact .nil []
  | committing r value => exact m.balanced_performs r.transaction .commit []
  | aborting r failure => exact m.balanced_performs r.transaction .rollback []

theorem balanced_advance (m : Manager) (c : Call) :
  Balanced c.inFlight (c.incidents m) ((c.advance m).2.inFlight inFlight)
  := by
  cases c with
  | start =>
    simp only [advance, advanceStart]
    split
    · exact .nil []
    · exact .nil []
  | connect announced phase =>
    rw [advance, inFlight_lift fun p => rfl]
    exact phase.balanced_advance m
  | stop | sleep due => exact .nil []
  | disconnect announced phase =>
    rw [advance, inFlight_lift_nil fun p => rfl]
    cases phase with
    | stopping phase => exact .nil []
    | closing => exact m.balanced_closes []
    | marking => exact .nil []
  | stopMonitor phase =>
    rw [advance, inFlight_lift_nil fun p => rfl]
    exact .nil []
  | checkHealth check =>
    rw [advance, inFlight_lift fun p => rfl]
    exact check.balanced_advance m
  | askStatus probe | ping probe =>
    rw [advance, inFlight_lift fun p => rfl]
    exact probe.balanced_advance m
  | run phase =>
    rw [advance, inFlight_lift_nil fun p => rfl]
    exact balanced_run m phase
  | maintain task =>
    rw [advance, inFlight_lift_nil fun p => rfl]
    exact .nil []
  | maintaining task phase =>
    rw [advance, inFlight_lift_nil fun p => rfl]
    exact balanced_run m phase

end Call

/-! ### Lists -/

section

variable {α : Type} {f : α → List Ping}

/-- What changes in the probes of a list where one element is replaced. -/
theorem count_flatMap_set {as : List α} {k : Nat} {a : α} (h : as[k]? = some a) (b : α) (p : Ping) :
  ((as.set k b).flatMap f).count p + (f a).count p = (as.flatMap f).count p + (f b).count p
  := by
  induction as generalizing k with
  | nil => cases h
  | cons a' as ih =>
    cases k with
    | zero =>
      cases h
      simp only [List.set_cons_zero, List.flatMap_cons, List.count_append]
      omega
    | succ k =>
      have hk := ih h
      simp only [List.set_cons_succ, List.flatMap_cons, List.count_append]
      omega

/-- What holds no probe can be left out. -/
theorem flatMap_filter_of_nil {q : α → Bool} {as : List α} (h : ∀ a ∈ as, q a = false → f a = []) :
  (as.filter q).flatMap f = as.flatMap f
  := by
  induction as with
  | nil => rfl
  | cons a as ih =>
    obtain ⟨ha, has⟩ := List.forall_mem_cons.mp h
    cases hq : q a with
    | true => rw [List.filter_cons_of_pos hq, List.flatMap_cons, List.flatMap_cons, ih has]
    | false =>
      rw [List.filter_cons_of_neg (by simp [hq]), List.flatMap_cons, ha hq, List.nil_append, ih has]

end

/-! ### Loops -/

/-- The probe that is in progress in a phase of a loop. -/
def MonitorPhase.inFlight : MonitorPhase → List Ping
  | checking _ check => check.inFlight
  | starting | waiting _ | reporting _ _ => []

/-- The probe that is in progress in a loop. -/
def MonitorLoop.inFlight (l : MonitorLoop) : List Ping := l.phase.inFlight

namespace Manager

/-- The probes that are in progress in the loops. -/
def inFlight (m : Manager) : List Ping := m.loops.flatMap MonitorLoop.inFlight

/-- The loops have different numbers, which are not given to others. -/
structure Numbered (m : Manager) : Prop where
  nodup : m.loopIds.Nodup
  fresh : ∀ id ∈ m.loopIds, id < m.fresh

namespace Numbered

variable {m m' : Manager}

theorem of_sublist (h : m.Numbered) (hl : m'.loopIds.Sublist m.loopIds) (hf : m.fresh ≤ m'.fresh) :
  m'.Numbered
  where
  nodup := h.nodup.sublist hl
  fresh id hid := Nat.lt_of_lt_of_le (h.fresh id (hl.subset hid)) hf

theorem aside (h : m.Numbered) (ha : m.Aside m') :
  m'.Numbered
  := h.of_sublist ha.loops (Nat.le_of_eq ha.fresh.symm)

theorem started (h : m.Numbered) (hl : m'.loops = m.loops ++ [{ id := m.fresh }])
    (hf : m.fresh < m'.fresh) :
  m'.Numbered
  := by
  have hids : m'.loopIds = m.loopIds ++ [m.fresh] := by rw [loopIds, hl, List.map_append]; rfl
  constructor
  case nodup =>
    rw [hids, List.nodup_append]
    refine ⟨h.nodup, List.nodup_singleton _, ?_⟩
    intro id hid id' hid'
    rw [List.mem_singleton.mp hid']
    exact Nat.ne_of_lt (h.fresh id hid)
  case fresh =>
    intro id hid
    rw [hids, List.mem_append, List.mem_singleton] at hid
    rcases hid with hid | rfl
    · exact Nat.lt_trans (h.fresh id hid) hf
    · exact hf

theorem enter (h : m.Numbered) (id : Nat) (phase : MonitorPhase) :
  (m.enter id phase).Numbered
  where
  nodup := (m.loopIds_enter id phase).symm ▸ h.nodup
  fresh := (m.loopIds_enter id phase).symm ▸ h.fresh

/-- A loop is the only one with its number. -/
theorem eq_of_id (h : m.Numbered) {l l' : MonitorLoop} (hl : l ∈ m.loops) (hl' : l' ∈ m.loops)
    (hid : l.id = l'.id) :
  l = l'
  := List.inj_on_of_nodup_map h.nodup hl hl' hid

/-- Changing the loop with a number changes one loop. -/
theorem loops_modifyLoop (h : m.Numbered) {k : Nat} {l : MonitorLoop} (hl : m.loops[k]? = some l)
    (f : MonitorLoop → MonitorLoop) :
  (m.modifyLoop l.id f).loops = m.loops.set k (f l)
  := by
  have hk : k < m.loops.length := (List.getElem?_eq_some_iff.mp hl).1
  apply List.ext_getElem?
  intro j
  rw [modifyLoop, List.getElem?_map, List.getElem?_set]
  by_cases hj : k = j
  · subst hj
    rw [if_pos rfl, if_pos hk, hl, Option.map_some, if_pos rfl]
  · rw [if_neg hj]
    cases hl' : m.loops[j]? with
    | none => rfl
    | some l' =>
      have hid : l'.id ≠ l.id := by
        intro hid
        apply hj
        apply (List.getElem?_inj (by simpa [loopIds] using hk) h.nodup).mp
        simp [loopIds, hl, hl', hid]
      simp [hid]

end Numbered

variable {m : Manager} {k : Nat} {l : MonitorLoop}

theorem Numbered.balanced_enter (h : m.Numbered) (hl : m.loops[k]? = some l) {phase : MonitorPhase}
    {incidents : List Incident} (hb : Balanced l.inFlight incidents phase.inFlight) :
  Balanced m.inFlight incidents (m.enter l.id phase).inFlight
  := by
  intro p
  have hp := hb p
  have hset := count_flatMap_set hl { l with phase := phase } p (f := MonitorLoop.inFlight)
  rw [inFlight, inFlight, Manager.enter, h.loops_modifyLoop hl]
  have hphase : MonitorLoop.inFlight { l with phase := phase } = phase.inFlight := rfl
  rw [hphase] at hset
  omega

/-- A loop that is not probing can end. -/
theorem Numbered.inFlight_endLoop (h : m.Numbered) (hl : l ∈ m.loops) (hn : l.inFlight = []) :
  (m.endLoop l.id).inFlight = m.inFlight
  := by
  apply flatMap_filter_of_nil
  intro l' hl' hid
  have hsame : l' = l := h.eq_of_id hl' hl (by simpa using hid)
  rw [hsame, hn]

/-- A regular check is in progress in its loop, until the loop reports its outcome. -/
theorem loops_advanceRegularCheck (m : Manager) (id next : Nat) (check : Check) :
  ∃ phase : MonitorPhase, (m.advanceRegularCheck id next check).loops = (m.enter id phase).loops
    ∧ phase.inFlight = (check.advance m).2.inFlight Check.inFlight
  := by
  have hl : (check.advance m).1.loops = m.loops := by
    obtain ⟨pings, metrics, state, journal, hc⟩ := check.advance_eq m
    rw [hc]
  unfold advanceRegularCheck
  generalize check.advance m = step at hl
  obtain ⟨m', progress⟩ := step
  dsimp only at hl
  cases progress with
  | going check' =>
    use .checking next check'
    simp only [enter, modifyLoop, hl, true_and]
    rfl
  | done status =>
    use .reporting next status
    simp only [enter, modifyLoop, hl, true_and]
    rfl

/-- A step of a loop that is not probing has nothing to do with the probes. -/
theorem Numbered.balanced_of_idle (h : m.Numbered) (hl : m.loops[k]? = some l)
    (hn : l.inFlight = []) {ending : Prop} [Decidable ending] {phase : MonitorPhase}
    (hphase : phase.inFlight = []) :
  Balanced m.inFlight [] (if ending then m.endLoop l.id else m.enter l.id phase).inFlight
  := by
  split
  · rw [h.inFlight_endLoop (List.mem_of_getElem? hl) hn]
    exact .nil _
  · apply h.balanced_enter hl
    rw [hn, hphase]
    exact .nil []

theorem Numbered.balanced_advanceLoop (h : m.Numbered) (hl : m.loops[k]? = some l) :
  Balanced m.inFlight (l.incidents m) (m.advanceLoop l).inFlight
  := by
  obtain ⟨id, stopping, phase⟩ := l
  cases phase with
  | starting => exact h.balanced_of_idle hl rfl rfl
  | waiting tick => exact h.balanced_of_idle hl rfl rfl
  | checking next check =>
    obtain ⟨phase, hloops, hflight⟩ := m.loops_advanceRegularCheck id next check
    have hb := check.balanced_advance m
    rw [← hflight] at hb
    have hflight' : (m.advanceRegularCheck id next check).inFlight = (m.enter id phase).inFlight :=
      congrArg (List.flatMap MonitorLoop.inFlight) hloops
    rw [advanceLoop, hflight']
    exact h.balanced_enter hl hb
  | reporting next status =>
    have hb : Balanced m.inFlight [] (m.enter id (.waiting next)).inFlight :=
      h.balanced_enter hl (.nil [])
    obtain ⟨journal, hr⟩ := m.reportHealth_eq status
    simp only [advanceLoop, hr]
    exact hb

end Manager

/-! ### What calls do to the loops -/

namespace Manager

theorem loops_takeTurn (m : Manager) :
  m.takeTurn.1.loops = m.loops
  := by
  unfold takeTurn
  split
  · rfl
  · rfl

theorem loops_fail (m : Manager) (a : Attempt) (e : Error) :
  (m.fail a e).1.loops = m.loops
  := by
  have hf := m.fails_fail a e
  generalize m.fail a e = step at hf
  cases hf with | _ => rfl

theorem loops_or_fresh_startMonitor (m : Manager) :
  m.startMonitor.loops = m.loops ∨ m.fresh < m.startMonitor.fresh
  := by
  unfold startMonitor
  split
  · exact .inl rfl
  · exact .inr (Nat.lt_succ_self _)

theorem loops_conclude (m : Manager) (a : Attempt) (p : Probed) :
  (m.conclude a p).1.loops = m.loops
  := by
  unfold conclude
  split
  · rfl
  · rfl

theorem loops_or_fresh_establish (m : Manager) (a : Attempt) (latency : Nat) :
  (m.establish a latency).1.loops = m.loops ∨ m.fresh < (m.establish a latency).1.fresh
  := by
  simp only [establish]
  split
  · exact loops_or_fresh_startMonitor _
  · exact .inl rfl

/-- A loop that is told to stop goes on with its probe. -/
theorem inFlight_stopLoop (m : Manager) (id : Nat) :
  (m.modifyLoop id fun l => { l with stopping := true }).inFlight = m.inFlight
  := by
  rw [inFlight, modifyLoop, List.flatMap_map, inFlight]
  congr 1
  funext l
  split
  · rfl
  · rfl

end Manager

/-- A call that connects starts a loop with a new number, or none. -/
theorem Connect.loops_or_fresh (m : Manager) (phase : Connect) :
  (phase.advance m).1.loops = m.loops ∨ m.fresh < (phase.advance m).1.fresh
  := by
  cases phase with
  | arriving | pausing number failures due | marking d | counting d | crashed => exact .inl rfl
  | settling a latency => exact m.loops_or_fresh_establish a latency
  | waiting ticket => exact .inl m.loops_takeTurn
  | opening a =>
    have ho := m.openStore_eq
    simp only [advance]
    generalize m.openStore = step at ho
    obtain ⟨reply, m'⟩ := step
    obtain ⟨store, journal, rfl⟩ := ho
    cases reply with
    | ok u => exact .inl rfl
    | error e => exact .inl (Manager.loops_fail _ a e)
  | probing a probe =>
    obtain ⟨pings, journal, hp⟩ := probe.advance_eq m
    simp only [advance]
    split
    · generalize probe.advance m = step at hp
      obtain ⟨m', progress⟩ := step
      subst hp
      cases progress with
      | going probe' => exact .inl rfl
      | done p => exact .inl (Manager.loops_conclude _ a p)
    · exact .inl (m.loops_fail a _)
  | closing a e =>
    have hc := m.closeStore_eq
    simp only [advance]
    generalize m.closeStore = step at hc
    obtain ⟨reply, m'⟩ := step
    obtain ⟨store, journal, rfl⟩ := hc
    cases reply with
    | ok u => exact .inl (Manager.loops_fail _ a e)
    | error e' => exact .inl (Manager.loops_fail _ a e)

theorem Manager.Pursues.numbered {m : Manager} {phase : Connect} (hp : m.Pursues (phase.advance m))
    (h : m.Numbered) :
  (phase.advance m).1.Numbered
  := by
  cases hp.keeps with
  | kept hl hm =>
    apply h.of_sublist _ hp.fresh
    rw [Manager.loopIds, Manager.loopIds, hl]
  | started hn hl hm =>
    apply h.started hl
    rcases phase.loops_or_fresh m with hsame | hlt
    · rw [hl] at hsame
      exact absurd hsame (by simp)
    · exact hlt

namespace Call

theorem numbered_advance {m : Manager} (h : m.Numbered) (c : Call) :
  (c.advance m).1.Numbered
  := by
  have he := c.effect_advance m
  generalize (c.advance m).1 = m' at he
  cases he with
  | aside hd ha => exact h.aside ha
  | arrived announced => exact h.of_sublist (.refl _) (Nat.le_succ _)
  | pursued announced hne hc hp journal => exact ⟨(hp.numbered h).nodup, (hp.numbered h).fresh⟩
  | released announced journal => exact h.of_sublist (.refl _) (Nat.le_refl _)

/-- No call touches the probes of the loops. -/
theorem inFlight_manager (m : Manager) (c : Call) :
  (c.advance m).1.inFlight = m.inFlight
  := by
  cases hs : c.stopPhase? with
  | none =>
    cases keeps_advance (m := m) hs with
    | kept hl hm => rw [Manager.inFlight, hl, Manager.inFlight]
    | started hn hl hm =>
      rw [Manager.inFlight, hl, List.flatMap_append]
      exact List.append_nil _
  | some phase =>
    rw [(advance_stop (m := m) hs).1]
    cases phase with
    | asked =>
      simp only [StopMonitor.advance]
      split
      · rfl
      · next id hm => exact m.inFlight_stopLoop id
    | awaiting loop =>
      obtain ⟨journal, h⟩ := m.logEnd_eq loop
      rw [StopMonitor.advance, h]
      rfl

end Call

namespace Traffic

theorem Change.numbered {s s' : Traffic} {move : Move} (hc : s.Change move s')
    (h : s.manager.Numbered) :
  s'.manager.Numbered
  := by
  cases hc with
  | idle | asked r => exact h
  | advanced i c hc hr =>
    rw [manager_settle]
    exact c.numbered_advance h
  | watched k l hl hr => exact h.aside (s.manager.aside_advanceLoop l)
  | elapsed time | planned faults | meddled store => exact ⟨h.nodup, h.fresh⟩

theorem numbered_opened (settings : Settings) (chance : Chance) (now : Nat) (store : MemoryStore) :
  (opened settings chance now store).manager.Numbered
  where
  nodup := List.nodup_nil
  fresh := by nofun

end Traffic

end Storekeeper

import Storekeeper.Proofs.Manager.Traffic

/-!
# Attempts to connect

A call that connects makes one attempt after another.  `Connect.Effect` lists all that can come of
one of its steps: how an attempt ends by it, if one does, and what becomes of the state of the
connection and of the call.  `Traffic.attempts` and `Traffic.endings` record the attempts of all
callers during a run, and `Traffic.Counted` ties the number of attempts that a caller has made to
the phase that it is in.
-/

namespace Storekeeper

/-- How an attempt to connect ends. -/
inductive AttemptEnd where
  /-- The probe of the store succeeded. -/
  | succeeded
  /-- The store could not be connected. -/
  | refused
  /-- The probe failed, and the store was disconnected again. -/
  | unanswered
  /-- The time for the attempt was over before the probe. -/
  | timedOut
deriving DecidableEq, Repr

/-! ### One step -/

/-- What can come of a failed attempt: another one after a pause, if the budget is not used up, or
the end of the sequence.  It may also be that the length of the pause cannot be told. -/
inductive Manager.Aftermath (m : Manager) (a : Attempt) :
    ConnectionState → Progress Connect (Except Error Unit) → Prop where
  | retried (h : a.number < m.settings.retryPolicy.budget) (failures : List FailedAttempt)
      (due : Nat) :
    Aftermath m a m.state (.going (.pausing (a.number + 1) failures due))
  | surrendered (e : Error) : Aftermath m a .failed (.going (.marking ⟨a.number, a.failures, e⟩))
  | crashed (h : a.number < m.settings.retryPolicy.budget) :
    Aftermath m a m.state (.going .crashed)

/-- The state of the connection and the settings are all that matters here of what was before a
failed attempt. -/
theorem Manager.aftermath_fail {m m' : Manager} (hb : m'.settings = m.settings)
    (hs : m'.state = m.state) (a : Attempt) (e : Error) :
  m.Aftermath a (m'.fail a e).1.state (m'.fail a e).2
  := by
  have hf := m'.fails_fail a e
  generalize m'.fail a e = step at hf
  cases hf with
  | again failures due journal h =>
    simp only [hs]
    exact .retried (hb ▸ h) failures due
  | surrenders e journal => exact .surrendered e
  | crashes h =>
    have hst : m'.leave.state = m.state := hs
    rw [hst]
    exact .crashed (hb ▸ h)

namespace Connect

/-- How the attempt of a call ends with its next step, if it does. -/
def ending? (m : Manager) : Connect → Option AttemptEnd
  | arriving | waiting _ | pausing _ _ _ => none
  | settling _ _ | marking _ | counting _ | crashed => none
  | opening _ => if m.store.faults.connect.text?.isSome then some .refused else none
  | probing _ probe =>
    if probe.isReady m.now then
      match (probe.advance m).2 with
      | .going _ => none
      | .done p => if p.outcome.isOk then some .succeeded else none
    else some .timedOut
  | closing _ _ => some .unanswered

/-- All that can come of one step of a call that connects. -/
inductive Effect (m : Manager) : Connect → Option AttemptEnd → ConnectionState →
    Progress Connect (Except Error Unit) → Prop where
  | arrived : Effect m arriving none m.state (.going (.waiting m.fresh))
  | shared {t : Nat} (h : m.state.isUp = true) : Effect m (waiting t) none m.state (.done (.ok ()))
  | begun {t : Nat} (h : m.state.isUp = false) :
    Effect m (waiting t) none .connecting (.going (.opening (m.attempt 1 [])))
  | opened {a : Attempt} (h : m.store.faults.connect.text? = none) :
    Effect m (opening a) none m.state (.going (.probing a .ready))
  | refused {a : Attempt} {state : ConnectionState} {p : Progress Connect (Except Error Unit)}
      (h : m.store.faults.connect.text?.isSome = true) (hf : m.Aftermath a state p) :
    Effect m (opening a) (some .refused) state p
  | probed {a : Attempt} {probe probe' : Probe} :
    Effect m (probing a probe) none m.state (.going (.probing a probe'))
  | succeeded {a : Attempt} {probe : Probe} (latency : Nat) :
    Effect m (probing a probe) (some .succeeded) m.state (.going (.settling a latency))
  | failed {a : Attempt} {probe : Probe} (e : Error) :
    Effect m (probing a probe) none m.state (.going (.closing a e))
  | timedOut {a : Attempt} {probe : Probe} {state : ConnectionState}
      {p : Progress Connect (Except Error Unit)} (hf : m.Aftermath a state p) :
    Effect m (probing a probe) (some .timedOut) state p
  | closed {a : Attempt} {e : Error} {state : ConnectionState}
      {p : Progress Connect (Except Error Unit)} (hf : m.Aftermath a state p) :
    Effect m (closing a e) (some .unanswered) state p
  | resumed {number due : Nat} {failures : List FailedAttempt} :
    Effect m (pausing number failures due) none m.state
      (.going (.opening (m.attempt number failures)))
  | established {a : Attempt} {latency : Nat} (status : HealthStatus) :
    Effect m (settling a latency) none status.connectionState (.done (.ok ()))
  | marked {d : Defeat} : Effect m (marking d) none m.state (.going (.counting d))
  | gaveUp {d : Defeat} :
    Effect m (counting d) none m.state (.done (.error (.connection d.number)))
  | crashed : Effect m crashed none m.state (.going crashed)

theorem effect_takeTurn (m : Manager) (t : Nat) :
  Effect m (waiting t) none m.takeTurn.1.state m.takeTurn.2
  := by
  cases h : m.state.isUp with
  | true =>
    simp only [Manager.takeTurn, h, if_true]
    exact .shared h
  | false =>
    simp only [Manager.takeTurn, h, if_false, Bool.false_eq_true]
    exact .begun h

theorem effect_opening (m : Manager) (a : Attempt) :
  Effect m (opening a) ((opening a).ending? m) ((opening a).advance m).1.state
    ((opening a).advance m).2
  := by
  cases h : m.store.faults.connect.text? with
  | none =>
    simp only [ending?, advance, Manager.openStore, MemoryStore.connect, h]
    exact .opened h
  | some text =>
    simp only [ending?, advance, Manager.openStore, MemoryStore.connect, h]
    apply Effect.refused (by rw [h]; rfl)
    apply Manager.aftermath_fail
    · rfl
    · rfl

theorem effect_probing (m : Manager) (a : Attempt) (probe : Probe) :
  Effect m (probing a probe) ((probing a probe).ending? m) ((probing a probe).advance m).1.state
    ((probing a probe).advance m).2
  := by
  cases hr : probe.isReady m.now with
  | false =>
    simp only [ending?, advance, hr, if_false, Bool.false_eq_true]
    exact .timedOut (m.aftermath_fail rfl rfl a _)
  | true =>
    simp only [ending?, advance, hr, if_true]
    obtain ⟨pings, journal, hm⟩ := probe.advance_eq m
    generalize probe.advance m = step at hm
    obtain ⟨m', progress⟩ := step
    subst hm
    cases progress with
    | going probe' => exact .probed
    | done p =>
      obtain ⟨outcome, latency⟩ := p
      cases outcome with
      | error e => exact .failed e
      | ok u => exact .succeeded latency

theorem effect_closing (m : Manager) (a : Attempt) (e : Error) :
  Effect m (closing a e) ((closing a e).ending? m) ((closing a e).advance m).1.state
    ((closing a e).advance m).2
  := by
  have hset : m.closeStore.2.settings = m.settings := rfl
  have hst : m.closeStore.2.state = m.state := rfl
  simp only [ending?, advance]
  generalize m.closeStore = step at hset hst
  obtain ⟨reply, m'⟩ := step
  cases reply with
  | ok u => exact .closed (Manager.aftermath_fail hset hst a e)
  | error e' =>
    apply Effect.closed
    apply Manager.aftermath_fail
    · exact hset
    · exact hst

theorem effect_advance (m : Manager) (phase : Connect) :
  phase.Effect m (phase.ending? m) (phase.advance m).1.state (phase.advance m).2
  := by
  cases phase with
  | arriving => exact .arrived
  | waiting t => exact effect_takeTurn m t
  | opening a => exact effect_opening m a
  | probing a probe => exact effect_probing m a probe
  | closing a e => exact effect_closing m a e
  | pausing number failures due => exact .resumed
  | settling a latency =>
    obtain ⟨loops, monitor, fresh, journal, -, h⟩ := m.establish_eq a latency
    rw [advance, h]
    exact .established _
  | marking d => exact .marked
  | counting d => exact .gaveUp
  | crashed => exact .crashed

end Connect

/-! ### The number of attempts -/

theorem RetryPolicy.budget_pos (policy : RetryPolicy) :
  0 < policy.budget
  := Nat.lt_of_lt_of_le Nat.zero_lt_one (Nat.le_max_right _ _)

namespace Connect

/-- Whether a call is about to make an attempt. -/
def isOpening : Connect → Bool
  | opening _ => true
  | _ => false

/-- The number of attempts that a call has made, within the budget, by its phase. -/
inductive Made (budget : Nat) : Connect → Nat → Prop where
  | arriving : Made budget arriving 0
  | waiting (t : Nat) : Made budget (waiting t) 0
  | opening {a : Attempt} {n : Nat} (hn : a.number = n + 1) (hb : n < budget) :
    Made budget (opening a) n
  | probing {a : Attempt} (hb : a.number ≤ budget) (probe : Probe) :
    Made budget (probing a probe) a.number
  | closing {a : Attempt} (hb : a.number ≤ budget) (e : Error) : Made budget (closing a e) a.number
  | pausing {n : Nat} (hb : n < budget) (failures : List FailedAttempt) (due : Nat) :
    Made budget (pausing (n + 1) failures due) n
  | settling {a : Attempt} (hb : a.number ≤ budget) (latency : Nat) :
    Made budget (settling a latency) a.number
  | marking {d : Defeat} (hb : d.number ≤ budget) : Made budget (marking d) d.number
  | counting {d : Defeat} (hb : d.number ≤ budget) : Made budget (counting d) d.number
  | crashed {n : Nat} (hb : n ≤ budget) : Made budget crashed n

/-- What has come of a call that has made `n` attempts: an error tells the number. -/
inductive Tells (budget n : Nat) : Progress Connect (Except Error Unit) → Prop where
  | going {phase : Connect} (h : phase.Made budget n) : Tells budget n (.going phase)
  | connected : Tells budget n (.done (.ok ()))
  | failed (hb : n ≤ budget) : Tells budget n (.done (.error (.connection n)))

theorem tells_of_aftermath {m : Manager} {a : Attempt} {state : ConnectionState}
    {p : Progress Connect (Except Error Unit)} (h : m.Aftermath a state p)
    (hb : a.number ≤ m.settings.retryPolicy.budget) :
  Tells m.settings.retryPolicy.budget a.number p
  := by
  cases h with
  | retried hn failures due => exact .going (.pausing hn failures due)
  | surrendered e => exact .going (.marking hb)
  | crashed hn => exact .going (.crashed hb)

/-- A call has made one more attempt after a step if it was about to make one. -/
theorem Made.tells {m : Manager} {phase : Connect} {n : Nat}
    (hm : phase.Made m.settings.retryPolicy.budget n) :
  Tells m.settings.retryPolicy.budget (n + phase.isOpening.toNat) (phase.advance m).2
  := by
  have he := phase.effect_advance m
  generalize (phase.advance m).1.state = state at he
  generalize (phase.advance m).2 = p at he ⊢
  generalize phase.ending? m = ending at he
  cases he with
  | arrived =>
    cases hm
    exact .going (.waiting m.fresh)
  | shared h =>
    cases hm
    exact .connected
  | begun h =>
    cases hm
    exact .going (.opening rfl m.settings.retryPolicy.budget_pos)
  | opened h =>
    cases hm with
    | opening hn hb =>
      change Tells _ (n + 1) _
      rw [← hn]
      exact .going (.probing (hn ▸ hb) _)
  | refused h hf =>
    cases hm with
    | opening hn hb =>
      change Tells _ (n + 1) _
      rw [← hn]
      exact tells_of_aftermath hf (hn ▸ hb)
  | probed =>
    cases hm with
    | probing hb => exact .going (.probing hb _)
  | succeeded latency =>
    cases hm with
    | probing hb => exact .going (.settling hb latency)
  | failed e =>
    cases hm with
    | probing hb => exact .going (.closing hb e)
  | timedOut hf =>
    cases hm with
    | probing hb => exact tells_of_aftermath hf hb
  | closed hf =>
    cases hm with
    | closing hb => exact tells_of_aftermath hf hb
  | resumed =>
    cases hm with
    | pausing hb => exact .going (.opening rfl hb)
  | established status =>
    cases hm
    exact .connected
  | marked =>
    cases hm with
    | marking hb => exact .going (.counting hb)
  | gaveUp =>
    cases hm with
    | counting hb => exact .failed hb
  | crashed =>
    cases hm with
    | crashed hb => exact .going (.crashed hb)

end Connect

/-! ### The attempts of a run -/

namespace Call

/-- Whether a call is about to make an attempt to connect. -/
def isOpening : Call → Bool
  | connect _ phase => phase.isOpening
  | _ => false

/-- How the attempt of a call ends with its next step, if it does. -/
def ending? (m : Manager) : Call → Option AttemptEnd
  | connect _ phase => phase.ending? m
  | _ => none

/-- The number of attempts that a call that connects has made, within the budget. -/
def Made (budget : Nat) : Call → Nat → Prop
  | start, n => n = 0
  | connect _ phase, n => phase.Made budget n
  | _, _ => True

theorem made_of_going {m : Manager} {c c' : Call} {n : Nat} (hs : (c.advance m).2 = .going c')
    (hm : c.Made m.settings.retryPolicy.budget n) :
  c'.Made m.settings.retryPolicy.budget (n + c.isOpening.toNat)
  := by
  cases goesOn_of_going hs with
  | start hv =>
    cases hm
    exact .arriving
  | connect announced hp =>
    have ht := Connect.Made.tells hm
    rw [hp] at ht
    cases ht with
    | going h => exact h
  | _ => trivial

end Call

namespace Traffic

/-- The attempts to connect that are made during a run, by the numbers of the calls that make
them. -/
def attempts (s : Traffic) (moves : List Move) : List Nat :=
  s.record (shown fun _ i c => if c.isOpening then some i else none) moves

/-- How the attempts to connect end during a run, in order. -/
def endings (s : Traffic) (moves : List Move) : List AttemptEnd :=
  s.record (shown fun m _ c => c.ending? m) moves

/-- `attempts` counts the attempts of the callers, each within the budget. -/
structure Counted (budget : Nat) (s : Traffic) (attempts : List Nat) : Prop where
  budget_eq : s.manager.settings.retryPolicy.budget = budget
  made : ∀ i c, s.call? i = some c → c.Made budget (attempts.count i)
  later : ∀ i, s.calls.length ≤ i → attempts.count i = 0

namespace Counted

variable {budget : Nat} {s : Traffic} {attempts : List Nat}

theorem ask (h : Counted budget s attempts) (r : Request) :
  Counted budget (s.step (.ask r)) attempts
  := by
  constructor
  case budget_eq => exact h.budget_eq
  case made =>
    intro i c hc
    rw [call?_ask] at hc
    split at hc
    · next hi =>
      have hn := h.later i (Nat.le_of_eq hi.symm)
      cases hc
      rw [hn]
      cases r with
      | start => rfl
      | connect => exact .arriving
      | _ => trivial
    · exact h.made i c hc
  case later =>
    intro i hi
    apply h.later
    rw [step, List.length_append] at hi
    exact Nat.le_of_add_right_le hi

theorem count_concat (attempts : List Nat) (i j : Nat) (opening : Bool) :
  (attempts ++ (if opening then some i else none).toList).count j
    = attempts.count j + if i = j then opening.toNat else 0
  := by
  cases opening with
  | false => simp
  | true => simp [List.count_singleton]

theorem advance (h : Counted budget s attempts) {i : Nat} {c : Call} (hc : s.call? i = some c) :
  Counted budget (s.settle i (c.advance s.manager))
    (attempts ++ (if c.isOpening then some i else none).toList)
  := by
  constructor
  case budget_eq => rw [manager_settle, (c.effect_advance s.manager).settings, h.budget_eq]
  case made =>
    intro j c' hc'
    rw [count_concat]
    by_cases hij : i = j
    · subst hij
      rw [if_pos rfl]
      have hm := h.made i c hc
      rw [← h.budget_eq] at hm ⊢
      exact Call.made_of_going (going_of_call?_settle hc') hm
    · rw [call?_settle_of_ne s hij] at hc'
      rw [if_neg hij]
      exact h.made j c' hc'
  case later =>
    intro j hj
    rw [length_calls_settle] at hj
    have hij : i ≠ j := Nat.ne_of_lt (Nat.lt_of_lt_of_le (lt_length_of_call? hc) hj)
    rw [count_concat, if_neg hij]
    exact h.later j hj

theorem beside (h : Counted budget s attempts) {move : Move} (hn : ∀ i, move ≠ .advance i) :
  Counted budget (s.step move) attempts
  := by
  have hc := s.step_change move
  have hb := congrArg (fun settings => settings.retryPolicy.budget) hc.settings
  generalize s.step move = s' at hc hb
  cases hc with
  | idle => exact h
  | asked r => exact h.ask r
  | advanced i c hc hr => exact absurd rfl (hn i)
  | _ => exact ⟨hb.trans h.budget_eq, h.made, h.later⟩

end Counted

/-- In every run the callers make the attempts that their phases tell. -/
theorem counted_run {first : Traffic} (hc : first.calls = []) (moves : List Move) :
  Counted first.manager.settings.retryPolicy.budget (first.run moves) (first.attempts moves)
  := by
  apply record_induction (P := Counted first.manager.settings.retryPolicy.budget)
  · constructor
    case budget_eq => rfl
    case made =>
      intro i c h
      simp [call?, hc] at h
    case later =>
      intro i hi
      rfl
  · intro s l i c hm h hc hr
    exact h.advance hc
  · intro s l move hm hn h
    exact h.beside hn

end Traffic

end Storekeeper

import Mathlib.Algebra.BigOperators.Group.List.Basic
import Mathlib.Algebra.GroupWithZero.Nat
import Storekeeper.Proofs.Manager.Cleanup
import Storekeeper.Proofs.Manager.Clock
import Storekeeper.Proofs.Manager.Disconnection
import Storekeeper.Proofs.Retry.Delays

/-!
# The sequence of attempts of a caller

A caller who connects alone makes one attempt after another.  Each attempt but the last fails, is
worth another one, and is followed by a pause that is twice as long as the one before, as long as
that can be counted.  The last one succeeds, or fails for good.

`Repeats` says so of the attempts that were followed by another one, and `Connect.Reached` ties them
to the phase of the caller.  `Connect.Course` is what can be said of the steps of a caller who has
returned.
-/

namespace Storekeeper

/-! ### Records -/

namespace RetryPolicy

/-- The records of attempts that failed with the given errors, and were each followed by another
one. -/
def records (policy : RetryPolicy) (errors : List Error) : List FailedAttempt :=
  errors.mapIdx fun k e => ⟨k + 1, Redaction.ofError e, some (policy.backoff (k + 1))⟩

theorem records_concat (policy : RetryPolicy) (errors : List Error) (e : Error) :
  policy.records (errors ++ [e])
    = policy.records errors
      ++ [⟨errors.length + 1, Redaction.ofError e, some (policy.backoff (errors.length + 1))⟩]
  := List.mapIdx_concat

end RetryPolicy

/-! ### Starts and ends -/

/-- What comes of the attempt of a call with its next step, if it ends: an error, or the latency of
the probe. -/
def Connect.verdict? (m : Manager) : Connect → Option (Except Error Nat)
  | arriving | waiting _ | pausing _ _ _ => none
  | settling _ _ | marking _ | counting _ | crashed => none
  | opening _ =>
    match m.openStore.1 with
    | .ok () => none
    | .error e => some (.error e)
  | probing _ probe =>
    if probe.isReady m.now then
      match (probe.advance m).2 with
      | .going _ => none
      | .done p =>
        match p.outcome with
        | .ok () => some (.ok p.latency)
        | .error _ => none
    else some (.error m.attemptTimeout)
  | closing _ e => some (.error e)

/-- Whether the last attempt of a call succeeds with its next step, or has ended before. -/
def Connect.isClosing (m : Manager) (phase : Connect) : Bool :=
  match phase with
  | settling _ _ | marking _ | counting _ => true
  | _ => (phase.verdict? m).any Except.isOk

/-- What comes of the attempt of a call with its next step, if it ends. -/
def Call.verdict? (m : Manager) : Call → Option (Except Error Nat)
  | connect _ phase => phase.verdict? m
  | _ => none

namespace Turn

/-- When an attempt starts with a step. -/
def start? (t : Turn) : Option Nat := if t.call.isOpening then some t.before.now else none

/-- When an attempt ends with a step, and what comes of it. -/
def end? (t : Turn) : Option (Nat × Except Error Nat) :=
  (t.call.verdict? t.before).map fun verdict => (t.before.now, verdict)

/-- When the attempts of a caller start, by its steps. -/
def starts (turns : List Turn) : List Nat := turns.filterMap start?

/-- When the attempts of a caller end, and what comes of them, by its steps. -/
def ends (turns : List Turn) : List (Nat × Except Error Nat) := turns.filterMap end?

theorem starts_concat (turns : List Turn) (m : Manager) (announced : Bool) (phase : Connect) :
  starts (turns ++ [⟨m, .connect announced phase⟩])
    = starts turns ++ if phase.isOpening then [m.now] else []
  := by
  rw [starts, List.filterMap_append, starts]
  congr 1
  cases ho : phase.isOpening with
  | true => simp [start?, Call.isOpening, ho]
  | false => simp [start?, Call.isOpening, ho]

theorem ends_concat (turns : List Turn) (m : Manager) (announced : Bool) (phase : Connect) :
  ends (turns ++ [⟨m, .connect announced phase⟩])
    = ends turns ++ ((phase.verdict? m).map fun verdict => (m.now, verdict)).toList
  := by
  rw [ends, List.filterMap_append, ends]
  rfl

/-- A step that neither the health report nor the list of failed attempts shows. -/
def Conceals (t : Turn) : Prop :=
  t.after.metrics = t.before.metrics ∧ t.after.attempts = t.before.attempts

/-- Whether the last attempt of a caller succeeds with a step, or has ended before it. -/
def isClosing (t : Turn) : Bool :=
  match t.call with
  | .connect _ phase => phase.isClosing t.before
  | _ => false

/-- A step that reports the success of a probe with the given latency. -/
def ReportsSuccess (t : Turn) (latency : Nat) : Prop :=
  t.after.metrics
      = { t.before.metrics with
          status := .ofLatency latency t.before.threshold
          responseTime := latency
          lastSuccessfulProbe := some t.before.instant }
    ∧ t.after.attempts = t.before.attempts

/-- A step that reports the connection as down. -/
def Marks (t : Turn) : Prop :=
  t.after.metrics = { t.before.metrics with status := .unhealthy }
    ∧ t.after.attempts = t.before.attempts

/-- A step that counts an error. -/
def Counts (t : Turn) (e : Error) : Prop :=
  t.after.metrics
    = { t.before.metrics with
        errorCount := t.before.metrics.errorCount + 1
        lastError := some (Redaction.ofError e).text
        lastErrorAt := some t.before.instant }

/-- How the closing steps of a caller show in the health report, by what its last attempt has come
to. -/
inductive Closes : Except Error Nat → List Turn → Prop where
  | connected {latency : Nat} {probed settled : Turn} (hp : probed.ReportsSuccess latency)
      (hs : settled.after.metrics = settled.before.metrics) :
    Closes (.ok latency) [probed, settled]
  | gaveUp {e : Error} {marked counted : Turn} (hm : marked.Marks) (hc : counted.Counts e) :
    Closes (.error e) [marked, counted]

end Turn

/-- `starts` and `ends` tell of attempts that failed with the given errors, each of which was
followed by another one.  The last of them is followed by one that starts at the time `next`. -/
structure Repeats (policy : RetryPolicy) (limit : Nat) (starts : List Nat) (next : Nat)
    (ends : List (Nat × Except Error Nat)) (errors : List Error) : Prop where
  length : starts.length = errors.length
  outcomes : ends.map Prod.snd = errors.map .error
  retriable : ∀ e ∈ errors, RetryPolicy.isRetriable e = true
  within : errors.length < policy.budget
  spaced : (starts ++ [next]).tail
    = List.zipWith (· + ·) (ends.map Prod.fst) (policy.delays errors.length)
  short : ∀ p ∈ starts.zip (ends.map Prod.fst), p.2 ≤ p.1 + limit

namespace Repeats

variable {policy : RetryPolicy} {limit next : Nat} {starts : List Nat}
  {ends : List (Nat × Except Error Nat)} {errors : List Error}

theorem nil (policy : RetryPolicy) (limit next : Nat) :
  Repeats policy limit [] next [] []
  := ⟨rfl, rfl, by simp, policy.budget_pos, rfl, by simp⟩

theorem length_ends (h : Repeats policy limit starts next ends errors) :
  ends.length = errors.length
  := by
  rw [← List.length_map Prod.snd, h.outcomes, List.length_map]

theorem length_times (h : Repeats policy limit starts next ends errors) :
  (ends.map Prod.fst).length = errors.length
  := by
  rw [List.length_map, h.length_ends]

theorem length_times_delays (h : Repeats policy limit starts next ends errors) :
  (ends.map Prod.fst).length = (policy.delays errors.length).length
  := by
  rw [h.length_times, policy.length_delays]

theorem short_concat (h : Repeats policy limit starts next ends errors) {time : Nat}
    (hlimit : time ≤ next + limit) (verdict : Except Error Nat) :
  ∀ p ∈ (starts ++ [next]).zip ((ends ++ [(time, verdict)]).map Prod.fst), p.2 ≤ p.1 + limit
  := by
  have hlength : starts.length = (ends.map Prod.fst).length := by
    rw [h.length, h.length_times]
  rw [List.map_append, List.zip_append hlength, List.forall_mem_append]
  exact ⟨h.short, by simpa using hlimit⟩

/-- One more attempt fails and is followed by another one. -/
theorem again (h : Repeats policy limit starts next ends errors) {e : Error}
    (he : RetryPolicy.isRetriable e = true) (hn : errors.length + 1 < policy.budget) {time : Nat}
    (hlimit : time ≤ next + limit) :
  Repeats policy limit (starts ++ [next]) (time + (policy.backoff (errors.length + 1)).toNat)
    (ends ++ [(time, .error e)]) (errors ++ [e])
  where
  length := by simp [h.length]
  outcomes := by simp [h.outcomes]
  retriable := by
    rw [List.forall_mem_append, List.forall_mem_singleton]
    exact ⟨h.retriable, he⟩
  within := by
    rw [List.length_append]
    exact hn
  spaced := by
    rw [List.tail_append_of_ne_nil (by simp), h.spaced, List.map_append, List.length_append,
      List.length_singleton, RetryPolicy.delays_succ, List.zipWith_append h.length_times_delays]
    rfl
  short := h.short_concat hlimit _

/-- The pauses between the attempts last as long as the delays that can be counted, all in all. -/
theorem sum_starts (h : Repeats policy limit starts next ends errors)
    (hfits : policy.baseDelay.toNat * (2 ^ errors.length - 1) < UInt64.size) :
  (starts ++ [next]).tail.sum
    = (ends.map Prod.fst).sum + policy.baseDelay.toNat * (2 ^ errors.length - 1)
  := by
  rw [h.spaced, ← RetryPolicy.sum_delays hfits]
  exact (List.sum_add_sum_eq_sum_zipWith_of_length_eq _ _ h.length_times_delays).symm

end Repeats

/-! ### Steps of an attempt -/

theorem MemoryStore.connectAttempts_connect (s : MemoryStore) :
  s.connect.2.connectAttempts = s.connectAttempts + 1
  := by
  unfold connect
  split
  · rfl
  · rfl

namespace Manager

/-- A failed attempt is followed by another one after a pause, or the sequence is given up. -/
theorem fail_eq (m : Manager) (a : Attempt) (e : Error)
    (hjitter : m.settings.retryPolicy.useJitter = false) :
  (RetryPolicy.isRetriable e = true ∧ a.number < m.settings.retryPolicy.budget
      ∧ ∃ journal, m.fail a e
        = ({ m with journal := journal },
            .going (.pausing (a.number + 1)
              (a.failures ++ [⟨a.number, Redaction.ofError e,
                some (m.settings.retryPolicy.backoff a.number)⟩])
              (m.now + (m.settings.retryPolicy.backoff a.number).toNat))))
    ∨ ((RetryPolicy.isRetriable e = false ∨ m.settings.retryPolicy.budget ≤ a.number)
      ∧ ∃ journal, m.fail a e
        = ({ m with state := .failed, journal := journal },
            .going (.marking ⟨a.number, a.failures, e⟩)))
  := by
  by_cases h : RetryPolicy.isRetriable e = true ∧ a.number < m.settings.retryPolicy.budget
  · left
    refine ⟨h.1, h.2, ?_⟩
    have hsequel : ∀ draw, m.settings.retryPolicy.sequel draw a.number e
        = .again (m.settings.retryPolicy.backoff a.number) := by
      intro draw
      simp [RetryPolicy.sequel, RetryPolicy.delay?, h.1, h.2, hjitter]
    simp only [fail, hsequel]
    exact ⟨_, rfl⟩
  · right
    refine ⟨?_, ?_⟩
    · rw [not_and_or, Bool.not_eq_true, Nat.not_lt] at h
      exact h
    · have hsequel : ∀ draw, m.settings.retryPolicy.sequel draw a.number e = .surrender := by
        intro draw
        unfold RetryPolicy.sequel
        rw [if_neg (by simpa using h)]
      simp only [fail, hsequel]
      exact ⟨_, rfl⟩

end Manager

namespace Connect

/-- How far a caller is from the end of its sequence at most. -/
def ahead (budget : Nat) : Connect → Nat
  | arriving => 5 * budget + 4
  | waiting _ => 5 * budget + 3
  | opening a => 5 * (budget - a.number) + 7
  | probing a .ready => 5 * (budget - a.number) + 6
  | probing a (.waiting _) => 5 * (budget - a.number) + 5
  | closing a _ => 5 * (budget - a.number) + 4
  | pausing number _ _ => 5 * (budget - number) + 8
  | marking _ => 2
  | settling _ _ | counting _ => 1
  | crashed => 0

/-- The attempt that a call is making. -/
def attempt? : Connect → Option Attempt
  | opening a | probing a _ | closing a _ => some a
  | arriving | waiting _ | pausing _ _ _ => none
  | settling _ _ | marking _ | counting _ | crashed => none

/-- What can come of a step of a call that is making an attempt, once the store has changed: the
attempt goes on, or it fails or succeeds. -/
inductive Passes (m : Manager) (phase : Connect) (a : Attempt) :
    Option (Except Error Nat) → Manager.Connecting → Prop where
  | going (phase' : Connect) (h : phase'.attempt? = some a) (hopening : phase'.isOpening = false)
      (hr : ∀ budget, phase'.ahead budget < phase.ahead budget) :
    Passes m phase a none (m, .going phase')
  | failed (e : Error) : Passes m phase a (some (.error e)) (m.fail a e)
  | succeeded (latency : Nat) : Passes m phase a (some (.ok latency)) (m.succeed a latency)

theorem passes_opening (m : Manager) (a : Attempt) :
  ∃ store journal, store.connectAttempts = m.store.connectAttempts + 1
    ∧ Passes { m with store := store, journal := journal } (opening a) a
      ((opening a).verdict? m) ((opening a).advance m)
  := by
  have ho : m.openStore
      = (m.openStore.1,
          { m with store := m.openStore.2.store, journal := m.openStore.2.journal }) := rfl
  refine ⟨m.openStore.2.store, m.openStore.2.journal, m.store.connectAttempts_connect, ?_⟩
  simp only [verdict?, advance]
  cases hr : m.openStore.1 with
  | ok u =>
    rw [ho, hr]
    exact .going _ rfl rfl fun _ => Nat.lt_succ_self _
  | error e =>
    rw [ho, hr]
    exact .failed e

theorem passes_probing (m : Manager) (a : Attempt) (probe : Probe) :
  ∃ store journal, store.connectAttempts = m.store.connectAttempts
    ∧ Passes { m with store := store, journal := journal } (probing a probe) a
      ((probing a probe).verdict? m) ((probing a probe).advance m)
  := by
  simp only [verdict?, advance]
  cases hr : probe.isReady m.now with
  | false => exact ⟨m.store, m.journal, rfl, .failed _⟩
  | true =>
    obtain ⟨pings, journal, hm⟩ := probe.advance_eq m
    refine ⟨{ m.store with pings := pings }, journal, rfl, ?_⟩
    rw [← hm, if_pos rfl, if_pos rfl]
    rcases hs : probe.advance m with ⟨m', progress⟩
    cases progress with
    | going probe' =>
      obtain ⟨rfl, rfl⟩ := Probe.advance_going (congrArg Prod.snd hs)
      exact .going _ rfl rfl fun _ => Nat.lt_succ_self _
    | done probed =>
      obtain ⟨outcome, latency⟩ := probed
      cases outcome with
      | ok u => exact .succeeded latency
      | error e =>
        apply Passes.going _ rfl rfl
        intro budget
        cases probe with
        | ready | waiting _ =>
          simp only [ahead]
          omega

theorem passes_closing (m : Manager) (a : Attempt) (e : Error) :
  ∃ store journal, store.connectAttempts = m.store.connectAttempts
    ∧ Passes { m with store := store, journal := journal } (closing a e) a
      ((closing a e).verdict? m) ((closing a e).advance m)
  := by
  have hattempts : m.store.disconnect.2.connectAttempts = m.store.connectAttempts := by
    rw [MemoryStore.disconnect_snd]
  obtain ⟨journal, hm⟩ : ∃ journal,
      m.closeStore.2 = { m with store := m.store.disconnect.2, journal := journal } := ⟨_, rfl⟩
  simp only [verdict?, advance]
  rcases hs : m.closeStore with ⟨reply, m'⟩
  rw [hs] at hm
  obtain rfl : m' = { m with store := m.store.disconnect.2, journal := journal } := hm
  cases reply with
  | ok u => exact ⟨m.store.disconnect.2, journal, hattempts, .failed e⟩
  | error e' => exact ⟨m.store.disconnect.2, _, hattempts, .failed e⟩

theorem passes_advance (m : Manager) {phase : Connect} {a : Attempt} (h : phase.attempt? = some a) :
  ∃ store journal, store.connectAttempts = m.store.connectAttempts + phase.isOpening.toNat
    ∧ Passes { m with store := store, journal := journal } phase a (phase.verdict? m)
      (phase.advance m)
  := by
  cases phase with
  | opening a' =>
    cases h
    exact passes_opening m a
  | probing a' probe =>
    cases h
    exact passes_probing m a probe
  | closing a' e =>
    cases h
    exact passes_closing m a e
  | _ => cases h

/-! ### Steps of a caller -/

/-- Whether the latest step of a caller has shown in the health report. -/
def isLate : Connect → Bool
  | settling _ _ | counting _ => true
  | _ => false

/-- The health report after the step by which a caller comes to its phase. -/
def reported (metrics : HealthMetrics) (now : Instant) (threshold : Nat) :
    Connect → HealthMetrics
  | settling _ latency =>
    { metrics with
      status := .ofLatency latency threshold
      responseTime := latency
      lastSuccessfulProbe := some now }
  | counting _ => { metrics with status := .unhealthy }
  | _ => metrics

theorem reported_of_not_late {phase : Connect} (h : phase.isLate = false) (metrics : HealthMetrics)
    (now : Instant) (threshold : Nat) :
  phase.reported metrics now threshold = metrics
  := by
  cases phase with
  | settling a latency | counting d => cases h
  | _ => rfl

/-- A caller whose attempts so far failed with the given errors is making the next one, or waits for
its start. -/
inductive Stage (m : Manager) (next : Nat) (errors : List Error) : Connect → Prop where
  | trying {phase : Connect} {a : Attempt} (h : phase.attempt? = some a)
      (hn : a.number = errors.length + 1)
      (hf : a.failures = m.settings.retryPolicy.records errors)
      (hd : a.deadline = next + m.connectTimeout) (hnow : m.now ≤ a.deadline)
      (hopening : phase.isOpening = true → m.now = next) :
    Stage m next errors phase
  | pausing (hnow : m.now ≤ next) :
    Stage m next errors
      (pausing (errors.length + 1) (m.settings.retryPolicy.records errors) next)

/-- An error after which there is no further attempt, where as many as `errors` came before. -/
def Ends (policy : RetryPolicy) (errors : List Error) (e : Error) : Prop :=
  RetryPolicy.isRetriable e = false ∨ errors.length + 1 = policy.budget

/-- A caller has come to its phase with attempts that started and ended at the given times. -/
inductive Reached (m : Manager) : List Nat → List (Nat × Except Error Nat) → Connect → Prop where
  | arriving (hup : m.state.isUp = false) (hq : m.queue = []) : Reached m [] [] arriving
  | waiting {ticket : Nat} (hup : m.state.isUp = false) (hq : m.queue = [ticket]) :
    Reached m [] [] (waiting ticket)
  | active {phase : Connect} {starts : List Nat} {next : Nat}
      {ends : List (Nat × Except Error Nat)} {errors : List Error}
      (h : Repeats m.settings.retryPolicy m.connectTimeout starts next ends errors)
      (hs : phase.Stage m next errors) :
    Reached m (starts ++ if phase.holds then [next] else []) ends phase
  | settling {a : Attempt} {latency next : Nat} {starts : List Nat}
      {ends : List (Nat × Except Error Nat)} {errors : List Error}
      (h : Repeats m.settings.retryPolicy m.connectTimeout starts next ends errors)
      (hlimit : m.now ≤ next + m.connectTimeout)
      (hf : a.failures = m.settings.retryPolicy.records errors) :
    Reached m (starts ++ [next]) (ends ++ [(m.now, .ok latency)]) (settling a latency)
  | defeated {phase : Connect} {e : Error} {next : Nat} {starts : List Nat}
      {ends : List (Nat × Except Error Nat)} {errors : List Error}
      (hp : phase = marking ⟨errors.length + 1, m.settings.retryPolicy.records errors, e⟩
        ∨ phase = counting ⟨errors.length + 1, m.settings.retryPolicy.records errors, e⟩)
      (h : Repeats m.settings.retryPolicy m.connectTimeout starts next ends errors)
      (hlimit : m.now ≤ next + m.connectTimeout) (he : Ends m.settings.retryPolicy errors e)
      (hs : m.state = .failed) :
    Reached m (starts ++ [next]) (ends ++ [(m.now, .error e)]) phase

/-- What a caller leaves and returns after attempts that failed with the given errors and a last
one. -/
inductive Concludes (m : Manager) (errors : List Error) :
    Except Error Nat → Manager → Except Error Unit → Prop where
  | connected {latency : Nat} {m' : Manager}
      (hattempts : m'.attempts = m.settings.retryPolicy.records errors)
      (hstate : m'.state = if latency < m.threshold then .connected else .degraded) :
    Concludes m errors (.ok latency) m' (.ok ())
  | gaveUp {e : Error} {m' : Manager} (he : Ends m.settings.retryPolicy errors e)
      (hattempts : m'.attempts
        = m.settings.retryPolicy.records errors
          ++ [⟨errors.length + 1, Redaction.ofError e, none⟩])
      (hstate : m'.state = .failed) :
    Concludes m errors (.error e) m' (.error (.connection (errors.length + 1)))

/-- How the last step of a caller shows in the health report, by what its last attempt has come
to. -/
inductive Shows (m m' : Manager) : Connect → Except Error Nat → Prop where
  | settled {a : Attempt} {latency : Nat} (h : m'.metrics = m.metrics) :
    Shows m m' (settling a latency) (.ok latency)
  | counted {d : Defeat}
      (h : m'.metrics
        = { m.metrics with
            errorCount := m.metrics.errorCount + 1
            lastError := some (Redaction.ofError d.error).text
            lastErrorAt := some m.instant }) :
    Shows m m' (counting d) (.error d.error)

/-- What can come of a step of a caller who is alone: it goes on, and only a start or an end of an
attempt is to be noted, or it returns. -/
inductive Tends (m : Manager) (phase : Connect) (starts : List Nat)
    (ends : List (Nat × Except Error Nat)) : Manager.Connecting → Prop where
  | going {m' : Manager} {phase' : Connect} (hsettings : m'.settings = m.settings)
      (hnow : m'.now = m.now) (hloops : m'.loops = m.loops) (hlate : phase.isLate = false)
      (hclosing : phase'.isLate = true → phase.isClosing m = true)
      (hmetrics : m'.metrics = phase'.reported m.metrics m.instant m.threshold)
      (hattempts : m'.attempts = m.attempts)
      (hcount : m'.store.connectAttempts = m.store.connectAttempts + phase.isOpening.toNat)
      (h : phase'.Reached m' starts ends)
      (hahead : phase'.ahead m.settings.retryPolicy.budget
        < phase.ahead m.settings.retryPolicy.budget) :
    Tends m phase starts ends (m', .going phase')
  | done {m' : Manager} {r : Except Error Unit} {starts' : List Nat} {next : Nat}
      {ends' : List (Nat × Except Error Nat)} {errors : List Error} {verdict : Except Error Nat}
      (h : Repeats m.settings.retryPolicy m.connectTimeout starts' next ends' errors)
      (hlimit : m.now ≤ next + m.connectTimeout) (hstarts : starts = starts' ++ [next])
      (hends : ends = ends' ++ [(m.now, verdict)])
      (hcount : m'.store.connectAttempts = m.store.connectAttempts + phase.isOpening.toNat)
      (hshows : phase.Shows m m' verdict) (hr : Concludes m errors verdict m' r) :
    Tends m phase starts ends (m', .done r)

theorem holds_of_attempt? {phase : Connect} {a : Attempt} (h : phase.attempt? = some a) :
  phase.holds = !phase.isOpening
  := by
  cases phase with
  | opening _ | probing _ _ | closing _ _ => rfl
  | _ => cases h

theorem isClosing_of_verdict? {m : Manager} {phase : Connect} {latency : Nat}
    (h : phase.verdict? m = some (.ok latency)) :
  phase.isClosing m = true
  := by
  unfold isClosing
  split
  · rfl
  · rfl
  · rfl
  · rw [h]
    rfl

theorem isLate_of_attempt? {phase : Connect} {a : Attempt} (h : phase.attempt? = some a) :
  phase.isLate = false
  := by
  cases phase with
  | settling a latency | counting d => cases h
  | _ => rfl

theorem le_ahead_of_attempt? {phase : Connect} {a : Attempt} (h : phase.attempt? = some a)
    (budget : Nat) :
  5 * (budget - a.number) + 4 ≤ phase.ahead budget
  := by
  cases phase with
  | opening a' | closing a' _ =>
    cases h
    simp only [ahead]
    omega
  | probing a' probe =>
    cases h
    cases probe with
    | ready | waiting _ =>
      simp only [ahead]
      omega
  | _ => cases h

section

variable {m : Manager} {phase : Connect} {a : Attempt} {starts : List Nat} {next : Nat}
  {ends : List (Nat × Except Error Nat)} {errors : List Error}

/-- An attempt that fails is followed by another one after a pause, or it was the last one. -/
theorem tends_fail {store : MemoryStore} {journal : List Notice}
    (hjitter : m.settings.retryPolicy.useJitter = false)
    (h : Repeats m.settings.retryPolicy m.connectTimeout starts next ends errors)
    (ha : phase.attempt? = some a) (hn : a.number = errors.length + 1)
    (hf : a.failures = m.settings.retryPolicy.records errors)
    (hlimit : m.now ≤ next + m.connectTimeout)
    (hcount : store.connectAttempts = m.store.connectAttempts + phase.isOpening.toNat) (e : Error) :
  phase.Tends m (starts ++ [next]) (ends ++ [(m.now, .error e)])
    ({ m with store := store, journal := journal }.fail a e)
  := by
  have hlate := isLate_of_attempt? ha
  have hahead := le_ahead_of_attempt? ha m.settings.retryPolicy.budget
  rcases Manager.fail_eq { m with store := store, journal := journal } a e hjitter with
    ⟨he, hbudget, journal', hfail⟩ | ⟨hlast, journal', hfail⟩
  · rw [hfail, hn, hf, ← RetryPolicy.records_concat]
    rw [hn] at hbudget
    have hreached := Reached.active (m := { m with store := store, journal := journal' })
      (h.again he hbudget hlimit) (.pausing (Nat.le_add_right m.now _))
    rw [List.length_append] at hreached
    refine .going rfl rfl rfl hlate nofun rfl rfl hcount ?_ ?_
    · rw [← List.append_nil (starts ++ [next])]
      exact hreached
    · apply Nat.lt_of_lt_of_le _ hahead
      simp only [ahead, hn]
      have : errors.length + 1 < m.settings.retryPolicy.budget := hbudget
      omega
  · rw [hfail, hn, hf]
    have hends : Ends m.settings.retryPolicy errors e := by
      rw [hn] at hlast
      exact hlast.imp_right fun hle => Nat.le_antisymm h.within hle
    refine .going rfl rfl rfl hlate nofun rfl rfl hcount
      (.defeated (.inl rfl) h hlimit hends rfl) ?_
    apply Nat.lt_of_lt_of_le _ hahead
    simp only [ahead]
    omega

/-- What can come of a step of a caller who is making an attempt. -/
theorem tends_trying (hjitter : m.settings.retryPolicy.useJitter = false)
    (h : Repeats m.settings.retryPolicy m.connectTimeout starts next ends errors)
    (ha : phase.attempt? = some a) (hn : a.number = errors.length + 1)
    (hf : a.failures = m.settings.retryPolicy.records errors)
    (hd : a.deadline = next + m.connectTimeout) (hnow : m.now ≤ a.deadline) :
  phase.Tends m (starts ++ [next])
    (ends ++ ((phase.verdict? m).map fun verdict => (m.now, verdict)).toList) (phase.advance m)
  := by
  obtain ⟨store, journal, hcount, hp⟩ := phase.passes_advance m ha
  generalize hv : phase.verdict? m = verdict at hp ⊢
  generalize phase.advance m = step at hp ⊢
  cases hp with
  | going phase' ha' hopening hr =>
    have hreached := Reached.active (m := { m with store := store, journal := journal }) h
      (.trying ha' hn hf hd hnow (by simp [hopening]))
    rw [holds_of_attempt? ha', hopening] at hreached
    have hlate := isLate_of_attempt? ha'
    have hmetrics := reported_of_not_late hlate m.metrics m.instant m.threshold
    refine .going rfl rfl rfl (isLate_of_attempt? ha) (by simp [hlate]) hmetrics.symm rfl hcount ?_
      (hr _)
    simpa using hreached
  | failed e => exact tends_fail hjitter h ha hn hf (hd ▸ hnow) hcount e
  | succeeded latency =>
    refine .going rfl rfl rfl (isLate_of_attempt? ha) (fun _ => isClosing_of_verdict? hv) rfl rfl
      hcount ?_ ?_
    · exact .settling h (hd ▸ hnow) hf
    · apply Nat.lt_of_lt_of_le _ (le_ahead_of_attempt? ha _)
      simp only [ahead]
      omega

end

/-- A caller who is about to establish the connection returns. -/
theorem tends_settling {m : Manager} {a : Attempt} {latency next : Nat} {starts : List Nat}
    {ends : List (Nat × Except Error Nat)} {errors : List Error}
    (h : Repeats m.settings.retryPolicy m.connectTimeout starts next ends errors)
    (hlimit : m.now ≤ next + m.connectTimeout)
    (hf : a.failures = m.settings.retryPolicy.records errors) :
  (settling a latency).Tends m (starts ++ [next]) (ends ++ [(m.now, .ok latency)])
    ((settling a latency).advance m)
  := by
  obtain ⟨loops, monitor, fresh, journal, -, hs⟩ := m.establish_eq a latency
  rw [advance, hs]
  refine .done h hlimit rfl rfl rfl (.settled rfl) (.connected hf ?_)
  change (HealthStatus.ofLatency latency m.threshold).connectionState = _
  unfold HealthStatus.ofLatency
  split
  · rfl
  · rfl

theorem tends_defeated {m : Manager} {phase : Connect} {e : Error} {next : Nat}
    {starts : List Nat} {ends : List (Nat × Except Error Nat)} {errors : List Error}
    (hp : phase = marking ⟨errors.length + 1, m.settings.retryPolicy.records errors, e⟩
      ∨ phase = counting ⟨errors.length + 1, m.settings.retryPolicy.records errors, e⟩)
    (h : Repeats m.settings.retryPolicy m.connectTimeout starts next ends errors)
    (hlimit : m.now ≤ next + m.connectTimeout) (he : Ends m.settings.retryPolicy errors e)
    (hs : m.state = .failed) :
  phase.Tends m (starts ++ [next]) (ends ++ [(m.now, .error e)]) (phase.advance m)
  := by
  rcases hp with rfl | rfl
  · refine .going rfl rfl rfl rfl (fun _ => rfl) rfl rfl rfl ?_ (Nat.lt_succ_self 1)
    exact .defeated (m := m.markUnhealthy) (.inr rfl) h hlimit he hs
  · refine .done h hlimit rfl rfl rfl ?_ (.gaveUp he rfl hs)
    exact .counted (d := ⟨errors.length + 1, _, e⟩) rfl

/-- A caller is about to make an attempt. -/
theorem stage_opening (m : Manager) (errors : List Error) :
  Stage m m.now errors
    (opening (m.attempt (errors.length + 1) (m.settings.retryPolicy.records errors)))
  := .trying rfl rfl rfl rfl (Nat.le_add_right m.now m.connectTimeout) fun _ => rfl

/-- What can come of a step of a caller who is alone, from its arrival on. -/
theorem Reached.tends {m : Manager} {phase : Connect} {starts : List Nat}
    {ends : List (Nat × Except Error Nat)} (h : phase.Reached m starts ends)
    (hjitter : m.settings.retryPolicy.useJitter = false) (hr : phase.isReady m = true) :
  phase.Tends m (starts ++ if phase.isOpening then [m.now] else [])
    (ends ++ ((phase.verdict? m).map fun verdict => (m.now, verdict)).toList) (phase.advance m)
  := by
  cases h with
  | arriving hup hq =>
    have hq' : m.queue ++ [m.fresh] = [m.fresh] := by rw [hq, List.nil_append]
    exact .going rfl rfl rfl rfl (absurd · Bool.false_ne_true) rfl rfl rfl (.waiting hup hq')
      (Nat.lt_succ_self _)
  | @waiting ticket hup hq =>
    obtain ⟨journal, hturn⟩ : ∃ journal, (Connect.waiting ticket).advance m
        = ({ m with state := .connecting, journal := journal },
            .going (.opening (m.attempt 1 []))) := by
      simp only [advance, Manager.takeTurn, hup, if_false, Bool.false_eq_true]
      exact ⟨_, rfl⟩
    rw [hturn]
    refine .going rfl rfl rfl rfl (absurd · Bool.false_ne_true) rfl rfl rfl ?_ ?_
    · exact Reached.active (m := { m with state := .connecting, journal := journal })
        (.nil _ _ m.now) (stage_opening _ [])
    · have := m.settings.retryPolicy.budget_pos
      simp only [ahead, Manager.attempt]
      omega
  | @active phase starts next ends errors h hs =>
    cases hs with
    | @trying phase a ha hn hf hd hnow hopening =>
      have hstarts : (starts ++ if phase.holds then [next] else [])
          ++ (if phase.isOpening then [m.now] else []) = starts ++ [next] := by
        rw [holds_of_attempt? ha]
        cases ho : phase.isOpening with
        | true => simp [hopening ho]
        | false => simp
      rw [hstarts]
      exact tends_trying hjitter h ha hn hf hd hnow
    | pausing hnow =>
      obtain rfl : m.now = next := Nat.le_antisymm hnow (by simpa [isReady] using hr)
      refine .going rfl rfl rfl rfl (absurd · Bool.false_ne_true) rfl rfl rfl ?_
        (Nat.lt_succ_self _)
      simpa [holds, isOpening, verdict?] using Reached.active h (stage_opening m errors)
  | settling h hlimit hf =>
    simpa [isOpening, verdict?] using tends_settling h hlimit hf
  | defeated hp h hlimit he hs =>
    have ht := tends_defeated hp h hlimit he hs
    rcases hp with rfl | rfl
    · simpa [isOpening, verdict?] using ht
    · simpa [isOpening, verdict?] using ht

end Connect

/-! ### Between the steps of a caller -/

/-- What a caller who is alone relies on from one of its steps to the next. -/
structure Manager.Spares (m m' : Manager) : Prop where
  settings : m'.settings = m.settings
  queue : m'.queue = m.queue
  state : m.state.isUp = false → m'.state = m.state
  count : m'.store.connectAttempts = m.store.connectAttempts
  quiet : m.loops = [] → m'.loops = [] ∧ m'.metrics = m.metrics

theorem Manager.spares_advanceLoop (m : Manager) {l : MonitorLoop} (hl : m.loops ≠ []) :
  m.Spares (m.advanceLoop l)
  := by
  have hv := (m.aside_advanceLoop l).vitals
  obtain ⟨pings, metrics, state, loops, journal, h⟩ := m.advanceLoop_eq l
  constructor
  case settings => rw [h]
  case queue => rw [h]
  case state => exact hv.state
  case count => rw [h]
  case quiet => exact fun hnil => absurd hnil hl

theorem Traffic.spares_step {i : Nat} {s : Traffic} {move : Move} (hm : move.isSolo i = true)
    (ht : ¬ s.Takes i move) :
  s.manager.Spares (s.step move).manager
  := by
  have hchange := s.step_change move
  generalize s.step move = s' at hchange
  cases hchange with
  | asked r => cases hm
  | meddled store => cases hm
  | advanced j c hc hr =>
    obtain rfl : j = i := by simpa [Move.isSolo] using hm
    exact absurd ⟨rfl, c, hc, hr⟩ ht
  | watched k l hk hr =>
    apply s.manager.spares_advanceLoop
    rintro hnil
    simp [hnil] at hk
  | _ => exact ⟨rfl, rfl, fun _ => rfl, rfl, fun h => ⟨h, rfl⟩⟩

theorem Manager.Spares.isUp {m m' : Manager} (h : m.Spares m') (hup : m.state.isUp = false) :
  m'.state.isUp = false
  := by rw [h.state hup, hup]

namespace Connect

variable {m m' : Manager} {phase : Connect}

theorem Stage.beside {next : Nat} {errors : List Error} (h : phase.Stage m next errors)
    (hs : m'.settings = m.settings)
    (hnow : m'.now = m.now
      ∨ phase.isReady m = false ∧ ∀ due, phase.alarm = some due → m'.now ≤ due) :
  phase.Stage m' next errors
  := by
  cases h with
  | @trying phase a ha hn hf hd hle hopening =>
    have hd' : a.deadline = next + m'.connectTimeout := by
      rw [hd, Manager.connectTimeout, Manager.connectTimeout, hs]
    rw [← hs] at hf
    rcases hnow with hnow | ⟨hr, hdue⟩
    · exact .trying ha hn hf hd' (hnow ▸ hle) (hnow ▸ hopening)
    · -- Nothing but its probe lets an attempt wait.
      cases phase with
      | probing a' probe =>
        cases ha
        cases probe with
        | ready => cases hr
        | waiting ping =>
          have hmin : m'.now ≤ min ping.due a.deadline := hdue _ rfl
          exact .trying rfl hn hf hd' (by omega) nofun
      | opening _ | closing _ _ => cases hr
      | _ => cases ha
  | pausing hle =>
    rw [← hs]
    apply Stage.pausing
    rcases hnow with hnow | ⟨-, hdue⟩
    · rwa [hnow]
    · exact hdue _ rfl

theorem Reached.beside {starts : List Nat} {ends : List (Nat × Except Error Nat)}
    (h : phase.Reached m starts ends) (hm : m.Spares m')
    (hnow : m'.now = m.now
      ∨ phase.isReady m = false ∧ ∀ due, phase.alarm = some due → m'.now ≤ due) :
  phase.Reached m' starts ends
  := by
  cases h with
  | arriving hup hq => exact .arriving (hm.isUp hup) (hm.queue.trans hq)
  | waiting hup hq => exact .waiting (hm.isUp hup) (hm.queue.trans hq)
  | active h hs =>
    apply active _ (hs.beside hm.settings hnow)
    rwa [Manager.connectTimeout, hm.settings]
  | @settling a latency next starts ends errors h hlimit hf =>
    have htime : m'.now = m.now := hnow.resolve_right fun hr => nomatch hr.1
    rw [← htime]
    refine settling ?_ (htime.symm ▸ ?_) (hm.settings ▸ hf)
    · rwa [Manager.connectTimeout, hm.settings]
    · rwa [Manager.connectTimeout, hm.settings]
  | @defeated phase e next starts ends errors hp h hlimit he hs =>
    have htime : m'.now = m.now := by
      apply hnow.resolve_right
      rintro ⟨hr, -⟩
      rcases hp with rfl | rfl
      · cases hr
      · cases hr
    have hs' : m'.state = .failed := (hm.state (by rw [hs]; rfl)).trans hs
    rw [← hm.settings] at hp he
    rw [← htime]
    refine defeated hp ?_ (htime.symm ▸ ?_) he hs'
    · rwa [Manager.connectTimeout, hm.settings]
    · rwa [Manager.connectTimeout, hm.settings]

/-- A caller who is alone does not have to wait for anything but time. -/
theorem Reached.isReady_or_alarm {starts : List Nat} {ends : List (Nat × Except Error Nat)}
    (h : phase.Reached m starts ends) :
  phase.isReady m = true ∨ ∃ due, phase.alarm = some due
  := by
  cases h with
  | arriving => exact .inl rfl
  | waiting hup hq =>
    left
    simp [isReady, hq]
  | active _ hs =>
    cases phase with
    | opening _ | closing _ _ => exact .inl rfl
    | pausing _ _ _ => exact .inr ⟨_, rfl⟩
    | probing a probe =>
      cases probe with
      | ready => exact .inl rfl
      | waiting ping => exact .inr ⟨_, rfl⟩
    | _ =>
      cases hs with
      | trying ha => cases ha
  | settling => exact .inl rfl
  | defeated hp =>
    left
    rcases hp with rfl | rfl
    · rfl
    · rfl

/-- What the latest step of a caller has shown. -/
inductive Shown : Connect → List Turn → Prop where
  | nothing {phase : Connect} {turns : List Turn} (h : phase.isLate = false) : Shown phase turns
  | succeeded {a : Attempt} {latency : Nat} {turns : List Turn} {t : Turn}
      (h : t.ReportsSuccess latency) :
    Shown (settling a latency) (turns ++ [t])
  | marked {d : Defeat} {turns : List Turn} {t : Turn} (h : t.Marks) :
    Shown (counting d) (turns ++ [t])

/-- A caller has come to its phase by the given steps, beginning with the manager `first`. -/
structure Tries (first m : Manager) (phase : Connect) (turns : List Turn) : Prop where
  reached : phase.Reached m (Turn.starts turns) (Turn.ends turns)
  settings : m.settings = first.settings
  count : m.store.connectAttempts
    = first.store.connectAttempts + (Turn.starts turns).length
  silent : ∀ t ∈ turns, t.result? = none ∧ (t.isClosing = false → t.Conceals)
  shown : phase.Shown turns
  quiet : first.loops = [] → m.loops = []
    ∧ m.metrics = phase.reported first.metrics m.instant first.threshold
  short : turns.length + phase.ahead first.settings.retryPolicy.budget
    ≤ 5 * first.settings.retryPolicy.budget + 4

namespace Tries

variable {first : Manager} {turns : List Turn}

/-- A caller that has something left to write does not wait. -/
theorem reported_beside (metrics : HealthMetrics) (threshold : Nat)
    (hnow : m'.now = m.now
      ∨ phase.isReady m = false ∧ ∀ due, phase.alarm = some due → m'.now ≤ due) :
  phase.reported metrics m'.instant threshold = phase.reported metrics m.instant threshold
  := by
  cases hlate : phase.isLate with
  | false => rw [reported_of_not_late hlate, reported_of_not_late hlate]
  | true =>
    have htime : m'.now = m.now := by
      apply hnow.resolve_right
      rintro ⟨hr, -⟩
      cases phase with
      | settling a latency | counting d => cases hr
      | _ => cases hlate
    rw [Manager.instant, Manager.instant, htime]

theorem beside (h : phase.Tries first m turns) (hm : m.Spares m')
    (hnow : m'.now = m.now
      ∨ phase.isReady m = false ∧ ∀ due, phase.alarm = some due → m'.now ≤ due) :
  phase.Tries first m' turns
  where
  reached := h.reached.beside hm hnow
  settings := hm.settings.trans h.settings
  count := hm.count.trans h.count
  silent := h.silent
  shown := h.shown
  quiet hl := by
    obtain ⟨hloops, hmetrics⟩ := h.quiet hl
    obtain ⟨hloops', hmetrics'⟩ := hm.quiet hloops
    rw [reported_beside _ _ hnow]
    exact ⟨hloops', hmetrics'.trans hmetrics⟩
  short := h.short

/-- The attempts that the store has counted after one more step. -/
theorem count_concat (h : phase.Tries first m turns)
    (hcount : m'.store.connectAttempts = m.store.connectAttempts + phase.isOpening.toNat)
    (announced : Bool) :
  m'.store.connectAttempts
    = first.store.connectAttempts
      + (Turn.starts (turns ++ [⟨m, .connect announced phase⟩])).length
  := by
  rw [hcount, h.count, Turn.starts_concat, List.length_append, Nat.add_assoc]
  congr 2
  cases phase.isOpening with
  | true => rfl
  | false => rfl

/-- A caller that goes on has come to its next phase. -/
theorem going (h : phase.Tries first m turns)
    (hjitter : first.settings.retryPolicy.useJitter = false) (hr : phase.isReady m = true)
    {phase' : Connect} (hg : phase.advance m = (m', .going phase')) (announced : Bool) :
  phase'.Tries first m' (turns ++ [⟨m, .connect announced phase⟩])
  := by
  have ht := h.reached.tends (h.settings ▸ hjitter) hr
  rw [hg, ← Turn.starts_concat turns m announced, ← Turn.ends_concat turns m announced] at ht
  cases ht with
  | going hsettings hnow hloops hlate hclosing hmetrics hattempts hcount hreached hahead =>
    have hafter : (⟨m, .connect announced phase⟩ : Turn).after = m' := by
      rw [Turn.after, Call.advance, hg]
      rfl
    constructor
    case reached => exact hreached
    case settings => exact hsettings.trans h.settings
    case count => exact h.count_concat hcount announced
    case silent =>
      rw [List.forall_mem_append, List.forall_mem_singleton]
      refine ⟨h.silent, ?_, ?_⟩
      · rw [Turn.result?, Call.advance, hg]
        rfl
      · intro hopen
        have hlate' : phase'.isLate = false := by
          rw [← Bool.not_eq_true]
          intro hlate'
          cases hopen.symm.trans (hclosing hlate')
        rw [reported_of_not_late hlate'] at hmetrics
        rw [Turn.Conceals, hafter]
        exact ⟨hmetrics, hattempts⟩
    case shown =>
      cases phase' with
      | settling a latency =>
        apply Shown.succeeded
        rw [Turn.ReportsSuccess, hafter]
        exact ⟨hmetrics, hattempts⟩
      | counting d =>
        apply Shown.marked
        rw [Turn.Marks, hafter]
        exact ⟨hmetrics, hattempts⟩
      | _ => exact .nothing rfl
    case quiet =>
      intro hl
      obtain ⟨hnil, hreport⟩ := h.quiet hl
      rw [reported_of_not_late hlate] at hreport
      rw [hloops, hmetrics, hreport, Manager.threshold, Manager.instant, h.settings,
        Manager.instant, hnow]
      exact ⟨hnil, rfl⟩
    case short =>
      rw [h.settings] at hahead
      have := h.short
      rw [List.length_append, List.length_singleton]
      omega

/-- The closing steps of a caller that returns. -/
theorem closes (h : phase.Tries first m turns) {verdict : Except Error Nat} {announced : Bool}
    (hshows : phase.Shows m ((Call.connect announced phase).advance m).1 verdict) :
  ∃ opening closing, turns ++ [⟨m, .connect announced phase⟩] = opening ++ closing
    ∧ Turn.Closes verdict closing
  := by
  have hshown := h.shown
  cases hshows with
  | settled hm =>
    cases hshown with
    | nothing hlate => cases hlate
    | @succeeded a latency turns t ht =>
      refine ⟨turns, _, List.append_assoc _ _ _, ?_⟩
      exact .connected ht hm
  | counted hm =>
    cases hshown with
    | nothing hlate => cases hlate
    | @marked d turns t ht =>
      refine ⟨turns, _, List.append_assoc _ _ _, ?_⟩
      exact .gaveUp ht hm

end Tries

/-- The health report of a caller that returns, if only its own steps have shown in it. -/
def finished (metrics : HealthMetrics) (now : Instant) (threshold : Nat) :
    Except Error Nat → HealthMetrics
  | .ok latency =>
    { metrics with
      status := .ofLatency latency threshold
      responseTime := latency
      lastSuccessfulProbe := some now }
  | .error e =>
    { metrics with
      status := .unhealthy
      errorCount := metrics.errorCount + 1
      lastError := some (Redaction.ofError e).text
      lastErrorAt := some now }

theorem Shows.finished {metrics : HealthMetrics} {threshold : Nat} {verdict : Except Error Nat}
    (h : phase.Shows m m' verdict) (hm : m.metrics = phase.reported metrics m.instant threshold) :
  m'.metrics = Connect.finished metrics m.instant threshold verdict
  := by
  cases h with
  | settled h => exact h.trans hm
  | counted h =>
    rw [h, hm]
    rfl

/-- What the steps of a caller who connects alone come to, the last of which is the one with which
it returns. -/
structure Course (first : Manager) (turns : List Turn) (last : Turn) (errors : List Error)
    (verdict : Except Error Nat) : Prop where
  /-- There is one attempt more than attempts that were followed by another one. -/
  count : (Turn.starts turns).length = errors.length + 1
  /-- The store was opened once for each attempt. -/
  attempts : last.after.store.connectAttempts
    = first.store.connectAttempts + (errors.length + 1)
  outcomes : (Turn.ends turns).map Prod.snd = errors.map .error ++ [verdict]
  retriable : ∀ e ∈ errors, RetryPolicy.isRetriable e = true
  within : errors.length < first.settings.retryPolicy.budget
  /-- Each attempt starts as soon as the delay that follows the end of the one before is over. -/
  spaced : (Turn.starts turns).tail
    = List.zipWith (· + ·) ((Turn.ends turns).dropLast.map Prod.fst)
      (first.settings.retryPolicy.delays errors.length)
  /-- How long all delays last, as long as that can be counted. -/
  slept : first.settings.retryDelay.toNat * (2 ^ errors.length - 1) < UInt64.size →
    (Turn.starts turns).tail.sum
      = ((Turn.ends turns).dropLast.map Prod.fst).sum
        + first.settings.retryDelay.toNat * (2 ^ errors.length - 1)
  /-- No attempt lasts longer than an attempt may. -/
  limited : ∀ p ∈ (Turn.starts turns).zip ((Turn.ends turns).map Prod.fst),
    p.2 ≤ p.1 + first.connectTimeout
  /-- The closing steps report what the last attempt has come to. -/
  closes : ∃ opening closing, turns = opening ++ closing ∧ Turn.Closes verdict closing
  /-- Where no loop watches the connection, the health report changes by that and by nothing
  else. -/
  quiet : first.loops = [] →
    last.after.metrics = finished first.metrics last.before.instant first.threshold verdict
  /-- The last step leaves and returns what the last attempt has come to. -/
  concludes : ∃ r, last.result?.bind Outcome.connection? = some r
    ∧ Concludes last.before errors verdict last.after r
  short : turns.length ≤ 5 * first.settings.retryPolicy.budget + 6

theorem Concludes.write {errors : List Error} {verdict : Except Error Nat}
    {r : Except Error Unit} (h : Concludes m errors verdict m' r) (journal : List Notice) :
  Concludes m errors verdict { m' with journal := journal } r
  := by
  cases h with
  | connected hattempts hstate => exact .connected hattempts hstate
  | gaveUp he hattempts hstate => exact .gaveUp he hattempts hstate

theorem Shows.write {verdict : Except Error Nat} (h : phase.Shows m m' verdict)
    (journal : List Notice) :
  phase.Shows m { m' with journal := journal } verdict
  := by
  cases h with
  | settled h => exact .settled h
  | counted h => exact .counted h

theorem Shows.isClosing {verdict : Except Error Nat} (h : phase.Shows m m' verdict) :
  phase.isClosing m = true
  := by
  cases h with | _ => rfl

/-- A caller that returns has run its course, and its last step is a closing one. -/
theorem Tries.course {first : Manager} {turns : List Turn} (h : phase.Tries first m turns)
    (hjitter : first.settings.retryPolicy.useJitter = false) (hr : phase.isReady m = true)
    {announced : Bool} {o : Outcome} (hd : ((Call.connect announced phase).advance m).2 = .done o) :
  (⟨m, .connect announced phase⟩ : Turn).isClosing = true
    ∧ ∃ errors verdict, Course first (turns ++ [⟨m, .connect announced phase⟩])
      ⟨m, .connect announced phase⟩ errors verdict
  := by
  obtain ⟨r, hp, ho⟩ := Call.done_connect hd
  obtain ⟨journal, hafter⟩ := Call.connect_advance_eq m announced phase
  have ht := h.reached.tends (h.settings ▸ hjitter) hr
  rcases hstep : phase.advance m with ⟨m', progress⟩
  rw [hstep] at hp hafter ht
  obtain rfl : progress = .done r := hp
  rw [← Turn.starts_concat turns m announced, ← Turn.ends_concat turns m announced] at ht
  cases ht with
  | @done m' r starts next ends errors verdict hrepeats hlimit hstarts hends hcount hshows
      hconcludes =>
    refine ⟨hshows.isClosing, errors, verdict, ?_⟩
    have hlength : (starts ++ [next]).length = errors.length + 1 := by
      rw [List.length_append, hrepeats.length, List.length_singleton]
    constructor
    case count => rw [hstarts, hlength]
    case attempts =>
      rw [Turn.after, hafter, ← hlength, ← hstarts]
      exact h.count_concat hcount announced
    case outcomes =>
      rw [hends, List.map_append, hrepeats.outcomes]
      rfl
    case retriable => exact hrepeats.retriable
    case within =>
      rw [← h.settings]
      exact hrepeats.within
    case spaced => rw [hstarts, hends, List.dropLast_concat, hrepeats.spaced, h.settings]
    case slept =>
      rw [hstarts, hends, List.dropLast_concat, ← h.settings]
      exact hrepeats.sum_starts
    case limited =>
      rw [hstarts, hends, Manager.connectTimeout, ← h.settings]
      exact hrepeats.short_concat hlimit _
    case closes =>
      apply h.closes
      rw [hafter]
      exact hshows.write journal
    case quiet =>
      intro hl
      rw [Turn.after, hafter]
      exact hshows.finished (h.quiet hl).2
    case concludes =>
      refine ⟨r, ?_, ?_⟩
      · rw [Turn.result?, hd]
        exact ho
      · rw [Turn.after, hafter]
        exact hconcludes.write journal
    case short =>
      have := h.short
      rw [List.length_append, List.length_singleton]
      omega

end Connect

namespace Traffic

/-- A call connects, and has come to its phase by the given steps. -/
inductive Attempting (first : Manager) (announced : Bool) (s : Traffic) :
    Call → List Turn → Prop where
  | intro {phase : Connect} {turns : List Turn} (h : phase.Tries first s.manager turns) :
    Attempting first announced s (.connect announced phase) turns

namespace Attempting

variable {first : Manager} {announced : Bool} {s : Traffic} {c : Call} {turns : List Turn} {i : Nat}

theorem beside (h : Attempting first announced s c turns) {move : Move}
    (hm : move.isSolo i = true) (hc : s.call? i = some c) (ht : ¬ s.Takes i move)
    (ha : s.allows i move = true) :
  Attempting first announced (s.step move) c turns
  := by
  cases h with
  | intro h => exact ⟨h.beside (spares_step hm ht) (now_beside hc ha)⟩

theorem settle (h : Attempting first announced s c turns)
    (hjitter : first.settings.retryJitter = false) (hr : c.isReady s.manager = true) {c' : Call}
    (hg : (c.advance s.manager).2 = .going c') :
  Attempting first announced (s.settle i (c.advance s.manager)) c' (turns ++ [⟨s.manager, c⟩])
  := by
  cases h with
  | @intro phase turns h =>
    obtain ⟨phase', hp, rfl⟩ := Call.going_lift hg
    constructor
    rcases hstep : phase.advance s.manager with ⟨m', progress⟩
    rw [hstep] at hp
    obtain rfl : progress = .going phase' := hp
    rw [manager_settle, Call.advance, hstep]
    exact h.going hjitter hr hstep announced

end Attempting

variable {s : Traffic} {i : Nat} {announced : Bool} {moves : List Move}

/-- A caller who connects alone goes on with its sequence, or has returned. -/
theorem attempting_run (hc : s.call? i = some (.connect announced .arriving))
    (hup : s.manager.state.isUp = false) (hq : s.manager.queue = [])
    (hjitter : s.manager.settings.retryJitter = false) (hm : ∀ move ∈ moves, move.isSolo i = true)
    (hp : s.punctual i moves = true) :
  (∃ c, (s.run moves).call? i = some c
      ∧ Attempting s.manager announced (s.run moves) c (s.turns i moves))
    ∨ ∃ s' c turns o, Attempting s.manager announced s' c turns ∧ c.isReady s'.manager = true
      ∧ (c.advance s'.manager).2 = .done o ∧ (s.run moves).call? i = none
      ∧ s.turns i moves = turns ++ [⟨s'.manager, c⟩]
  := by
  have harriving : Connect.Tries s.manager s.manager .arriving [] := by
    constructor
    case reached => exact .arriving hup hq
    case settings => rfl
    case count => rfl
    case silent => simp
    case shown => exact .nothing rfl
    case quiet => exact fun hl => ⟨hl, rfl⟩
    case short => simp [Connect.ahead]
  exact turns_induction (A := fun move => move.isSolo i = true)
    (J := Attempting s.manager announced) (fun _ _ _ _ hm h hc ht ha => h.beside hm hc ht ha)
    (fun _ _ _ _ h _ hr hg => h.settle hjitter hr hg) hc ⟨harriving⟩ moves hm hp

/-- All steps of a caller who connects alone but the closing ones are silent. -/
theorem conceals_and_course (hc : s.call? i = some (.connect announced .arriving))
    (hup : s.manager.state.isUp = false) (hq : s.manager.queue = [])
    (hjitter : s.manager.settings.retryJitter = false) (hm : ∀ move ∈ moves, move.isSolo i = true)
    (hp : s.punctual i moves = true) {t : Turn} (ht : t ∈ s.turns i moves) :
  (t.isClosing = false → t.Conceals)
    ∧ (t.result?.isSome = true →
      ∃ errors verdict, Connect.Course s.manager (s.turns i moves) t errors verdict)
  := by
  have hsilent : t.result? = none ∧ (t.isClosing = false → t.Conceals) →
      (t.isClosing = false → t.Conceals)
        ∧ (t.result?.isSome = true →
          ∃ errors verdict, Connect.Course s.manager (s.turns i moves) t errors verdict) := by
    rintro ⟨hnone, hconceals⟩
    refine ⟨hconceals, fun hsome => ?_⟩
    rw [hnone] at hsome
    cases hsome
  rcases attempting_run hc hup hq hjitter hm hp with
    ⟨c, -, ⟨h⟩⟩ | ⟨s', c, turns, o, ⟨h⟩, hr, hd, -, hturns⟩
  · exact hsilent (h.silent t ht)
  · rw [hturns, List.mem_append, List.mem_singleton] at ht
    rcases ht with ht | rfl
    · exact hsilent (h.silent t ht)
    · obtain ⟨hclosing, hcourse⟩ := h.course hjitter hr hd
      rw [hturns]
      refine ⟨fun hopen => ?_, fun _ => hcourse⟩
      cases hclosing.symm.trans hopen

/-- Every caller who connects alone can be brought to return. -/
theorem exists_returned_of_connect (hc : s.call? i = some (.connect announced .arriving))
    (hup : s.manager.state.isUp = false) (hq : s.manager.queue = [])
    (hjitter : s.manager.settings.retryJitter = false) (hm : ∀ move ∈ moves, move.isSolo i = true)
    (hp : s.punctual i moves = true) :
  ∃ more : List Move, (∀ move ∈ more, move.isSolo i = true)
    ∧ s.punctual i (moves ++ more) = true
    ∧ ∃ t ∈ s.turns i (moves ++ more), t.result?.isSome = true
  := by
  have hbound : ∀ moves : List Move, (∀ move ∈ moves, move.isSolo i = true) →
      s.punctual i moves = true →
      (s.turns i moves).length ≤ 5 * s.manager.settings.retryPolicy.budget + 6 := by
    intro moves hm hp
    rcases attempting_run hc hup hq hjitter hm hp with
      ⟨c, -, ⟨h⟩⟩ | ⟨_, _, _, _, ⟨h⟩, hr, hd, -, ht⟩
    · have := h.short
      omega
    · obtain ⟨-, errors, verdict, hcourse⟩ := h.course hjitter hr hd
      rw [ht]
      exact hcourse.short
  have halive : ∀ moves : List Move, (∀ move ∈ moves, move.isSolo i = true) →
      s.punctual i moves = true → ∀ c, (s.run moves).call? i = some c →
        c.isReady (s.run moves).manager = true ∨ ∃ due, c.alarm = some due := by
    intro moves hm hp c hc'
    rcases attempting_run hc hup hq hjitter hm hp with ⟨_, hc'', ⟨h⟩⟩ | ⟨_, _, _, _, -, -, -, hn, -⟩
    · cases hc'.symm.trans hc''
      exact h.reached.isReady_or_alarm
    · rw [hc'] at hn
      cases hn
  exact exists_returned (A := fun move => move.isSolo i = true) (beq_self_eq_true i)
    (fun _ => rfl) hbound halive hc moves hm hp

/-- A caller who connects alone makes attempts until one succeeds, or fails with an error that is
not worth another one, or the budget is used up.  The pauses between them are as long as the delays
of the policy.  Only its closing steps show in the health report and in the list of failed
attempts.  And in whatever way it is interleaved with others, it can be brought to return. -/
theorem course_run (s : Traffic) (i : Nat) (announced : Bool)
    (hc : s.call? i = some (.connect announced .arriving))
    (hup : s.manager.state.isUp = false) (hq : s.manager.queue = [])
    (hjitter : s.manager.settings.retryJitter = false) (moves : List Move)
    (hm : ∀ move ∈ moves, move.isSolo i = true) (hp : s.punctual i moves = true) :
  (∀ t ∈ s.turns i moves, t.isClosing = false → t.Conceals)
    ∧ (∀ t ∈ s.turns i moves, t.result?.isSome = true →
      ∃ errors verdict, Connect.Course s.manager (s.turns i moves) t errors verdict)
    ∧ ∃ more : List Move, (∀ move ∈ more, move.isSolo i = true)
      ∧ s.punctual i (moves ++ more) = true
      ∧ ∃ t ∈ s.turns i (moves ++ more), t.result?.isSome = true
  := by
  refine ⟨?_, ?_, exists_returned_of_connect hc hup hq hjitter hm hp⟩
  · intro t ht
    exact (conceals_and_course hc hup hq hjitter hm hp ht).1
  · intro t ht
    exact (conceals_and_course hc hup hq hjitter hm hp ht).2

/-- A caller who connects to a store that refuses the first two attempts. -/
def stubborn : Traffic :=
  (opened
    { url := "memory://localhost/projects", environment := .test, maxRetries := 3
      retryDelay := 100 }
    { draw := fun _ => 0, name := fun _ => "" } 0
    { faults := { connect := .next 2 "connection refused" } }).step (.ask .connect)

/-- The moves of a caller who makes three attempts. -/
def persistence : List Move :=
  [.advance 0, .advance 0, .advance 0, .elapse 100, .advance 0, .advance 0, .elapse 200,
    .advance 0, .advance 0, .advance 0, .advance 0]

/-- Pauses of 100 and 200 milliseconds lie between three attempts, the last of which succeeds. -/
theorem course_persistence :
  Turn.starts (stubborn.turns 0 persistence) = [0, 100, 300]
    ∧ ∃ t ∈ stubborn.turns 0 persistence, t.result?.bind Outcome.connection? = some (.ok ())
      ∧ ∃ errors verdict, errors.length = 2
        ∧ Connect.Course stubborn.manager (stubborn.turns 0 persistence) t errors verdict
  := by
  have hstarts : Turn.starts (stubborn.turns 0 persistence) = [0, 100, 300] := by decide
  obtain ⟨t, ht, hresult⟩ : ∃ t ∈ stubborn.turns 0 persistence,
      t.result?.bind Outcome.connection? = some (.ok ()) := by
    refine ⟨_, List.getLast_mem (by decide), ?_⟩
    rfl
  have hsome : t.result?.isSome = true := by
    cases h : t.result? with
    | none => simp [h] at hresult
    | some o => rfl
  obtain ⟨errors, verdict, hcourse⟩ := (course_run stubborn 0 false rfl rfl rfl rfl persistence
    (by decide) (by decide)).2.1 t ht hsome
  refine ⟨hstarts, t, ht, hresult, errors, verdict, ?_, hcourse⟩
  have hcount := hcourse.count
  rw [hstarts] at hcount
  exact (Nat.succ.inj hcount).symm

end Traffic

end Storekeeper

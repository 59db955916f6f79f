import Mathlib.Data.List.Induction
import Storekeeper.Proofs.Manager.Pursuit
import Storekeeper.Session.Basic

/-!
# Many calls on one manager

Any number of callers may use one manager at the same time, and the loop that watches the
connection runs beside them.  `Traffic` is a manager with the calls that were made on it, and a
move is whatever may happen next: somebody makes a call, a call or a loop goes on to the next point
where it may be suspended, time passes, or the store is touched from outside.  A call that has to
wait, and one that returned already, does nothing when it is to go on; so any list of moves is a
run, and the runs are all interleavings of the calls.
-/

namespace Storekeeper

/-- What a caller may ask of a manager. -/
inductive Request where
  | start
  | connect
  | stop
  | disconnect
  | stopMonitor
  | checkHealth
  | askStatus
  | run (overrides : Transaction.Overrides) (work : Work Nat)
  | maintain (task : Maintenance)

namespace Request

/-- The call that a request leads to. -/
def call (m : Manager) : Request → Call
  | start => .start
  | connect => .connect false .arriving
  | stop => .stop
  | disconnect => .disconnect false (.stopping .asked)
  | stopMonitor => .stopMonitor .asked
  | checkHealth => .checkHealth (.probing .ready)
  | askStatus => .askStatus .ready
  | run overrides work => .ofWork m overrides work
  | maintain task => .maintain task

/-- Whether a request is one to connect. -/
def isToConnect : Request → Bool
  | start | connect => true
  | _ => false

end Request

/-- The request that an action of a script makes of a manager. -/
def Action.request? : Action → Option Request
  | start => some .start
  | connect => some .connect
  | stop => some .stop
  | disconnect => some .disconnect
  | stopMonitor => some .stopMonitor
  | checkHealth => some .checkHealth
  | askStatus => some .askStatus
  | run overrides items => some (.run overrides (WorkItem.work items.length items))
  | maintain task => some (.maintain task)
  | _ => none

/-- The requests of a script lead to the calls that they lead to here. -/
theorem Session.act_of_request? (s : Session) {a : Action} {r : Request}
    (h : a.request? = some r) :
  s.act a = (s, .inr (r.call s.manager))
  := by
  cases a with
  | start | connect | stop | disconnect | stopMonitor | checkHealth | askStatus | run | maintain =>
    cases h
    rfl
  | _ => cases h

/-- A manager with the calls that were made on it. -/
structure Traffic where
  manager : Manager
  /-- The calls in the order in which they were made, without those that returned. -/
  calls : List (Option Call) := []

namespace Traffic

/-- What may happen next. -/
inductive Move where
  | ask (request : Request)
  /-- Goes on with the call with the given number. -/
  | advance (i : Nat)
  /-- Goes on with the loop at the given place. -/
  | watch (k : Nat)
  | elapse (time : Nat)
  /-- Changes the planned failures of the store. -/
  | plan (faults : Faults)
  /-- The store is used by others, who leave it in the given state. -/
  | meddle (store : MemoryStore)

/-- A new manager of a store. -/
def opened (settings : Settings) (chance : Chance) (now : Nat) (store : MemoryStore) : Traffic where
  manager := { settings := settings, chance := chance, now := now, store := store }

/-- The call with the given number, unless it returned. -/
def call? (s : Traffic) (i : Nat) : Option Call := s.calls[i]?.join

/-- Takes in what has come of the call with the given number. -/
def settle (s : Traffic) (i : Nat) : Call.Step → Traffic
  | (m, .going c) => ⟨m, s.calls.set i (some c)⟩
  | (m, .done _) => ⟨m, s.calls.set i none⟩

/-- Makes a move. -/
def step (s : Traffic) : Move → Traffic
  | .ask r => { s with calls := s.calls ++ [some (r.call s.manager)] }
  | .advance i =>
    match s.call? i with
    | some c => if c.isReady s.manager then s.settle i (c.advance s.manager) else s
    | none => s
  | .watch k =>
    match s.manager.loops[k]? with
    | some l =>
      if l.isReady s.manager.now then { s with manager := s.manager.advanceLoop l } else s
    | none => s
  | .elapse time => { s with manager := { s.manager with now := s.manager.now + time } }
  | .plan faults =>
    { s with
      manager := { s.manager with store := { s.manager.store with faults := faults } } }
  | .meddle store => { s with manager := { s.manager with store := store } }

/-- Makes some moves one after another. -/
def run (s : Traffic) (moves : List Move) : Traffic := moves.foldl step s

/-- What the call with the given number returns with its next step, if it returns then. -/
def outcome? (s : Traffic) (i : Nat) : Option Outcome :=
  match s.call? i with
  | some c =>
    if c.isReady s.manager then
      match (c.advance s.manager).2 with
      | .going _ => none
      | .done o => some o
    else none
  | none => none

theorem outcome?_eq_some_iff {s : Traffic} {i : Nat} {o : Outcome} :
  s.outcome? i = some o
    ↔ ∃ c, s.call? i = some c ∧ c.isReady s.manager = true ∧ (c.advance s.manager).2 = .done o
  := by
  unfold outcome?
  cases hc : s.call? i with
  | none => simp
  | some c =>
    cases hr : c.isReady s.manager with
    | false => simp [hr]
    | true =>
      cases hd : (c.advance s.manager).2 with
      | going c' => simp [hr, hd]
      | done o' => simp [hr, hd]

@[simp]
theorem run_nil (s : Traffic) :
  s.run [] = s
  := rfl

@[simp]
theorem run_cons (s : Traffic) (move : Move) (moves : List Move) :
  s.run (move :: moves) = (s.step move).run moves
  := rfl

theorem run_append (s : Traffic) (moves moves' : List Move) :
  s.run (moves ++ moves') = (s.run moves).run moves'
  := List.foldl_append

theorem run_concat (s : Traffic) (moves : List Move) (move : Move) :
  s.run (moves ++ [move]) = (s.run moves).step move
  := s.run_append moves [move]

/-- What every move preserves is preserved by a run. -/
theorem run_induction {P : Traffic → Prop} {s : Traffic} (h : P s)
    (hstep : ∀ s move, P s → P (s.step move)) (moves : List Move) :
  P (s.run moves)
  := by
  induction moves generalizing s with
  | nil => exact h
  | cons move moves ih =>
    rw [run_cons]
    apply ih
    apply hstep s move h

/-! ### Steps of a call -/

@[simp]
theorem manager_settle (s : Traffic) (i : Nat) (step : Call.Step) :
  (s.settle i step).manager = step.1
  := by
  obtain ⟨m, progress⟩ := step
  cases progress with
  | going c => rfl
  | done o => rfl

theorem lt_length_of_call? {s : Traffic} {i : Nat} {c : Call} (h : s.call? i = some c) :
  i < s.calls.length
  := by
  rw [call?, Option.join_eq_some_iff] at h
  exact (List.getElem?_eq_some_iff.mp h).1

theorem call?_settle_of_ne (s : Traffic) {i j : Nat} (h : i ≠ j) (step : Call.Step) :
  (s.settle i step).call? j = s.call? j
  := by
  obtain ⟨m, progress⟩ := step
  cases progress with
  | going c => simp [settle, call?, h]
  | done o => simp [settle, call?, h]

theorem call?_settle_going {s : Traffic} {i : Nat} (h : i < s.calls.length) {step : Call.Step}
    {c : Call} (hs : step.2 = .going c) :
  (s.settle i step).call? i = some c
  := by
  obtain ⟨m, progress⟩ := step
  cases hs
  simp [settle, call?, h]

theorem call?_settle_done {s : Traffic} {i : Nat} {step : Call.Step} {o : Outcome}
    (hs : step.2 = .done o) :
  (s.settle i step).call? i = none
  := by
  obtain ⟨m, progress⟩ := step
  cases hs
  by_cases h : i < s.calls.length
  · simp [settle, call?, h]
  · simp [settle, call?, h]

/-- A call that has not returned after a step went on with it. -/
theorem going_of_call?_settle {s : Traffic} {i : Nat} {step : Call.Step} {c : Call}
    (h : (s.settle i step).call? i = some c) :
  step.2 = .going c
  := by
  cases hp : step.2 with
  | going c' =>
    have hl := lt_length_of_call? h
    obtain ⟨m, progress⟩ := step
    cases hp
    rw [settle, List.length_set] at hl
    rw [call?_settle_going hl rfl] at h
    cases h
    rfl
  | done o =>
    rw [call?_settle_done hp] at h
    cases h

@[simp]
theorem length_calls_settle (s : Traffic) (i : Nat) (step : Call.Step) :
  (s.settle i step).calls.length = s.calls.length
  := by
  obtain ⟨m, progress⟩ := step
  cases progress with
  | going c => exact List.length_set
  | done o => exact List.length_set

theorem call?_ask (s : Traffic) (r : Request) (j : Nat) :
  (s.step (.ask r)).call? j
    = if j = s.calls.length then some (r.call s.manager) else s.call? j
  := by
  rcases Nat.lt_trichotomy j s.calls.length with h | h | h
  · simp [step, call?, List.getElem?_append_left h, Nat.ne_of_lt h]
  · simp [step, call?, h]
  · have hj : ¬ j < s.calls.length := by omega
    have hn : j - s.calls.length ≠ 0 := by omega
    simp [step, call?, List.getElem?_append, hj, hn, Nat.ne_of_gt h]

theorem step_advance {s : Traffic} {i : Nat} {c : Call} (h : s.call? i = some c)
    (hr : c.isReady s.manager = true) :
  s.step (.advance i) = s.settle i (c.advance s.manager)
  := by
  simp only [step, h, hr, if_true]

/-- All that a move can do. -/
inductive Change (s : Traffic) : Move → Traffic → Prop where
  /-- Whoever was to go on has to wait. -/
  | idle (move : Move) : Change s move s
  | asked (r : Request) :
    Change s (.ask r) { s with calls := s.calls ++ [some (r.call s.manager)] }
  | advanced (i : Nat) (c : Call) (h : s.call? i = some c) (hr : c.isReady s.manager = true) :
    Change s (.advance i) (s.settle i (c.advance s.manager))
  | watched (k : Nat) (l : MonitorLoop) (h : s.manager.loops[k]? = some l)
      (hr : l.isReady s.manager.now = true) :
    Change s (.watch k) { s with manager := s.manager.advanceLoop l }
  | elapsed (time : Nat) :
    Change s (.elapse time)
      { s with manager := { s.manager with now := s.manager.now + time } }
  | planned (faults : Faults) :
    Change s (.plan faults)
      { s with
        manager := { s.manager with store := { s.manager.store with faults := faults } } }
  | meddled (store : MemoryStore) :
    Change s (.meddle store) { s with manager := { s.manager with store := store } }

theorem step_change (s : Traffic) (move : Move) :
  s.Change move (s.step move)
  := by
  cases move with
  | ask r => exact .asked r
  | advance i =>
    simp only [step]
    split
    · next c h =>
      split
      · next hr => exact .advanced i c h hr
      · exact .idle _
    · exact .idle _
  | watch k =>
    simp only [step]
    split
    · next l h =>
      split
      · next hr => exact .watched k l h hr
      · exact .idle _
    · exact .idle _
  | elapse time => exact .elapsed time
  | plan faults => exact .planned faults
  | meddle store => exact .meddled store

theorem Change.settings {s s' : Traffic} {move : Move} (h : s.Change move s') :
  s'.manager.settings = s.manager.settings
  := by
  cases h with
  | idle => rfl
  | asked r => rfl
  | advanced i c h hr =>
    rw [manager_settle]
    exact (c.effect_advance s.manager).settings
  | watched k l h hr => exact (s.manager.aside_advanceLoop l).settings
  | elapsed time => rfl
  | planned faults => rfl
  | meddled store => rfl

/-! ### A call between its steps -/

section

variable {s : Traffic} {i : Nat} {c : Call} {move : Move}

/-- Whether a move is a step of the call with the given number. -/
def Takes (i : Nat) (s : Traffic) (move : Move) : Prop :=
  move = .advance i ∧ ∃ c, s.call? i = some c ∧ c.isReady s.manager = true

/-- A call stays as it is until its next step. -/
theorem call?_beside (hc : s.call? i = some c) (h : ¬ s.Takes i move) :
  (s.step move).call? i = some c
  := by
  have hchange := s.step_change move
  generalize hs : s.step move = s' at hchange
  cases hchange with
  | asked r =>
    rw [← hs, call?_ask, if_neg (Nat.ne_of_lt (lt_length_of_call? hc))]
    exact hc
  | advanced j d hd hr =>
    have hne : j ≠ i := by
      rintro rfl
      exact h ⟨rfl, d, hd, hr⟩
    rw [call?_settle_of_ne s hne]
    exact hc
  | _ => exact hc

/-- A call that returned does nothing any more. -/
theorem call?_run_eq_none (hlt : i < s.calls.length) (h : s.call? i = none) (moves : List Move) :
  (s.run moves).call? i = none
  := by
  suffices hp : i < (s.run moves).calls.length ∧ (s.run moves).call? i = none from hp.2
  apply run_induction (P := fun s => i < s.calls.length ∧ s.call? i = none) ⟨hlt, h⟩
  rintro s move ⟨hlt, h⟩
  have hchange := s.step_change move
  generalize hs : s.step move = s' at hchange
  cases hchange with
  | asked r =>
    rw [← hs, call?_ask, if_neg (Nat.ne_of_lt hlt)]
    refine ⟨?_, h⟩
    rw [step, List.length_append]
    exact Nat.lt_add_right _ hlt
  | advanced j c hc hr =>
    have hne : j ≠ i := by
      rintro rfl
      cases h.symm.trans hc
    rw [length_calls_settle, call?_settle_of_ne s hne]
    exact ⟨hlt, h⟩
  | _ => exact ⟨hlt, h⟩

end

/-! ### What a run shows -/

section

variable {β : Type}

/-- What shows during a run, in order, where `f` says what a move shows. -/
def record (f : Traffic → Move → Option β) (s : Traffic) : List Move → List β
  | [] => []
  | move :: moves => (f s move).toList ++ (s.step move).record f moves

theorem record_append (f : Traffic → Move → Option β) (s : Traffic) (moves moves' : List Move) :
  s.record f (moves ++ moves') = s.record f moves ++ (s.run moves).record f moves'
  := by
  induction moves generalizing s with
  | nil => rfl
  | cons move moves ih => rw [List.cons_append, record, record, ih, run_cons, List.append_assoc]

theorem record_concat (f : Traffic → Move → Option β) (s : Traffic) (moves : List Move)
    (move : Move) :
  s.record f (moves ++ [move]) = s.record f moves ++ (f (s.run moves) move).toList
  := by
  rw [record_append, record, record, List.append_nil]

/-- What shows during a run is shown by one of its moves. -/
theorem exists_of_record {f : Traffic → Move → Option β} {s : Traffic} {moves : List Move}
    {before after : List β} {x : β} (h : s.record f moves = before ++ x :: after) :
  ∃ done move, done ++ [move] <+: moves ∧ s.record f done = before
    ∧ f (s.run done) move = some x
  := by
  induction moves using List.reverseRecOn generalizing after with
  | nil => simp [record] at h
  | append_singleton moves move ih =>
    rw [record_concat] at h
    cases hx : f (s.run moves) move with
    | none =>
      rw [hx, Option.toList_none, List.append_nil] at h
      obtain ⟨done, move', hp, hd⟩ := ih h
      exact ⟨done, move', hp.trans (List.prefix_append moves [move]), hd⟩
    | some y =>
      rw [hx, Option.toList_some] at h
      cases after using List.reverseRecOn with
      | nil =>
        obtain ⟨hb, hy⟩ := List.append_inj' h rfl
        cases hy
        exact ⟨moves, move, List.prefix_rfl, hb, hx⟩
      | append_singleton after z =>
        rw [← List.cons_append, ← List.append_assoc] at h
        obtain ⟨hb, -⟩ := List.append_inj' h rfl
        obtain ⟨done, move', hp, hd⟩ := ih hb
        exact ⟨done, move', hp.trans (List.prefix_append moves [move]), hd⟩

/-- What a move shows is part of what the run shows. -/
theorem record_of_prefix {f : Traffic → Move → Option β} {s : Traffic} {moves done : List Move}
    {move : Move} (hp : done ++ [move] <+: moves) {x : β} (h : f (s.run done) move = some x) :
  ∃ after, s.record f moves = s.record f done ++ x :: after
  := by
  obtain ⟨rest, rfl⟩ := hp
  use (s.run (done ++ [move])).record f rest
  rw [record_append, record_concat, h, Option.toList_some, List.append_assoc,
    List.singleton_append]

/-- What a move shows, where `f` says what shows of the step of a call with the given number. -/
def shown (f : Manager → Nat → Call → Option β) (s : Traffic) : Move → Option β
  | .advance i =>
    match s.call? i with
    | some c => if c.isReady s.manager then f s.manager i c else none
    | none => none
  | _ => none

theorem shown_advance (f : Manager → Nat → Call → Option β) {s : Traffic} {i : Nat} {c : Call}
    (h : s.call? i = some c) (hr : c.isReady s.manager = true) :
  s.shown f (.advance i) = f s.manager i c
  := by
  simp only [shown, h, hr, if_true]

/-- Only the step of a call that is ready shows anything. -/
theorem exists_of_shown {f : Manager → Nat → Call → Option β} {s : Traffic} {move : Move} {x : β}
    (h : s.shown f move = some x) :
  ∃ i c, move = .advance i ∧ s.call? i = some c ∧ c.isReady s.manager = true
    ∧ f s.manager i c = some x
  := by
  cases move with
  | advance i =>
    simp only [shown] at h
    split at h
    · next c hc =>
      split at h
      · next hr => exact ⟨i, c, rfl, hc, hr, h⟩
      · cases h
    · cases h
  | _ => cases h

theorem shown_of_ne (f : Manager → Nat → Call → Option β) (s : Traffic) {move : Move}
    (h : ∀ i, move ≠ .advance i) :
  s.shown f move = none
  := by
  cases move with
  | advance i => exact absurd rfl (h i)
  | _ => rfl

/-- Whoever has to wait does nothing, and nothing shows. -/
theorem step_advance_cases (f : Manager → Nat → Call → Option β) (s : Traffic) (i : Nat) :
  (s.step (.advance i) = s ∧ s.shown f (.advance i) = none)
    ∨ ∃ c, s.call? i = some c ∧ c.isReady s.manager = true
  := by
  cases hc : s.call? i with
  | none => simp [step, shown, hc]
  | some c =>
    cases hr : c.isReady s.manager with
    | false => simp [step, shown, hc, hr]
    | true => exact .inr ⟨c, rfl, hr⟩

/-- What the steps of the calls preserve, together with what they show, and all other moves, is
preserved by a run. -/
theorem record_induction {f : Manager → Nat → Call → Option β} {P : Traffic → List β → Prop}
    {s : Traffic} (h : P s []) (moves : List Move)
    (hadvance : ∀ s l i c, Move.advance i ∈ moves → P s l → s.call? i = some c →
      c.isReady s.manager = true →
        P (s.settle i (c.advance s.manager)) (l ++ (f s.manager i c).toList))
    (hothers : ∀ s l move, move ∈ moves → (∀ i, move ≠ .advance i) → P s l → P (s.step move) l) :
  P (s.run moves) (s.record (shown f) moves)
  := by
  -- The induction is on the moves made so far, which keep to the moves of the run.
  suffices hp : ∀ done, (∀ move ∈ done, move ∈ moves) → P (s.run done) (s.record (shown f) done) from
    hp moves fun move hm => hm
  intro done
  induction done using List.reverseRecOn with
  | nil =>
    intro hd
    exact h
  | append_singleton done move ih =>
    intro hd
    have hp := ih fun move hm => hd move (List.mem_append_left _ hm)
    have hmove := hd move (List.mem_append_right _ (List.mem_singleton.mpr rfl))
    rw [run_concat, record_concat]
    by_cases ha : ∃ i, move = .advance i
    · obtain ⟨i, rfl⟩ := ha
      rcases step_advance_cases f (s.run done) i with ⟨hs, hn⟩ | ⟨c, hc, hr⟩
      · rw [hs, hn, Option.toList_none, List.append_nil]
        exact hp
      · rw [step_advance hc hr, shown_advance f hc hr]
        exact hadvance _ _ i c hmove hp hc hr
    · have hn : ∀ i, move ≠ .advance i := fun i hm => ha ⟨i, hm⟩
      rw [shown_of_ne f _ hn, Option.toList_none, List.append_nil]
      exact hothers _ _ move hmove hn hp

end

end Traffic

end Storekeeper

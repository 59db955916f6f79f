import Storekeeper.Proofs.Manager.Traffic

/-!
# One call and the clock

How long a call takes is settled only if time passes for no other reason than that the call waits.
`Traffic.punctual` says so of a run: while the call can go on the clock stands still, and while it
waits the clock does not go beyond the time it waits for.  What others do in the meantime is left
open.  `Traffic.turns` are the steps of one call in a run, and all that happens between two of them
leaves the call as it is.
-/

namespace Storekeeper

/-- A step of a call: the call, with the manager before the step. -/
structure Turn where
  before : Manager
  call : Call

namespace Turn

/-- The manager after a step. -/
def after (t : Turn) : Manager := (t.call.advance t.before).1

/-- What a call returns with a step, if it returns. -/
def result? (t : Turn) : Option Outcome :=
  match (t.call.advance t.before).2 with
  | .going _ => none
  | .done o => some o

end Turn

namespace Probe

theorem isReady_of_alarm {probe : Probe} {due now : Nat} (h : probe.alarm = some due)
    (hnow : due ≤ now) :
  probe.isReady now = true
  := by
  cases probe with
  | ready => rfl
  | waiting ping =>
    cases h
    simpa [isReady] using hnow

end Probe

/-- A check that waits for a time can go on then. -/
theorem Check.isReady_of_alarm {check : Check} {due now : Nat} (h : check.alarm = some due)
    (hnow : due ≤ now) :
  check.isReady now = true
  := by
  cases check with
  | probing probe => exact Probe.isReady_of_alarm h hnow
  | settling status => rfl

/-- A call that waits for a time can go on then. -/
theorem Call.isReady_of_alarm {c : Call} {due : Nat} (h : c.alarm = some due) {m : Manager}
    (hnow : due ≤ m.now) :
  c.isReady m = true
  := by
  have hrun : ∀ {run : Run Nat}, run.alarm = some due → run.isReady m.now = true := by
    intro run h
    cases run with
    | sleeping r due' next =>
      cases h
      simp only [Run.isReady, Bool.or_eq_true, decide_eq_true_eq]
      omega
    | _ => cases h
  cases c with
  | connect announced phase =>
    cases phase with
    | probing a probe =>
      obtain ⟨due', hprobe, rfl⟩ := Option.map_eq_some_iff.mp h
      simp only [isReady, Connect.isReady, Bool.or_eq_true, decide_eq_true_eq]
      by_cases hdue : due' ≤ m.now
      · exact .inl (Probe.isReady_of_alarm hprobe hdue)
      · exact .inr (by omega)
    | pausing number failures due' =>
      cases h
      simpa [isReady, Connect.isReady] using hnow
    | _ => cases h
  | checkHealth check => exact Check.isReady_of_alarm h hnow
  | askStatus phase | ping phase => exact Probe.isReady_of_alarm h hnow
  | run phase | maintaining task phase => exact hrun h
  | sleep due' =>
    cases h
    simpa [isReady] using hnow
  | _ => cases h

namespace Traffic

/-- Whether the clock keeps to a call: time passes only while the call has to wait, and not beyond
the time that the call waits for. -/
def allows (i : Nat) (s : Traffic) : Move → Bool
  | .elapse time =>
    match s.call? i with
    | some c => !c.isReady s.manager && c.alarm.all fun due => s.manager.now + time ≤ due
    | none => true
  | _ => true

/-- Whether the clock keeps to the call with the given number during a run. -/
def punctual (i : Nat) (s : Traffic) : List Move → Bool
  | [] => true
  | move :: moves => s.allows i move && (s.step move).punctual i moves

/-- The steps of the call with the given number during a run. -/
def turns (i : Nat) (s : Traffic) (moves : List Move) : List Turn :=
  s.record (shown fun m j c => if j = i then some ⟨m, c⟩ else none) moves

variable {i : Nat} {s : Traffic} {c : Call} {move : Move} {moves : List Move}

theorem punctual_cons :
  s.punctual i (move :: moves) = true
    ↔ s.allows i move = true ∧ (s.step move).punctual i moves = true
  := by
  rw [punctual, Bool.and_eq_true]

/-- The step of a call is its first turn. -/
theorem turns_advance (hc : s.call? i = some c) (hr : c.isReady s.manager = true) :
  s.turns i (.advance i :: moves)
    = ⟨s.manager, c⟩ :: (s.settle i (c.advance s.manager)).turns i moves
  := by
  rw [turns, record, shown_advance _ hc hr, if_pos rfl, step_advance hc hr]
  rfl

theorem turns_beside (h : ¬ s.Takes i move) :
  s.turns i (move :: moves) = (s.step move).turns i moves
  := by
  have hn : s.shown (fun m j c => if j = i then some (⟨m, c⟩ : Turn) else none) move = none := by
    cases hx : s.shown (fun m j c => if j = i then some (⟨m, c⟩ : Turn) else none) move with
    | none => rfl
    | some t =>
      obtain ⟨j, c, rfl, hc, hr, hj⟩ := exists_of_shown hx
      split at hj
      · next hji =>
        subst hji
        exact absurd ⟨rfl, c, hc, hr⟩ h
      · cases hj
  rw [turns, record, hn]
  rfl

/-- Whoever returned makes no step any more. -/
theorem turns_of_call?_eq_none (hl : i < s.calls.length) (hc : s.call? i = none)
    (moves : List Move) :
  s.turns i moves = []
  := by
  cases h : s.turns i moves with
  | nil => rfl
  | cons t rest =>
    obtain ⟨done, move, -, -, hshown⟩ := exists_of_record (h.trans (List.nil_append _).symm)
    obtain ⟨j, c, -, hc', -, hj⟩ := exists_of_shown hshown
    split at hj
    · next hji =>
      subst hji
      cases (call?_run_eq_none hl hc done).symm.trans hc'
    · cases hj

/-- The clock stands still while a call can go on, and does not go beyond what it waits for. -/
theorem now_beside (hc : s.call? i = some c) (ha : s.allows i move = true) :
  (s.step move).manager.now = s.manager.now
    ∨ c.isReady s.manager = false ∧ ∀ due, c.alarm = some due → (s.step move).manager.now ≤ due
  := by
  have hchange := s.step_change move
  generalize s.step move = s' at hchange
  cases hchange with
  | elapsed time =>
    right
    simp only [allows, hc, Bool.and_eq_true, Bool.not_eq_true'] at ha
    refine ⟨ha.1, ?_⟩
    intro due hdue
    simpa [hdue] using ha.2
  | advanced j d hd hr =>
    left
    rw [manager_settle, (d.effect_advance s.manager).now]
  | watched k l hk hr =>
    left
    exact (s.manager.aside_advanceLoop l).now
  | _ => exact .inl rfl

/-- What the steps of a call preserve, and all that happens between them, holds while the call goes
on, and held before the step with which it returned. -/
theorem turns_induction {A : Move → Prop} {J : Traffic → Call → List Turn → Prop}
    (hbeside : ∀ s c l move, A move → J s c l → s.call? i = some c → ¬ s.Takes i move →
      s.allows i move = true → J (s.step move) c l)
    (hgoing : ∀ s c l c', J s c l → s.call? i = some c → c.isReady s.manager = true →
      (c.advance s.manager).2 = .going c' →
        J (s.settle i (c.advance s.manager)) c' (l ++ [⟨s.manager, c⟩]))
    {l : List Turn} (hc : s.call? i = some c) (h : J s c l) (moves : List Move)
    (hm : ∀ move ∈ moves, A move) (hp : s.punctual i moves = true) :
  (∃ c', (s.run moves).call? i = some c' ∧ J (s.run moves) c' (l ++ s.turns i moves))
    ∨ ∃ s' c' l' o, J s' c' l' ∧ c'.isReady s'.manager = true
      ∧ (c'.advance s'.manager).2 = .done o ∧ (s.run moves).call? i = none
      ∧ l ++ s.turns i moves = l' ++ [⟨s'.manager, c'⟩]
  := by
  induction moves generalizing s c l with
  | nil =>
    left
    rw [turns, record, List.append_nil]
    exact ⟨c, hc, h⟩
  | cons move moves ih =>
    obtain ⟨hmove, hrest⟩ := List.forall_mem_cons.mp hm
    obtain ⟨ha, hp⟩ := punctual_cons.mp hp
    by_cases ht : s.Takes i move
    · obtain ⟨rfl, d, hd, hr⟩ := ht
      cases hc.symm.trans hd
      rw [step_advance hc hr] at hp
      rw [turns_advance hc hr, run_cons, step_advance hc hr]
      cases hs : (c.advance s.manager).2 with
      | going c' =>
        have hc' := call?_settle_going (lt_length_of_call? hc) hs
        simpa using ih hc' (hgoing s c l c' h hc hr hs) hrest hp
      | done o =>
        right
        have hc' : (s.settle i (c.advance s.manager)).call? i = none := call?_settle_done hs
        have hl : i < (s.settle i (c.advance s.manager)).calls.length := by
          rw [length_calls_settle]
          exact lt_length_of_call? hc
        rw [turns_of_call?_eq_none hl hc']
        exact ⟨s, c, l, o, h, hr, hs, call?_run_eq_none hl hc' moves, rfl⟩
    · rw [turns_beside ht, run_cons]
      exact ih (call?_beside hc ht) (hbeside s c l move hmove h hc ht ha) hrest hp

theorem punctual_append (moves moves' : List Move) :
  s.punctual i (moves ++ moves') = (s.punctual i moves && (s.run moves).punctual i moves')
  := by
  induction moves generalizing s with
  | nil => rfl
  | cons move moves ih => rw [List.cons_append, punctual, punctual, ih, run_cons, Bool.and_assoc]

theorem turns_append (moves moves' : List Move) :
  s.turns i (moves ++ moves') = s.turns i moves ++ (s.run moves).turns i moves'
  := s.record_append _ moves moves'

/-- Where a call waits for nothing but time, the clock may go on until the call can. -/
theorem exists_isReady (hc : s.call? i = some c)
    (h : c.isReady s.manager = true ∨ ∃ due, c.alarm = some due) :
  ∃ more : List Move, (∀ move ∈ more, ∃ time, move = .elapse time)
    ∧ s.punctual i more = true ∧ (s.run more).call? i = some c
    ∧ c.isReady (s.run more).manager = true
  := by
  cases hr : c.isReady s.manager with
  | true => exact ⟨[], by simp, rfl, hc, hr⟩
  | false =>
    obtain ⟨due, hdue⟩ : ∃ due, c.alarm = some due := by simpa [hr] using h
    have hahead : s.manager.now ≤ due := by
      rw [← Nat.not_lt]
      intro hlt
      rw [c.isReady_of_alarm hdue (Nat.le_of_lt hlt)] at hr
      cases hr
    refine ⟨[.elapse (due - s.manager.now)], by simp, ?_, hc, ?_⟩
    · simp [punctual, allows, hc, hr, hdue, Nat.add_sub_cancel' hahead]
    · apply c.isReady_of_alarm hdue
      exact Nat.le_of_eq (Nat.add_sub_cancel' hahead).symm

/-- Time alone makes no step of a call. -/
theorem turns_of_elapse (moves : List Move) (h : ∀ move ∈ moves, ∃ time, move = .elapse time) :
  s.turns i moves = []
  := by
  induction moves generalizing s with
  | nil => rfl
  | cons move moves ih =>
    obtain ⟨⟨time, rfl⟩, hrest⟩ := List.forall_mem_cons.mp h
    have hbeside : ¬ s.Takes i (.elapse time) := fun ht => Move.noConfusion ht.1
    rw [turns_beside hbeside]
    exact ih hrest

/-- Whoever returned did so with one of its steps. -/
theorem exists_result (hc : s.call? i = some c) (hp : s.punctual i moves = true)
    (h : (s.run moves).call? i = none) :
  ∃ t ∈ s.turns i moves, t.result?.isSome = true
  := by
  have hcases := turns_induction (A := fun _ => True) (J := fun _ _ _ => True)
    (fun _ _ _ _ _ _ _ _ _ => trivial) (fun _ _ _ _ _ _ _ _ => trivial) (l := []) hc trivial moves
    (fun _ _ => trivial) hp
  rcases hcases with ⟨c', hc', -⟩ | ⟨s', c', l', o, -, -, hs, -, hturns⟩
  · rw [h] at hc'
    cases hc'
  · use ⟨s'.manager, c'⟩
    constructor
    · rw [← List.nil_append (s.turns i moves), hturns]
      exact List.mem_append_right _ List.mem_cons_self
    · rw [Turn.result?, hs]
      rfl

/-- A call that makes a bounded number of steps, and waits for nothing but time, can be brought to
return. -/
theorem exists_returned {A : Move → Prop} {bound : Nat} (hadvance : A (.advance i))
    (helapse : ∀ time, A (.elapse time))
    (hbound : ∀ moves, (∀ move ∈ moves, A move) → s.punctual i moves = true →
      (s.turns i moves).length ≤ bound)
    (halive : ∀ moves, (∀ move ∈ moves, A move) → s.punctual i moves = true →
      ∀ c, (s.run moves).call? i = some c →
        c.isReady (s.run moves).manager = true ∨ ∃ due, c.alarm = some due)
    (hc : s.call? i = some c) (moves : List Move) (hm : ∀ move ∈ moves, A move)
    (hp : s.punctual i moves = true) :
  ∃ more, (∀ move ∈ more, A move) ∧ s.punctual i (moves ++ more) = true
    ∧ ∃ t ∈ s.turns i (moves ++ more), t.result?.isSome = true
  := by
  -- The induction is on the number of steps that the call has left.
  induction hk : bound + 1 - (s.turns i moves).length generalizing moves with
  | zero =>
    have := hbound moves hm hp
    omega
  | succ k ih =>
    cases hc' : (s.run moves).call? i with
    | none =>
      rw [← List.append_nil moves] at hp hc'
      exact ⟨[], by simp, hp, exists_result hc hp hc'⟩
    | some c' =>
      obtain ⟨waiting, hwaiting, hp', hc', hr⟩ := exists_isReady hc' (halive moves hm hp c' hc')
      have hnext : ∀ move ∈ waiting ++ [.advance i], A move := by
        intro move hmove
        rcases List.mem_append.mp hmove with h | h
        · obtain ⟨time, rfl⟩ := hwaiting move h
          exact helapse time
        · rw [List.mem_singleton.mp h]
          exact hadvance
      have hpunctual : s.punctual i (moves ++ (waiting ++ [.advance i])) = true := by
        rw [punctual_append, punctual_append, hp, hp']
        rfl
      have hturns : (s.turns i (moves ++ (waiting ++ [.advance i]))).length
          = (s.turns i moves).length + 1 := by
        rw [turns_append, turns_append, turns_of_elapse waiting hwaiting, turns_advance hc' hr]
        simp [turns, record]
      obtain ⟨more, hmore, hp'', hresult⟩ := ih (moves ++ (waiting ++ [.advance i]))
        (List.forall_mem_append.mpr ⟨hm, hnext⟩) hpunctual (by omega)
      refine ⟨waiting ++ [.advance i] ++ more, List.forall_mem_append.mpr ⟨hnext, hmore⟩, ?_⟩
      rw [← List.append_assoc]
      exact ⟨hp'', hresult⟩

end Traffic

end Storekeeper

import Storekeeper.Proofs.Manager.Quiet

/-!
# One loop at a time

A call that establishes the connection starts a loop, unless one watches the connection already.
A loop that was told to stop does not count there, though it goes on until its probe is over; so
another one may be started beside it.  `Traffic.exclusive_iff` says when there is never more than
one: exactly when no loop is started while a call waits for the end of another one.
-/

namespace Storekeeper

/-- The ping of a loop that is in progress. -/
def MonitorLoop.ping? (l : MonitorLoop) : Option Ping :=
  match l.phase with
  | .checking _ (.probing (.waiting ping)) => some ping
  | _ => none

theorem Manager.length_loops_le {m m' : Manager} (h : m'.loopIds.Sublist m.loopIds) :
  m'.loops.length ≤ m.loops.length
  := by
  simpa [loopIds] using h.length_le

namespace Traffic

/-- There is at most one loop, and of the pings of the loops at most one is in progress. -/
structure Exclusive (s : Traffic) : Prop where
  loops : s.manager.loops.length ≤ 1
  pings : (s.manager.loops.filterMap (·.ping?)).length ≤ 1

/-- A loop has one ping in progress at most. -/
theorem exclusive_of_length_le {s : Traffic} (h : s.manager.loops.length ≤ 1) :
  s.Exclusive
  := ⟨h, Nat.le_trans (List.length_filterMap_le _ _) h⟩

/-- By what happens next a loop is started. -/
def Starts (s : Traffic) (b : Beat) : Prop :=
  s.manager.loops.length < (s.beat b).manager.loops.length

/-- Whatever happens next, a loop is started only if the connection is not being watched, and then
it is the only one that is started. -/
theorem length_loops_beat (s : Traffic) (b : Beat) :
  (s.beat b).manager.loops.length ≤ s.manager.loops.length
    ∨ s.manager.isMonitored = false
      ∧ (s.beat b).manager.loops.length = s.manager.loops.length + 1
  := by
  cases b with
  | tick k =>
    apply Or.inl
    rcases s.tick_cases k with hs | ⟨l, tick, next, -, -, hs⟩
    · exact Nat.le_of_eq (by rw [beat, hs])
    · have hids : (s.tick k).manager.loopIds = s.manager.loopIds := by
        rw [hs, Manager.loopIds_enter]
      exact Manager.length_loops_le (hids ▸ List.Sublist.refl _)
  | move move =>
    have hc := s.step_change move
    rw [beat]
    generalize s.step move = s' at hc
    cases hc with
    | advanced i c hc hr =>
      rw [manager_settle]
      cases hp : c.stopPhase? with
      | none =>
        cases Call.keeps_advance (m := s.manager) hp with
        | kept hl hm => exact .inl (Nat.le_of_eq (congrArg List.length hl))
        | started hn hl hm =>
          apply Or.inr
          use hn
          rw [hl, List.length_append, List.length_singleton]
      | some phase =>
        apply Or.inl
        rw [(Call.advance_stop hp).1]
        exact Manager.length_loops_le (phase.aside_advance s.manager).loops
    | watched k l hl hr =>
      exact .inl (Manager.length_loops_le (s.manager.aside_advanceLoop l).loops)
    | _ => exact .inl (Nat.le_refl _)

/-- There is never more than one loop, and never more than one ping of a loop in progress, exactly
if no loop is started while a call that stops to watch the connection waits for the end of another
one. -/
theorem exclusive_iff (settings : Settings) (chance : Chance) (now : Nat) (store : MemoryStore)
    (beats : List Beat) :
  (∀ done, done <+: beats → ((opened settings chance now store).play done).Exclusive)
    ↔ ∀ done b, done ++ [b] <+: beats →
      ((opened settings chance now store).play done).Starts b →
        ∀ i id, ((opened settings chance now store).play done).Awaits i id →
          ((opened settings chance now store).play done).manager.hasLoop id = false
  := by
  constructor
  · intro h done b hp hs i id ha
    have hl := (h (done ++ [b]) hp).loops
    rw [play_concat] at hl
    have hz : ((opened settings chance now store).play done).manager.loops.length = 0 :=
      Nat.lt_one_iff.mp (Nat.lt_of_lt_of_le hs hl)
    rw [Manager.hasLoop, List.eq_nil_of_length_eq_zero hz]
    rfl
  · intro h done hp
    apply exclusive_of_length_le
    -- The induction is on what has happened so far.
    induction done using List.reverseRecOn with
    | nil => exact Nat.zero_le 1
    | append_singleton done b ih =>
      have hbefore := ih ((List.prefix_append done [b]).trans hp)
      have hstarts := h done b hp
      have ht := tended_play (opened settings chance now store) rfl done
      rw [play_concat]
      generalize (opened settings chance now store).play done = s at hbefore hstarts ht
      rcases s.length_loops_beat b with hle | ⟨hm, heq⟩
      · exact Nat.le_trans hle hbefore
      · have hs : s.Starts b := Nat.lt_of_succ_le (Nat.le_of_eq heq.symm)
        rw [heq, ht.loops_eq_nil hm (hstarts hs)]
        exact Nat.le_refl 1

/-- Whether something happens in the use of a manager whose connection is established, given back
and no longer watched, and whose probes take more or less time. -/
def Beat.isUsual : Beat → Bool
  | .move (.ask .connect) | .move (.ask .disconnect) | .move (.ask .stopMonitor) => true
  | .move (.ask _) | .move (.meddle _) => false
  | .move (.plan faults) => faults == { latency := faults.latency }
  | .move (.advance _) | .move (.watch _) | .move (.elapse _) | .tick _ => true

/-- While a first caller waits for the end of a slow probe, a second one disconnects, a third one
connects, and the new loop pings the store before the probe is over. -/
def overtaking : List Beat :=
  watching ++ [.move (.plan {}), .move (.ask .stopMonitor), .move (.advance 1),
    .move (.ask .disconnect), .move (.advance 2), .move (.advance 2), .move (.ask .connect),
    .move (.advance 3), .move (.advance 3), .move (.advance 3), .move (.advance 3),
    .move (.advance 3), .move (.watch 1), .move (.elapse 10), .move (.watch 1),
    .move (.plan { latency := 20 }), .move (.watch 1)]

/-- Two loops ping the store at the same time after a connection was given back and established
again while the first of them was about to end. -/
theorem not_forall_exclusive :
  ¬ ∀ settings chance now store beats, settings.validate = .ok () → settings.isMonitored = true →
      (∀ b ∈ beats, b.isUsual = true) → ((opened settings chance now store).play beats).Exclusive
  := by
  intro h
  have he : (attentive.play overtaking).Exclusive := h _ _ _ _ overtaking rfl rfl (by decide)
  exact absurd he.pings (by decide)

end Traffic

end Storekeeper

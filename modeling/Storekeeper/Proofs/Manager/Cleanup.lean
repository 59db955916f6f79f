import Storekeeper.Proofs.Manager.Attempts

/-!
# After a failed connect

An attempt whose probe fails disconnects the store again.  One whose time is over is cut off where
it stands, and leaves the store as it is.  So a call that gives up may leave the store connected:
`Traffic.connected_iff_cutOff` says when it does, for a caller who connects alone.  It depends on
the last of the attempts for which the store was connected.
-/

namespace Storekeeper

namespace AttemptEnd

/-- Whether the last attempt that connected the store was cut off by its time limit. -/
def cutOff (endings : List AttemptEnd) : Bool :=
  (endings.filter fun e => e != refused).getLast? == some timedOut

theorem cutOff_concat (endings : List AttemptEnd) (e : AttemptEnd) :
  cutOff (endings ++ [e]) = if e = refused then cutOff endings else e == timedOut
  := by
  cases e with
  | refused => simp [cutOff]
  | succeeded | unanswered | timedOut => simp [cutOff]

end AttemptEnd

/-! ### The connection of the store -/

theorem MemoryStore.connected_connect (s : MemoryStore) :
  s.connect.2.connected = (s.faults.connect.text?.isNone || s.connected)
  := by
  unfold connect
  split
  · next h => simp [h]
  · next h => simp [h]

theorem Manager.connected_advanceLoop (m : Manager) (l : MonitorLoop) :
  (m.advanceLoop l).store.connected = m.store.connected
  := by
  obtain ⟨pings, metrics, state, loops, journal, h⟩ := m.advanceLoop_eq l
  rw [h]

namespace Connect

/-- Whether the attempt of a call has connected the store. -/
def holds : Connect → Bool
  | probing _ _ | closing _ _ | settling _ _ => true
  | _ => false

/-- Whether a call is about to give up. -/
def isDefeated : Connect → Bool
  | marking _ | counting _ => true
  | _ => false

theorem connected_probing (m : Manager) (a : Attempt) (probe : Probe) :
  ((probing a probe).store m).connected = m.store.connected
  := by
  simp only [store]
  split
  · obtain ⟨pings, h⟩ := probe.store_advance m
    rw [h]
  · rfl

theorem connected_closing (m : Manager) (a : Attempt) (e : Error) :
  ((closing a e).store m).connected = false
  := by
  rw [store, MemoryStore.disconnect_snd]

/-- What a call leaves after a step: a caller that gives up leaves the store connected if its last
attempt to connect it was cut off. -/
inductive Leaves (endings : List AttemptEnd) (state : ConnectionState) (connected : Bool) :
    Progress Connect (Except Error Unit) → Prop where
  | going {phase : Connect} (hs : phase.isDefeated = true → state = .failed)
      (h : connected = (phase.holds || AttemptEnd.cutOff endings)) :
    Leaves endings state connected (.going phase)
  | succeeded : Leaves endings state connected (.done (.ok ()))
  | gaveUp (e : Error) (hs : state = .failed) (h : connected = AttemptEnd.cutOff endings) :
    Leaves endings state connected (.done (.error e))

theorem Leaves.goesOn {endings : List AttemptEnd} {state : ConnectionState} {connected : Bool}
    {phase : Connect} (hp : phase.isDefeated = false)
    (h : connected = (phase.holds || AttemptEnd.cutOff endings)) :
  Leaves endings state connected (.going phase)
  := .going (fun hd => absurd hd (Bool.eq_false_iff.mp hp)) h

theorem leaves_of_aftermath {m : Manager} {a : Attempt} {state : ConnectionState}
    {p : Progress Connect (Except Error Unit)} (hf : m.Aftermath a state p)
    {endings : List AttemptEnd} {connected : Bool} (h : connected = AttemptEnd.cutOff endings) :
  Leaves endings state connected p
  := by
  cases hf with
  | retried hn failures due => exact .goesOn rfl h
  | surrendered e => exact .going (fun _ => rfl) h
  | crashed hn => exact .goesOn rfl h

theorem leaves_advance {m : Manager} {phase : Connect} {endings : List AttemptEnd}
    (hs : phase.isDefeated = true → m.state = .failed)
    (h : m.store.connected = (phase.holds || AttemptEnd.cutOff endings)) :
  Leaves (endings ++ (phase.ending? m).toList) (phase.advance m).1.state
    (phase.store m).connected (phase.advance m).2
  := by
  have he := phase.effect_advance m
  generalize (phase.advance m).1.state = state at he ⊢
  generalize (phase.advance m).2 = p at he ⊢
  generalize phase.ending? m = ending at he ⊢
  cases he with
  | arrived | begun | resumed | crashed =>
    rw [Option.toList_none, List.append_nil]
    exact .goesOn rfl h
  | shared | established => exact .succeeded
  | opened hn =>
    apply Leaves.goesOn rfl
    rw [store, MemoryStore.connected_connect, hn]
    rfl
  | refused hn hf =>
    apply leaves_of_aftermath hf
    rw [store, MemoryStore.connected_connect, Option.isNone_eq_false_iff.mpr hn, h,
      Option.toList_some, AttemptEnd.cutOff_concat]
    rfl
  | probed | failed | succeeded =>
    apply Leaves.goesOn rfl
    rw [connected_probing, h]
    rfl
  | marked =>
    rw [Option.toList_none, List.append_nil]
    exact .going hs h
  | gaveUp =>
    rw [Option.toList_none, List.append_nil]
    exact .gaveUp _ (hs rfl) h
  | timedOut hf =>
    apply leaves_of_aftermath hf
    rw [connected_probing, h, Option.toList_some, AttemptEnd.cutOff_concat]
    rfl
  | closed hf =>
    apply leaves_of_aftermath hf
    rw [connected_closing, Option.toList_some, AttemptEnd.cutOff_concat]
    rfl

end Connect

/-! ### A caller alone -/

namespace Traffic

/-- Whether a move is one of the call with the given number, of a loop or of the surroundings, which
leave the store to the manager. -/
def Move.isSolo (i : Nat) : Move → Bool
  | .advance j => j == i
  | .watch _ | .elapse _ | .plan _ => true
  | .ask _ | .meddle _ => false

/-- The store is connected as far as the call with the given number connected it, where `endings` is
how its attempts ended, and the connection has failed if the call is about to give up. -/
def Alone (i : Nat) (s : Traffic) (endings : List AttemptEnd) : Prop :=
  ∀ c, s.call? i = some c → ∃ announced phase, c = .connect announced phase
    ∧ (phase.isDefeated = true → s.manager.state = .failed)
    ∧ s.manager.store.connected = (phase.holds || AttemptEnd.cutOff endings)

namespace Alone

variable {i : Nat} {s : Traffic} {endings : List AttemptEnd}

theorem advance (h : Alone i s endings) {c : Call} (hc : s.call? i = some c) :
  Alone i (s.settle i (c.advance s.manager)) (endings ++ (c.ending? s.manager).toList)
  := by
  intro c' hc'
  obtain ⟨announced, phase, rfl, hs, hconn⟩ := h c hc
  have hl := Connect.leaves_advance hs hconn
  obtain ⟨phase', hp, rfl⟩ := Call.going_lift (going_of_call?_settle hc')
  use announced, phase', rfl
  rw [manager_settle, Call.store_connect, Call.state_connect]
  rw [hp] at hl
  cases hl with
  | going hg hconn' => exact ⟨hg, hconn'⟩

theorem beside (h : Alone i s endings) {move : Move} (hm : move.isSolo i = true)
    (hn : ∀ j, move ≠ .advance j) :
  Alone i (s.step move) endings
  := by
  have hc := s.step_change move
  generalize s.step move = s' at hc
  cases hc with
  | idle => exact h
  | asked r => cases hm
  | advanced j c hc hr => exact absurd rfl (hn j)
  | watched k l hk hr =>
    intro c hc
    obtain ⟨announced, phase, rfl, hs, hconn⟩ := h c hc
    refine ⟨announced, phase, rfl, ?_, (s.manager.connected_advanceLoop l).trans hconn⟩
    intro hd
    have hup : s.manager.state.isUp = false := by rw [hs hd]; rfl
    exact ((s.manager.aside_advanceLoop l).vitals.state hup).trans (hs hd)
  | elapsed time => exact h
  | planned faults => exact h
  | meddled store => cases hm

end Alone

theorem alone_run {s : Traffic} (hd : s.manager.store.connected = false) {moves : List Move}
    (hm : ∀ move ∈ moves, move.isSolo s.calls.length = true) :
  Alone s.calls.length (s.run (.ask .connect :: moves)) (s.endings (.ask .connect :: moves))
  := by
  rw [run_cons]
  apply record_induction (s := s.step (.ask .connect)) (P := Alone s.calls.length)
  · intro c hc
    rw [call?_ask, if_pos rfl] at hc
    cases hc
    exact ⟨false, .arriving, rfl, nofun, hd⟩
  · intro s' l i c hmem h hc hr
    have hi : i = s.calls.length := by simpa [Move.isSolo] using hm _ hmem
    subst hi
    exact h.advance hc
  · intro s' l move hmem hn h
    exact h.beside (hm move hmem) hn

/-- If a caller who connects alone gives up, the connection has failed, and the store is connected
exactly if the last of the attempts that connected it was cut off by its time limit. -/
theorem connected_iff_cutOff (s : Traffic) (moves : List Move) (e : Error)
    (hd : s.manager.store.connected = false)
    (hm : ∀ move ∈ moves, move.isSolo s.calls.length = true)
    (h : (s.run (.ask .connect :: moves)).outcome? s.calls.length
      = some (.connected (.error e))) :
  ((s.run (.ask .connect :: moves)).step (.advance s.calls.length)).manager.state = .failed
    ∧ (((s.run (.ask .connect :: moves)).step (.advance s.calls.length)).manager.store.connected
        = true
      ↔ AttemptEnd.cutOff (s.endings (.ask .connect :: moves ++ [.advance s.calls.length]))
        = true)
  := by
  have ha := alone_run hd hm
  obtain ⟨c, hc, hr, ho⟩ := outcome?_eq_some_iff.mp h
  obtain ⟨announced, phase, rfl, hs, hconn⟩ := ha c hc
  have hl := Connect.leaves_advance hs hconn
  obtain ⟨r, hp, hr'⟩ := Call.done_connect ho
  cases hr'
  rw [endings, record_concat, shown_advance _ hc hr, step_advance hc hr, manager_settle,
    Call.state_connect, Call.store_connect]
  rw [hp] at hl
  cases hl with
  | gaveUp e hs hg =>
    use hs
    rw [hg]
    rfl

/-- A new manager of a store whose probes fail. -/
def dismissed : Traffic :=
  opened { url := "memory://localhost/projects", environment := .test, maxRetries := 1 }
    { draw := fun _ => 0, name := fun _ => "" } 0 { faults := { ping := some "pool is draining" } }

/-- A caller whose only attempt fails with its probe leaves the store disconnected. -/
theorem disconnected_of_dismissed :
  (dismissed.run (.ask .connect :: List.replicate 6 (.advance 0))).outcome? 0
      = some (.connected (.error (.connection 1)))
    ∧ ((dismissed.run (.ask .connect :: List.replicate 6 (.advance 0))).step
        (.advance 0)).manager.store.connected = false
  := by
  have h : (dismissed.run (.ask .connect :: List.replicate 6 (.advance 0))).outcome? 0
      = some (.connected (.error (.connection 1))) := rfl
  use h
  rw [← Bool.not_eq_true]
  intro hc
  have hcut := (dismissed.connected_iff_cutOff _ _ rfl (by decide) h).2.mp hc
  exact absurd hcut (by decide)

/-- A new manager of a store whose probes take longer than an attempt may. -/
def sluggish : Traffic :=
  opened
    { url := "memory://localhost/projects", environment := .test, maxRetries := 1
      connectTimeout := 50 }
    { draw := fun _ => 0, name := fun _ => "" } 0 { faults := { latency := 100 } }

/-- An attempt that is cut off during its probe leaves the store connected, though the caller gives
up. -/
theorem not_forall_disconnected :
  ¬ ∀ (s : Traffic) (moves : List Move) (e : Error), s.manager.store.connected = false →
      (∀ move ∈ moves, move.isSolo s.calls.length = true) →
        (s.run (.ask .connect :: moves)).outcome? s.calls.length
            = some (.connected (.error e)) →
          ((s.run (.ask .connect :: moves)).step
            (.advance s.calls.length)).manager.store.connected = false
  := by
  intro h
  have hd := h sluggish (List.replicate 4 (.advance 0) ++ [.elapse 50, .advance 0, .advance 0])
    (.connection 1) rfl (by decide) rfl
  exact absurd hd (by decide)

end Traffic

end Storekeeper

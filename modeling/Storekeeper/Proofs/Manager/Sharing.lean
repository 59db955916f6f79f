import Storekeeper.Proofs.Manager.Attempts
import Storekeeper.Proofs.Manager.Turns

/-!
# Callers that connect together

As long as nobody disconnects, all callers that connect make one connection between them: they
make their attempts one after another, at most one attempt in all succeeds, and whoever has not
returned by then returns without touching the store.  The invariant is `Traffic.Together`: while a
caller makes attempts the connection is not established, and a caller whose attempt has succeeded
establishes it with its next step.
-/

namespace Storekeeper

/-- Whether a request is one to disconnect. -/
def Request.isToDisconnect : Request → Bool
  | stop | disconnect => true
  | _ => false

/-- Whether a call disconnects, or is going to. -/
def Call.isToDisconnect : Call → Bool
  | stop | disconnect _ _ => true
  | _ => false

theorem Call.isToDisconnect_of_going {m : Manager} {c c' : Call}
    (h : (c.advance m).2 = .going c') (hc : c.isToDisconnect = false) :
  c'.isToDisconnect = false
  := by
  cases goesOn_of_going h with
  | stop => cases hc
  | disconnect announced hp => cases hc
  | _ => rfl

/-! ### Whether the connection is established -/

/-- No probe establishes a connection or gives it up. -/
theorem Manager.News.isUp {m : Manager} {v : Vitals} (h : m.News v) :
  v.state.isUp = m.state.isUp
  := by
  cases h with
  | settled status =>
    change (if m.state.isUp then _ else m.state).isUp = m.state.isUp
    split
    · next hu => rw [HealthStatus.isUp_connectionState, hu]
    · rfl
  | _ => rfl

theorem Manager.Aside.isUp {m m' : Manager} (h : m.Aside m') :
  m'.state.isUp = m.state.isUp
  := h.vitals.isUp

theorem Manager.Aftermath.isUp {m : Manager} {a : Attempt} {state : ConnectionState}
    {p : Progress Connect (Except Error Unit)} (h : m.Aftermath a state p)
    (hm : m.state.isUp = false) :
  state.isUp = false
  := by
  cases h with
  | surrendered e => rfl
  | _ => exact hm

theorem Manager.Aftermath.ne_settling {m : Manager} {a a' : Attempt} {state : ConnectionState}
    {p : Progress Connect (Except Error Unit)} (h : m.Aftermath a state p) (latency : Nat) :
  p ≠ .going (.settling a' latency)
  := by
  cases h with | _ => simp

namespace Connect

variable {m : Manager} {phase : Connect} {ending : Option AttemptEnd} {state : ConnectionState}
    {p : Progress Connect (Except Error Unit)}

/-- How a step bears on the success of a caller: its attempt succeeds by it, it establishes the
connection, or neither. -/
inductive Bearing (m : Manager) : Connect → Option AttemptEnd → ConnectionState →
    Progress Connect (Except Error Unit) → Prop where
  | succeeds {a : Attempt} {probe : Probe} (latency : Nat) :
    Bearing m (probing a probe) (some .succeeded) m.state (.going (.settling a latency))
  | establishes {a : Attempt} {latency : Nat} {state : ConnectionState} (h : state.isUp = true) :
    Bearing m (settling a latency) none state (.done (.ok ()))
  | neither {phase : Connect} {ending : Option AttemptEnd} {state : ConnectionState}
      {p : Progress Connect (Except Error Unit)} (hb : ∀ a latency, phase ≠ settling a latency)
      (hp : ∀ a latency, p ≠ .going (.settling a latency)) (he : ending ≠ some .succeeded)
      (hs : state.isUp = m.state.isUp) :
    Bearing m phase ending state p

theorem Effect.bearing (he : phase.Effect m ending state p)
    (ha : phase.isActive = true → m.state.isUp = false) :
  phase.Bearing m ending state p
  := by
  cases he with
  | succeeded latency => exact .succeeds latency
  | established status => exact .establishes status.isUp_connectionState
  | begun h => exact .neither nofun (by simp) nofun h.symm
  | refused h hf =>
    exact .neither nofun (fun a => hf.ne_settling) nofun ((hf.isUp (ha rfl)).trans (ha rfl).symm)
  | timedOut hf | closed hf =>
    exact .neither nofun (fun a => hf.ne_settling) nofun ((hf.isUp (ha rfl)).trans (ha rfl).symm)
  | _ => exact .neither nofun (by simp) nofun rfl

/-- Whoever goes on with its attempts has no connection yet. -/
theorem Effect.isUp_of_going {phase' : Connect} (he : phase.Effect m ending state (.going phase'))
    (ha : phase.isActive = true → m.state.isUp = false) (ha' : phase'.isActive = true) :
  state.isUp = false
  := by
  cases he with
  | arrived | crashed => cases ha'
  | begun h => rfl
  | refused h hf => exact hf.isUp (ha rfl)
  | timedOut hf | closed hf => exact hf.isUp (ha rfl)
  | _ => exact ha rfl

/-- Whoever has its turn while the connection is established returns at once. -/
theorem advance_waiting (h : m.state.isUp = true) (t : Nat) :
  ∃ journal, (waiting t).advance m
    = ({ m with queue := m.queue.tail, journal := journal }, .done (.ok ()))
  := by
  simp only [advance, Manager.takeTurn, h, if_true]
  exact ⟨_, rfl⟩

end Connect

/-- Whoever does not make attempts leaves the store alone. -/
theorem Connect.store_of_inactive (m : Manager) (phase : Connect) (h : phase.isActive = false) :
  phase.store m = m.store
  := by
  cases phase with
  | arriving | waiting t | crashed => rfl
  | _ => cases h

/-- Who does not connect leaves the connection as it is, or gives it back. -/
theorem Call.isUp_advance {m : Manager} {c : Call}
    (hn : ∀ announced phase, c ≠ .connect announced phase) :
  (c.advance m).1.state.isUp = m.state.isUp
    ∨ c.isToDisconnect = true ∧ (c.advance m).1.state.isUp = false
  := by
  have he := c.effect_advance m
  generalize (c.advance m).1 = m' at he
  cases he with
  | aside h ha => exact .inl ha.isUp
  | arrived announced => exact absurd rfl (hn announced .arriving)
  | pursued announced h hp journal => exact absurd rfl (hn announced _)
  | released announced journal => exact .inr ⟨rfl, rfl⟩

/-! ### Callers in their turn -/

namespace Traffic

/-- The callers that connect keep to their turns, and whoever makes attempts has no connection
yet. -/
structure Orderly (s : Traffic) : Prop where
  line : ∃ line, s.Line line
  active : ∀ i phase, s.turn? i = some phase → phase.isActive = true →
    s.manager.state.isUp = false

namespace Orderly

variable {s s' : Traffic}

/-- Who does not connect leaves the others to their turns. -/
theorem active_aside (h : s.Orderly) {i : Nat} {c : Call} (hc : s.call? i = some c)
    (hn : ∀ announced phase, c ≠ .connect announced phase) (j : Nat) (phase : Connect)
    (hp : (s.settle i (c.advance s.manager)).turn? j = some phase) (ha : phase.isActive = true) :
  (s.settle i (c.advance s.manager)).manager.state.isUp = false
  := by
  rw [turn?_settle hc hn] at hp
  rw [manager_settle]
  rcases Call.isUp_advance (m := s.manager) hn with hu | ⟨-, hu⟩
  · exact hu.trans (h.active j phase hp ha)
  · exact hu

theorem not_isUp (h : s.Orderly) {i : Nat} {announced : Bool} {phase : Connect}
    (hc : s.call? i = some (.connect announced phase)) (ha : phase.isActive = true) :
  s.manager.state.isUp = false
  := by
  apply h.active i phase _ ha
  rw [turn?, hc]
  apply Call.turn?_connect
  · rintro rfl
    cases ha
  · rintro rfl
    cases ha

/-- A caller that connects goes on only in its turn. -/
theorem active_connect (h : s.Orderly) {i : Nat} {announced : Bool} {phase : Connect}
    (hc : s.call? i = some (.connect announced phase)) (hr : phase.isReady s.manager = true)
    (j : Nat) (phase' : Connect)
    (hp' : (s.settle i ((Call.connect announced phase).advance s.manager)).turn? j = some phase')
    (ha' : phase'.isActive = true) :
  (s.settle i ((Call.connect announced phase).advance s.manager)).manager.state.isUp = false
  := by
  rw [manager_settle, Call.state_connect]
  by_cases hij : i = j
  · subst hij
    obtain ⟨announced', hc', -⟩ := turn?_eq_some hp'
    obtain ⟨phase'', hs, hcall⟩ := Call.going_lift (going_of_call?_settle hc')
    cases hcall
    have he := phase.effect_advance s.manager
    rw [hs] at he
    exact he.isUp_of_going (h.not_isUp hc) ha'
  · -- While another caller has its turn, this one can only arrive.
    rw [turn?_settle_of_ne s hij] at hp'
    by_cases harr : phase = .arriving
    · subst harr
      exact h.active j phase' hp' ha'
    · obtain ⟨line, hl⟩ := h.line
      obtain ⟨t, rest, rfl, -⟩ := hl.eq_cons hc harr hr
      obtain ⟨t', ht'⟩ := hl.active j phase' hp' ha'
      cases ht'
      exact absurd rfl hij

theorem change (h : s.Orderly) {move : Move} (hc : s.Change move s') :
  s'.Orderly
  := by
  have hl := hc.line h.line
  cases hc with
  | asked r =>
    refine ⟨hl, ?_⟩
    intro i phase hp ha
    rw [← step, turn?_ask] at hp
    exact h.active i phase hp ha
  | advanced i c hc hr =>
    refine ⟨hl, ?_⟩
    by_cases hn : ∀ announced phase, c ≠ .connect announced phase
    · exact h.active_aside hc hn
    · push Not at hn
      obtain ⟨announced, phase, rfl⟩ := hn
      exact h.active_connect hc hr
  | watched k l hk hr =>
    refine ⟨hl, ?_⟩
    intro i phase hp ha
    exact (s.manager.aside_advanceLoop l).isUp.trans (h.active i phase hp ha)
  | _ => exact ⟨hl, h.active⟩

end Orderly

theorem orderly_run (first : Traffic) (hc : first.calls = []) (hq : first.manager.queue = [])
    (moves : List Move) :
  (first.run moves).Orderly
  := by
  apply run_induction
  · refine ⟨exists_line hc hq [], ?_⟩
    simp [turn?, call?, hc]
  · intro s move h
    exact h.change (s.step_change move)

/-! ### The invariant -/

/-- Whether a move is anything but a request to disconnect. -/
def Move.isToStay : Move → Bool
  | .ask r => !r.isToDisconnect
  | _ => true

/-- How many attempts have succeeded: none, or one whose caller is about to establish the connection
or has done so. -/
inductive Won (s : Traffic) : Nat → Prop where
  | nobody (hu : s.manager.state.isUp = false)
      (h : ∀ i a latency, s.turn? i ≠ some (.settling a latency)) : Won s 0
  | about {i latency : Nat} {a : Attempt} (h : s.turn? i = some (.settling a latency)) : Won s 1
  | established (hu : s.manager.state.isUp = true) : Won s 1

namespace Won

variable {s s' : Traffic} {n : Nat}

theorem le_one (h : s.Won n) :
  n ≤ 1
  := by
  cases h with
  | nobody => exact Nat.zero_le 1
  | _ => exact Nat.le_refl 1

/-- Nothing changes as long as nobody is newly about to establish the connection. -/
theorem congr (h : s.Won n) (hu : s'.manager.state.isUp = s.manager.state.isUp)
    (ht : ∀ i a latency, s'.turn? i = some (.settling a latency)
      ↔ s.turn? i = some (.settling a latency)) :
  s'.Won n
  := by
  cases h with
  | nobody hn h =>
    exact .nobody (hu.trans hn) fun i a latency hi => h i a latency ((ht _ _ _).mp hi)
  | about h => exact .about ((ht _ _ _).mpr h)
  | established he => exact .established (hu.trans he)

end Won

/-- After a step of a call that was not about to establish the connection and is not now, the same
calls are about to do so as before. -/
theorem turn?_settling_settle {s : Traffic} {i : Nat} {announced : Bool} {phase : Connect}
    (hc : s.call? i = some (.connect announced phase))
    (hb : ∀ a latency, phase ≠ .settling a latency)
    (hp : ∀ a latency, (phase.advance s.manager).2 ≠ .going (.settling a latency)) (j : Nat)
    (a : Attempt) (latency : Nat) :
  (s.settle i ((Call.connect announced phase).advance s.manager)).turn? j
      = some (.settling a latency)
    ↔ s.turn? j = some (.settling a latency)
  := by
  by_cases hij : i = j
  · subst hij
    constructor
    case mp =>
      intro ht
      obtain ⟨announced', hc', -⟩ := turn?_eq_some ht
      obtain ⟨phase', hs, hcall⟩ := Call.going_lift (going_of_call?_settle hc')
      cases hcall
      exact absurd hs (hp a latency)
    case mpr =>
      intro ht
      obtain ⟨announced', hc', -⟩ := turn?_eq_some ht
      cases hc.symm.trans hc'
      exact absurd rfl (hb a latency)
  · rw [turn?_settle_of_ne s hij]

/-- The callers make one connection between them, where `endings` is how their attempts ended. -/
structure Together (s : Traffic) (endings : List AttemptEnd) : Prop extends s.Orderly where
  stays : ∀ i c, s.call? i = some c → c.isToDisconnect = false
  successes : s.Won (endings.count .succeeded)

namespace Together

variable {s : Traffic} {endings : List AttemptEnd}

theorem stays_settle (h : s.Together endings) {i : Nat} {c : Call} (hc : s.call? i = some c)
    (j : Nat) (c' : Call) (hc' : (s.settle i (c.advance s.manager)).call? j = some c') :
  c'.isToDisconnect = false
  := by
  by_cases hij : i = j
  · subst hij
    exact Call.isToDisconnect_of_going (going_of_call?_settle hc') (h.stays i c hc)
  · rw [call?_settle_of_ne s hij] at hc'
    exact h.stays j c' hc'

/-- A step of a call that does not connect. -/
theorem advance_aside (h : s.Together endings) {i : Nat} {c : Call} (hc : s.call? i = some c)
    (hr : c.isReady s.manager = true) (hn : ∀ announced phase, c ≠ .connect announced phase) :
  (s.settle i (c.advance s.manager)).Together (endings ++ (c.ending? s.manager).toList)
  := by
  have he : c.ending? s.manager = none := by
    cases c with
    | connect announced phase => exact absurd rfl (hn announced phase)
    | _ => rfl
  constructor
  case toOrderly => exact h.toOrderly.change (.advanced i c hc hr)
  case stays => exact h.stays_settle hc
  case successes =>
    rw [he, Option.toList_none, List.append_nil]
    apply h.successes.congr
    · rw [manager_settle]
      rcases Call.isUp_advance (m := s.manager) hn with hu | ⟨hd, -⟩
      · exact hu
      · cases (h.stays i c hc).symm.trans hd
    · intro j a latency
      rw [turn?_settle hc hn]

/-- What a step of a call that connects adds to the successes. -/
theorem won_connect (h : s.Together endings) {i : Nat} {announced : Bool} {phase : Connect}
    (hc : s.call? i = some (.connect announced phase)) {ending : Option AttemptEnd}
    (hb : phase.Bearing s.manager ending (phase.advance s.manager).1.state
      (phase.advance s.manager).2) :
  (s.settle i ((Call.connect announced phase).advance s.manager)).Won
    ((endings ++ ending.toList).count .succeeded)
  := by
  have hm : (s.settle i ((Call.connect announced phase).advance s.manager)).manager.state
      = (phase.advance s.manager).1.state := by
    rw [manager_settle, Call.state_connect]
  have hgoing : ∀ phase', (phase.advance s.manager).2 = .going phase' →
      (s.settle i ((Call.connect announced phase).advance s.manager)).call? i
        = some (.connect announced phase') := by
    intro phase' hp
    exact call?_settle_going (lt_length_of_call? hc) (Call.connect_advance_going hp announced)
  have hown : s.turn? i = (Call.connect announced phase).turn? := by
    rw [turn?, hc]
    rfl
  have hother := turn?_settling_settle hc
  generalize (phase.advance s.manager).1.state = state at hb hm
  generalize (phase.advance s.manager).2 = p at hb hgoing hother
  obtain ⟨line, hl⟩ := h.line
  have hw := h.successes
  generalize hn : endings.count .succeeded = n at hw
  cases hb with
  | succeeds latency =>
    have hup : s.manager.state.isUp = false := h.active i _ hown rfl
    rw [Option.toList_some, List.count_append, hn]
    cases hw with
    | nobody hu h =>
      have ht := congrArg (Option.bind · Call.turn?) (hgoing _ rfl)
      exact .about ht
    | about hj =>
      -- Whoever is about to establish the connection has its turn, and nobody else has.
      cases hl.active_unique hj rfl hown rfl
      cases hj.symm.trans hown
    | established hu => cases hup.symm.trans hu
  | establishes hs =>
    rw [Option.toList_none, List.append_nil, hn]
    have hu := hm.symm ▸ hs
    cases hw with
    | nobody hnot h => exact absurd hown (h i _ _)
    | _ => exact .established hu
  | neither hb hnot he hs =>
    have hcount : (endings ++ ending.toList).count .succeeded = n := by
      rw [List.count_append, hn]
      cases ending with
      | none => rfl
      | some e =>
        have he : e ≠ .succeeded := fun h => he (congrArg some h)
        simp [he]
    rw [hcount]
    apply hw.congr
    · rw [hm, hs]
    · exact hother hb hnot

/-- A step of a call that connects. -/
theorem advance_connect (h : s.Together endings) {i : Nat} {announced : Bool} {phase : Connect}
    (hc : s.call? i = some (.connect announced phase))
    (hr : phase.isReady s.manager = true) :
  (s.settle i ((Call.connect announced phase).advance s.manager)).Together
    (endings ++ (phase.ending? s.manager).toList)
  where
  toOrderly := h.toOrderly.change (.advanced i _ hc hr)
  stays := h.stays_settle hc
  successes := h.won_connect hc ((phase.effect_advance s.manager).bearing (h.not_isUp hc))

theorem advance (h : s.Together endings) {i : Nat} {c : Call} (hc : s.call? i = some c)
    (hr : c.isReady s.manager = true) :
  (s.settle i (c.advance s.manager)).Together (endings ++ (c.ending? s.manager).toList)
  := by
  by_cases hn : ∀ announced phase, c ≠ .connect announced phase
  · exact h.advance_aside hc hr hn
  · push Not at hn
    obtain ⟨announced, phase, rfl⟩ := hn
    exact h.advance_connect hc hr

theorem ask (h : s.Together endings) {r : Request} (hr : r.isToDisconnect = false) :
  (s.step (.ask r)).Together endings
  := by
  constructor
  case toOrderly => exact h.toOrderly.change (.asked r)
  case stays =>
    intro i c hc
    rw [call?_ask] at hc
    split at hc
    · cases hc
      cases r with
      | stop | disconnect => cases hr
      | _ => rfl
    · exact h.stays i c hc
  case successes =>
    apply Won.congr h.successes
    · rfl
    · intro i a latency
      rw [turn?_ask]

theorem beside (h : s.Together endings) {move : Move} (hm : move.isToStay = true)
    (hn : ∀ i, move ≠ .advance i) :
  (s.step move).Together endings
  := by
  have hc := s.step_change move
  have ho := h.toOrderly.change hc
  generalize s.step move = s' at hc ho
  cases hc with
  | idle => exact h
  | asked r => exact h.ask (by simpa [Move.isToStay] using hm)
  | advanced i c hc hr => exact absurd rfl (hn i)
  | watched k l hk hr =>
    exact ⟨ho, h.stays, h.successes.congr (s.manager.aside_advanceLoop l).isUp fun i a latency =>
      Iff.rfl⟩
  | _ => exact ⟨ho, h.stays, h.successes.congr rfl fun i a latency => Iff.rfl⟩

end Together

theorem together_run (first : Traffic) (hc : first.calls = []) (hq : first.manager.queue = [])
    (hs : first.manager.state.isUp = false) {moves : List Move}
    (hm : ∀ move ∈ moves, move.isToStay = true) :
  (first.run moves).Together (first.endings moves)
  := by
  apply record_induction (P := Together)
  · have hn : ∀ i, first.call? i = none := by
      intro i
      simp [call?, hc]
    constructor
    case toOrderly => exact orderly_run first hc hq []
    case stays => simp [hn]
    case successes => exact .nobody hs (by simp [turn?, hn])
  · intro s l i c _ h hc hr
    exact h.advance hc hr
  · intro s l move hmem hn h
    exact h.beside (hm move hmem) hn

/-! ### Once an attempt has succeeded -/

/-- The call with the given number only has to wait for its turn to return without an error, and
leaves the store alone. -/
structure Served (s : Traffic) (i : Nat) : Prop where
  store : (s.step (.advance i)).manager.store = s.manager.store
  ok : ∀ o, s.outcome? i = some o → o.connection? = some (.ok ())
  returns : ∃ turns : List Nat,
    ((s.run (turns.map .advance)).outcome? i).bind Outcome.connection? = some (.ok ())

/-- The connection is established, and all callers in the line wait for their turns. -/
structure Settled (s : Traffic) (line : List (Nat × Nat)) : Prop where
  line : s.Line line
  isUp : s.manager.state.isUp = true
  idle : ∀ i phase, s.turn? i = some phase → phase.isActive = false

namespace Settled

variable {s : Traffic} {i t : Nat} {rest : List (Nat × Nat)}

/-- The first in the line is ready to return. -/
theorem first (h : s.Settled ((i, t) :: rest)) :
  ∃ announced, s.call? i = some (.connect announced (.waiting t))
    ∧ (Connect.waiting t).isReady s.manager = true
    ∧ ∃ journal, (Connect.waiting t).advance s.manager
        = ({ s.manager with queue := s.manager.queue.tail, journal := journal }, .done (.ok ()))
  := by
  obtain ⟨phase, hp, hw⟩ := h.line.first i t rfl
  rcases hw with rfl | ha
  · obtain ⟨announced, hc, -⟩ := turn?_eq_some hp
    use announced, hc
    constructor
    · simp [Connect.isReady, ← h.line.tickets]
    · exact Connect.advance_waiting h.isUp t
  · cases (h.idle i phase hp).symm.trans ha

theorem outcome_first (h : s.Settled ((i, t) :: rest)) :
  (s.outcome? i).bind Outcome.connection? = some (.ok ())
  := by
  obtain ⟨announced, hc, hr, journal, ha⟩ := h.first
  obtain ⟨o, hd, ho⟩ := Call.connect_advance_done (congrArg Prod.snd ha) announced
  rw [outcome?_eq_some_iff.mpr ⟨_, hc, hr, hd⟩]
  exact ho

/-- The first in the line returns, and leaves the rest of it. -/
theorem serve (h : s.Settled ((i, t) :: rest)) :
  (s.step (.advance i)).Settled rest
    ∧ ∀ j, j ≠ i → (s.step (.advance i)).turn? j = s.turn? j
  := by
  obtain ⟨announced, hc, hr, journal, ha⟩ := h.first
  obtain ⟨_, _, hcons, hrest⟩ := h.line.eq_cons hc nofun hr
  cases hcons
  obtain ⟨o, hd, -⟩ := Call.connect_advance_done (congrArg Prod.snd ha) announced
  have hm := Call.connect_advance_eq s.manager announced (.waiting t)
  rw [ha] at hm
  rw [step_advance hc hr]
  generalize (Call.connect announced (.waiting t)).advance s.manager = step at hd hm
  obtain ⟨journal', hm⟩ := hm
  have hout : (s.settle i step).turn? i = none := by
    rw [turn?, call?_settle_done hd]
    rfl
  have hother : ∀ j, j ≠ i → (s.settle i step).turn? j = s.turn? j := by
    intro j hj
    exact turn?_settle_of_ne s (Ne.symm hj) step
  refine ⟨?_, hother⟩
  constructor
  case line =>
    apply h.line.leave hrest hout
    · rw [hm]
    · exact Nat.le_of_eq (congrArg Manager.fresh hm).symm
  case isUp =>
    rw [manager_settle, hm]
    exact h.isUp
  case idle =>
    intro j phase hj
    by_cases hji : j = i
    · subst hji
      cases hout.symm.trans hj
    · exact h.idle j phase ((hother j hji).symm.trans hj)

/-- While the connection is established, the callers in the line return one after another. -/
theorem exists_returns {line : List (Nat × Nat)} (h : s.Settled line)
    (hi : s.turn? i = some (.waiting t)) :
  ∃ turns : List Nat,
    ((s.run (turns.map .advance)).outcome? i).bind Outcome.connection? = some (.ok ())
  := by
  induction line generalizing s with
  | nil => cases h.line.waiting i t hi
  | cons p rest ih =>
    obtain ⟨j, t'⟩ := p
    by_cases hij : i = j
    · subst hij
      use []
      exact h.outcome_first
    · obtain ⟨hs, ho⟩ := h.serve
      obtain ⟨turns, hturns⟩ := ih hs ((ho i hij).trans hi)
      exact ⟨j :: turns, hturns⟩

end Settled

namespace Together

variable {s : Traffic} {endings : List AttemptEnd} {i : Nat} {announced : Bool} {phase : Connect}

theorem settled (h : s.Together endings) (hu : s.manager.state.isUp = true) :
  ∃ line, s.Settled line
  := by
  obtain ⟨line, hl⟩ := h.line
  use line, hl, hu
  intro i phase hp
  rw [← Bool.not_eq_true]
  intro ha
  cases (h.active i phase hp ha).symm.trans hu

/-- Nobody makes attempts while the connection is established. -/
theorem inactive (h : s.Together endings) (hu : s.manager.state.isUp = true)
    (hc : s.call? i = some (.connect announced phase)) :
  phase.isActive = false
  := by
  rw [← Bool.not_eq_true]
  intro ha
  have ht : s.turn? i = some phase := by
    rw [turn?, hc]
    apply Call.turn?_connect
    · rintro rfl
      cases ha
    · rintro rfl
      cases ha
  cases (h.active i phase ht ha).symm.trans hu

/-- Whoever arrives while the connection is established returns as well. -/
theorem exists_returns_arriving (h : s.Together endings) (hu : s.manager.state.isUp = true)
    (hc : s.call? i = some (.connect announced .arriving)) :
  ∃ turns : List Nat,
    ((s.run (turns.map .advance)).outcome? i).bind Outcome.connection? = some (.ok ())
  := by
  have hs := step_advance hc rfl
  have ht : (s.step (.advance i)).turn? i = some (.waiting s.manager.fresh) := by
    rw [hs, turn?, call?_settle_going (lt_length_of_call? hc) rfl]
    rfl
  have h' := h.advance_connect hc rfl
  rw [← hs] at h'
  have hu' : (s.step (.advance i)).manager.state.isUp = true := by
    rw [hs, manager_settle, Call.state_connect]
    exact hu
  obtain ⟨line, hl⟩ := h'.settled hu'
  obtain ⟨turns, hturns⟩ := hl.exists_returns ht
  exact ⟨i :: turns, hturns⟩

theorem exists_returns (h : s.Together endings) (hu : s.manager.state.isUp = true)
    (hc : s.call? i = some (.connect announced phase)) (hn : phase ≠ .crashed) :
  ∃ turns : List Nat,
    ((s.run (turns.map .advance)).outcome? i).bind Outcome.connection? = some (.ok ())
  := by
  have hi := h.inactive hu hc
  cases phase with
  | arriving => exact h.exists_returns_arriving hu hc
  | waiting t =>
    obtain ⟨line, hl⟩ := h.settled hu
    apply hl.exists_returns
    rw [turn?, hc]
    rfl
  | crashed => exact absurd rfl hn
  | _ => cases hi

/-- Who makes no attempts leaves the store alone. -/
theorem store_of_inactive (hc : s.call? i = some (.connect announced phase))
    (hi : phase.isActive = false) :
  (s.step (.advance i)).manager.store = s.manager.store
  := by
  cases hr : (Call.connect announced phase).isReady s.manager with
  | false => simp only [step, hc, hr, if_false, Bool.false_eq_true]
  | true =>
    rw [step_advance hc hr, manager_settle, Call.store_connect]
    exact phase.store_of_inactive s.manager hi

theorem served_of_isUp (h : s.Together endings) (hu : s.manager.state.isUp = true)
    (hc : s.call? i = some (.connect announced phase)) (hn : phase ≠ .crashed) :
  s.Served i
  := by
  have hi := h.inactive hu hc
  constructor
  case store => exact store_of_inactive hc hi
  case ok =>
    intro o ho
    obtain ⟨c, hc', hr, hd⟩ := outcome?_eq_some_iff.mp ho
    cases hc.symm.trans hc'
    obtain ⟨r, hd, ho⟩ := Call.done_connect hd
    cases phase with
    | arriving => cases hd
    | waiting t =>
      obtain ⟨journal, ha⟩ := Connect.advance_waiting hu t
      rw [ha] at hd
      cases hd
      exact ho
    | crashed => exact absurd rfl hn
    | _ => cases hi
  case returns => exact h.exists_returns hu hc hn

/-! ### While the connection is about to be established -/

section

variable {j latency : Nat} {a : Attempt}

/-- Whoever is about to establish the connection does so with its next step, and returns. -/
theorem outcome_settling (hj : s.turn? j = some (.settling a latency)) :
  (s.outcome? j).bind Outcome.connection? = some (.ok ())
  := by
  obtain ⟨announced, hc, -⟩ := turn?_eq_some hj
  obtain ⟨loops, monitor, fresh, journal, -, he⟩ := s.manager.establish_eq a latency
  have hd : ((Connect.settling a latency).advance s.manager).2 = .done (.ok ()) := by
    rw [Connect.advance, he]
  obtain ⟨o, hd, ho⟩ := Call.connect_advance_done hd announced
  rw [outcome?_eq_some_iff.mpr ⟨_, hc, rfl, hd⟩]
  exact ho

theorem establish (h : s.Together endings) (hj : s.turn? j = some (.settling a latency)) :
  (∃ endings', (s.step (.advance j)).Together endings')
    ∧ (s.step (.advance j)).manager.state.isUp = true
    ∧ ∀ i, i ≠ j → (s.step (.advance j)).call? i = s.call? i
  := by
  obtain ⟨announced, hc, -⟩ := turn?_eq_some hj
  have hs := step_advance hc rfl
  rw [hs]
  refine ⟨⟨_, h.advance_connect hc rfl⟩, ?_, fun i hi => call?_settle_of_ne s hi.symm _⟩
  obtain ⟨loops, monitor, fresh, journal, -, he⟩ := s.manager.establish_eq a latency
  rw [manager_settle, Call.state_connect, Connect.advance, he]
  exact HealthStatus.isUp_connectionState _

theorem served_settling (hj : s.turn? j = some (.settling a latency)) :
  s.Served j
  := by
  have ho := outcome_settling hj
  constructor
  case store =>
    obtain ⟨announced, hc, -⟩ := turn?_eq_some hj
    rw [step_advance hc rfl, manager_settle, Call.store_connect]
    rfl
  case ok =>
    intro o h
    rw [h] at ho
    exact ho
  case returns => exact ⟨[], ho⟩

/-- The others wait until the connection is established. -/
theorem served_behind (h : s.Together endings) (hj : s.turn? j = some (.settling a latency))
    (hij : i ≠ j) (hc : s.call? i = some (.connect announced phase)) (hn : phase ≠ .crashed) :
  s.Served i
  := by
  obtain ⟨line, hl⟩ := h.line
  have hready : phase = .arriving ∨ phase.isReady s.manager = false := by
    by_cases ha : phase = .arriving
    · exact .inl ha
    · apply Or.inr
      rw [← Bool.not_eq_true]
      intro hr
      obtain ⟨t, rest, rfl, -⟩ := hl.eq_cons hc ha hr
      obtain ⟨t', ht'⟩ := hl.active j _ hj rfl
      cases ht'
      exact hij rfl
  constructor
  case store =>
    rcases hready with rfl | hr
    · exact store_of_inactive hc rfl
    · have hr : (Call.connect announced phase).isReady s.manager = false := hr
      simp only [step, hc, hr, if_false, Bool.false_eq_true]
  case ok =>
    intro o ho
    obtain ⟨c, hc', hr, hd⟩ := outcome?_eq_some_iff.mp ho
    cases hc.symm.trans hc'
    rcases hready with rfl | hn
    · cases hd
    · cases hn.symm.trans hr
  case returns =>
    obtain ⟨⟨endings', h'⟩, hu, hcalls⟩ := h.establish hj
    obtain ⟨turns, hturns⟩ := h'.exists_returns hu ((hcalls i hij).trans hc) hn
    exact ⟨j :: turns, hturns⟩

end

theorem served (h : s.Together endings) (hs : 0 < endings.count .succeeded)
    (hc : s.call? i = some (.connect announced phase)) (hn : phase ≠ .crashed) :
  s.Served i
  := by
  have hw := h.successes
  generalize endings.count .succeeded = n at hs hw
  cases hw with
  | nobody => cases hs
  | established hu => exact h.served_of_isUp hu hc hn
  | @about j latency a hj =>
    by_cases hij : i = j
    · subst hij
      exact served_settling hj
    · exact h.served_behind hj hij hc hn

end Together

/-- What comes of the callers that connect together. -/
structure Shares (first : Traffic) (moves : List Move) : Prop where
  /-- At most one caller at a time makes attempts. -/
  exclusive : ∀ i j phase phase', (first.run moves).turn? i = some phase →
    phase.isActive = true → (first.run moves).turn? j = some phase' → phase'.isActive = true →
      i = j
  once : (first.endings moves).count .succeeded ≤ 1
  /-- Who returns with an error tells how many attempts it made, which the settings limit. -/
  error : ∀ i announced phase e, (first.run moves).call? i = some (.connect announced phase) →
    ((first.run moves).outcome? i).bind Outcome.connection? = some (.error e) →
      e = .connection ((first.attempts (moves ++ [.advance i])).count i)
        ∧ (first.attempts (moves ++ [.advance i])).count i
          ≤ max first.manager.settings.maxRetries.toNat 1
  /-- Once an attempt has succeeded, whoever has neither returned nor crashed yet is served. -/
  served : 0 < (first.endings moves).count .succeeded → ∀ i announced phase,
    (first.run moves).call? i = some (.connect announced phase) → phase ≠ .crashed →
      (first.run moves).Served i

theorem error_of_outcome? {first : Traffic} (hf : first.calls = []) {moves : List Move} {i : Nat}
    {announced : Bool} {phase : Connect} {e : Error}
    (hc : (first.run moves).call? i = some (.connect announced phase))
    (ho : ((first.run moves).outcome? i).bind Outcome.connection? = some (.error e)) :
  e = .connection ((first.attempts (moves ++ [.advance i])).count i)
    ∧ (first.attempts (moves ++ [.advance i])).count i
      ≤ first.manager.settings.retryPolicy.budget
  := by
  have hn := counted_run hf moves
  obtain ⟨o, ho, hr⟩ := Option.bind_eq_some_iff.mp ho
  obtain ⟨c, hc', hready, hd⟩ := outcome?_eq_some_iff.mp ho
  cases hc.symm.trans hc'
  obtain ⟨r, hd, hr'⟩ := Call.done_connect hd
  cases hr.symm.trans hr'
  have hm : phase.Made first.manager.settings.retryPolicy.budget _ := hn.made i _ hc
  rw [← hn.budget_eq] at hm ⊢
  have ht := hm.tells
  rw [hd] at ht
  have hcount : (first.attempts (moves ++ [.advance i])).count i
      = (first.attempts moves).count i + phase.isOpening.toNat := by
    rw [attempts, record_concat, shown_advance _ hc hready, Counted.count_concat, if_pos rfl]
    rfl
  rw [hcount]
  cases ht with
  | failed hb => exact ⟨rfl, hb⟩

/-- As long as nobody disconnects, callers that connect share one sequence of attempts at a time
and one connection. -/
theorem shares_of_isToStay (settings : Settings) (chance : Chance) (now : Nat)
    (store : MemoryStore) (moves : List Move) (hm : ∀ move ∈ moves, move.isToStay = true) :
  (opened settings chance now store).Shares moves
  := by
  have h := together_run (opened settings chance now store) rfl rfl rfl hm
  constructor
  case exclusive =>
    obtain ⟨line, hl⟩ := h.line
    intro i j phase phase' hi ha hj ha'
    exact hl.active_unique hi ha hj ha'
  case once => exact h.successes.le_one
  case error =>
    intro i announced phase e hc ho
    exact error_of_outcome? rfl hc ho
  case served =>
    intro hs i announced phase hc hn
    exact h.served hs hc hn

/-- A new manager of a store on which the first two attempts to connect fail. -/
def hesitant : Traffic :=
  opened
    { url := "memory://localhost/projects", environment := .test, maxRetries := 2
      retryDelay := 100 }
    { draw := fun _ => 0, name := fun _ => "" } 0
    { faults := { connect := .next 2 "connect ECONNREFUSED" } }

/-- The moves of three callers who connect: the first one gives up after two attempts, and the
second one succeeds while the third one waits. -/
def relay : List Move :=
  [.ask .connect, .advance 0, .ask .connect, .advance 1, .advance 0, .advance 0, .elapse 50,
    .ask .connect, .advance 2, .elapse 50, .advance 0, .advance 0, .advance 0, .advance 0,
    .advance 1, .advance 1, .advance 1]

theorem shares_relay :
  (∀ move ∈ relay, move.isToStay = true) ∧ hesitant.Shares relay
    ∧ hesitant.attempts relay = [0, 0, 1]
    ∧ hesitant.endings relay = [.refused, .refused, .succeeded]
    ∧ (hesitant.run relay).Served 2
  := by
  have hm : ∀ move ∈ relay, move.isToStay = true := by decide
  have h : hesitant.Shares relay := shares_of_isToStay _ _ _ _ _ hm
  have he : hesitant.endings relay = [.refused, .refused, .succeeded] := by decide
  use hm, h, by decide, he
  exact h.served (by rw [he]; decide) 2 false (.waiting 2) rfl nofun

end Traffic

end Storekeeper

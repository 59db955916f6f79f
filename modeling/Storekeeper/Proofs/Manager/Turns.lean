import Storekeeper.Proofs.Manager.Traffic

/-!
# Turns

The callers that connect take turns.  The invariant of the queue, `Line`, lists those that have a
ticket together with their tickets, in the order in which they arrived.  All but the first of them
wait, and whoever has its turn is the first.  So at most one caller at a time has its turn, and as
long as anybody has a ticket the first in the line can go on.
-/

namespace Storekeeper

/-- The phase of a call that connects, from the moment it has a ticket until it ends. -/
def Call.turn? : Call → Option Connect
  | connect _ .arriving | connect _ .crashed => none
  | connect _ phase => some phase
  | _ => none

namespace Call

theorem turn?_connect {announced : Bool} {phase : Connect} (h : phase ≠ .arriving)
    (hc : phase ≠ .crashed) :
  (connect announced phase).turn? = some phase
  := by
  cases phase with
  | arriving => exact absurd rfl h
  | crashed => exact absurd rfl hc
  | _ => rfl

theorem turn?_eq_some {c : Call} {phase : Connect} (h : c.turn? = some phase) :
  ∃ announced, c = connect announced phase ∧ phase ≠ .arriving ∧ phase ≠ .crashed
  := by
  cases c with
  | connect announced phase' =>
    cases phase' with
    | arriving | crashed => cases h
    | _ =>
      cases h
      exact ⟨announced, rfl, nofun, nofun⟩
  | _ => cases h

end Call

namespace Traffic

/-- The phase in which the call with the given number connects, if it has a ticket. -/
def turn? (s : Traffic) (i : Nat) : Option Connect := (s.call? i).bind Call.turn?

theorem turn?_eq_some {s : Traffic} {i : Nat} {phase : Connect} (h : s.turn? i = some phase) :
  ∃ announced, s.call? i = some (.connect announced phase) ∧ phase ≠ .arriving ∧ phase ≠ .crashed
  := by
  obtain ⟨c, hc, ht⟩ := Option.bind_eq_some_iff.mp h
  obtain ⟨announced, rfl, hp⟩ := Call.turn?_eq_some ht
  exact ⟨announced, hc, hp⟩

/-- `line` lists the callers that have a ticket with their tickets, in order. -/
structure Line (s : Traffic) (line : List (Nat × Nat)) : Prop where
  tickets : line.map Prod.snd = s.manager.queue
  nodup : s.manager.queue.Nodup
  fresh : ∀ t ∈ s.manager.queue, t < s.manager.fresh
  /-- Whoever waits is in the line. -/
  waiting : ∀ i t, s.turn? i = some (.waiting t) → (i, t) ∈ line
  /-- Whoever has its turn is the first. -/
  active : ∀ i phase, s.turn? i = some phase → phase.isActive = true → ∃ t, line.head? = some (i, t)
  /-- The first waits or has its turn. -/
  first : ∀ i t, line.head? = some (i, t) →
    ∃ phase, s.turn? i = some phase ∧ (phase = .waiting t ∨ phase.isActive = true)
  /-- The others wait. -/
  others : ∀ p ∈ line.tail, s.turn? p.1 = some (.waiting p.2)

namespace Line

variable {s s' : Traffic} {line : List (Nat × Nat)}

/-- Nothing changes for the line as long as nobody gets a ticket or a turn. -/
theorem congr (hl : s.Line line) (ht : ∀ i, s'.turn? i = s.turn? i)
    (hq : s'.manager.queue = s.manager.queue) (hf : s.manager.fresh ≤ s'.manager.fresh) :
  s'.Line line
  where
  tickets := by rw [hl.tickets, hq]
  nodup := hq ▸ hl.nodup
  fresh t h := Nat.lt_of_lt_of_le (hl.fresh t (hq ▸ h)) hf
  waiting i t h := hl.waiting i t (ht i ▸ h)
  active i phase h ha := hl.active i phase (ht i ▸ h) ha
  first i t h := by
    rw [ht i]
    exact hl.first i t h
  others p h := by
    rw [ht p.1]
    exact hl.others p h

/-- Everybody in the line has a ticket that waits or has its turn. -/
theorem turn?_ne_none (hl : s.Line line) {p : Nat × Nat} (h : p ∈ line) :
  s.turn? p.1 ≠ none
  := by
  cases line with
  | nil => cases h
  | cons q rest =>
    rcases List.mem_cons.mp h with rfl | h
    · obtain ⟨phase, hp, -⟩ := hl.first p.1 p.2 rfl
      simp [hp]
    · simp [hl.others p h]

/-- The caller that goes on is the first in the line, and it is nobody else there. -/
theorem eq_cons (hl : s.Line line) {i : Nat} {announced : Bool} {phase : Connect}
    (hc : s.call? i = some (.connect announced phase)) (ha : phase ≠ .arriving)
    (hr : phase.isReady s.manager = true) :
  ∃ t rest, line = (i, t) :: rest ∧ ∀ p ∈ rest, p.1 ≠ i
  := by
  have hnot : phase ≠ .crashed := by
    rintro rfl
    cases hr
  have ht : s.turn? i = some phase := by
    rw [turn?, hc]
    exact Call.turn?_connect ha hnot
  cases line with
  | nil =>
    cases phase with
    | arriving => exact absurd rfl ha
    | crashed => exact absurd rfl hnot
    | waiting t => cases hl.waiting i t ht
    | _ =>
      obtain ⟨t, h⟩ := hl.active i _ ht rfl
      cases h
  | cons q rest =>
    obtain ⟨j, t⟩ := q
    have hq : s.manager.queue = t :: rest.map Prod.snd := by rw [← hl.tickets]; rfl
    cases phase with
    | arriving => exact absurd rfl ha
    | crashed => exact absurd rfl hnot
    | waiting t' =>
      -- The ticket of the caller is the first one, and no other caller has it.
      have hh : t = t' := by simpa [Connect.isReady, hq] using hr
      have hn : t ∉ rest.map Prod.snd := (List.nodup_cons.mp (hq ▸ hl.nodup)).1
      have hi : i = j := by
        rcases List.mem_cons.mp (hl.waiting i t' ht) with h | h
        · cases h
          rfl
        · exact absurd (List.mem_map.mpr ⟨_, h, hh.symm⟩) hn
      subst hi
      use t, rest, rfl
      intro p hp he
      have hw := hl.others p hp
      rw [he, ht] at hw
      cases hw
      exact hn (List.mem_map.mpr ⟨p, hp, hh.symm⟩)
    | _ =>
      obtain ⟨t', h⟩ := hl.active i _ ht rfl
      cases h
      use t, rest, rfl
      intro p hp he
      have hw := hl.others p hp
      rw [he, ht] at hw
      cases hw

end Line

/-! ### Steps -/

theorem turn?_settle_of_ne (s : Traffic) {i j : Nat} (h : i ≠ j) (step : Call.Step) :
  (s.settle i step).turn? j = s.turn? j
  := by
  rw [turn?, call?_settle_of_ne s h, turn?]

theorem turn?_ask (s : Traffic) (r : Request) (j : Nat) :
  (s.step (.ask r)).turn? j = s.turn? j
  := by
  rw [turn?, call?_ask]
  split
  · next h =>
    have hn : s.call? j = none := by simp [call?, h]
    rw [turn?, hn]
    cases r with
    | _ => rfl
  · rfl

/-- Who does not connect does not get a turn by a step. -/
theorem turn?_settle {s : Traffic} {i : Nat} {c : Call} (hc : s.call? i = some c)
    (hn : ∀ announced phase, c ≠ .connect announced phase) (j : Nat) :
  (s.settle i (c.advance s.manager)).turn? j = s.turn? j
  := by
  by_cases hij : i = j
  · subst hij
    have ht : s.turn? i = none := by
      rw [turn?, hc]
      cases c with
      | connect announced phase => exact absurd rfl (hn announced phase)
      | _ => rfl
    rw [ht]
    cases hs : (s.settle i (c.advance s.manager)).turn? i with
    | none => rfl
    | some phase =>
      obtain ⟨announced, hc', ha, -⟩ := turn?_eq_some hs
      cases Call.goesOn_of_going (going_of_call?_settle hc') with
      | start hv => exact absurd rfl ha
      | connect announced hp => exact absurd rfl (hn announced _)
  · exact turn?_settle_of_ne s hij _

namespace Line

variable {s : Traffic} {line : List (Nat × Nat)}

/-- Who arrives gets a new ticket, at the end of the line. -/
theorem arrive (hl : s.Line line) {i : Nat} {announced : Bool}
    (hc : s.call? i = some (.connect announced .arriving)) :
  (s.settle i ((Call.connect announced .arriving).advance s.manager)).Line
    (line ++ [(i, s.manager.fresh)])
  := by
  have hnone : s.turn? i = none := by
    rw [turn?, hc]
    rfl
  have hi : (s.settle i ((Call.connect announced .arriving).advance s.manager)).turn? i
      = some (.waiting s.manager.fresh) := by
    rw [turn?, call?_settle_going (lt_length_of_call? hc) rfl]
    rfl
  have hne : ∀ p ∈ line, i ≠ p.1 := by
    intro p hp he
    exact hl.turn?_ne_none hp (he ▸ hnone)
  have hf : s.manager.fresh ∉ s.manager.queue := by
    intro h
    exact Nat.lt_irrefl _ (hl.fresh _ h)
  constructor
  case tickets =>
    rw [manager_settle, List.map_append, hl.tickets]
    rfl
  case nodup =>
    rw [manager_settle]
    apply List.nodup_append.mpr
    use hl.nodup, List.nodup_cons.mpr ⟨List.not_mem_nil, List.nodup_nil⟩
    intro t ht t' ht' he
    rw [List.mem_singleton.mp ht'] at he
    exact hf (he ▸ ht)
  case fresh =>
    intro t h
    rw [manager_settle] at h ⊢
    rcases List.mem_append.mp h with h | h
    · exact Nat.lt_succ_of_lt (hl.fresh t h)
    · rw [List.mem_singleton.mp h]
      exact Nat.lt_succ_self _
  case waiting =>
    intro j t h
    by_cases hij : i = j
    · subst hij
      rw [hi] at h
      cases h
      simp
    · rw [turn?_settle_of_ne s hij] at h
      exact List.mem_append_left _ (hl.waiting j t h)
  case active =>
    intro j phase h ha
    by_cases hij : i = j
    · subst hij
      rw [hi] at h
      cases h
      cases ha
    · rw [turn?_settle_of_ne s hij] at h
      obtain ⟨t, ht⟩ := hl.active j phase h ha
      use t
      rw [List.head?_append, ht, Option.some_or]
  case first =>
    intro j t h
    cases line with
    | nil =>
      cases h
      exact ⟨_, hi, .inl rfl⟩
    | cons p rest =>
      cases h
      rw [turn?_settle_of_ne s (hne _ List.mem_cons_self)]
      exact hl.first j t rfl
  case others =>
    intro p hp
    cases line with
    | nil => cases hp
    | cons q rest =>
      rcases List.mem_append.mp hp with hp | hp
      · rw [turn?_settle_of_ne s (hne p (List.mem_cons_of_mem q hp))]
        exact hl.others p hp
      · rw [List.mem_singleton.mp hp]
        exact hi

section

variable {i t : Nat} {rest : List (Nat × Nat)} {step : Call.Step}

/-- The others in the line are not affected by a step of the first. -/
theorem others_settle (hl : s.Line ((i, t) :: rest)) (hne : ∀ p ∈ rest, p.1 ≠ i)
    {p : Nat × Nat} (h : p ∈ rest) :
  (s.settle i step).turn? p.1 = some (.waiting p.2)
  := by
  rw [turn?_settle_of_ne s (Ne.symm (hne p h))]
  exact hl.others p h

/-- The first in the line has its turn and goes on. -/
theorem keep (hl : s.Line ((i, t) :: rest)) (hne : ∀ p ∈ rest, p.1 ≠ i) {phase : Connect}
    (hi : (s.settle i step).turn? i = some phase) (ha : phase.isActive = true)
    (hq : step.1.queue = s.manager.queue) (hf : s.manager.fresh ≤ step.1.fresh) :
  (s.settle i step).Line ((i, t) :: rest)
  := by
  have ho := fun j (h : i ≠ j) => turn?_settle_of_ne s h step
  constructor
  case tickets => rw [manager_settle, hq, hl.tickets]
  case nodup =>
    rw [manager_settle, hq]
    exact hl.nodup
  case fresh =>
    intro t' h
    rw [manager_settle] at h ⊢
    exact Nat.lt_of_lt_of_le (hl.fresh t' (hq ▸ h)) hf
  case waiting =>
    intro j t' h
    by_cases hij : i = j
    · subst hij
      cases hi.symm.trans h
      cases ha
    · exact hl.waiting j t' ((ho j hij).symm.trans h)
  case active =>
    intro j phase' h ha'
    by_cases hij : i = j
    · subst hij
      exact ⟨t, rfl⟩
    · exact hl.active j phase' ((ho j hij).symm.trans h) ha'
  case first =>
    intro j t' h
    cases h
    exact ⟨phase, hi, .inr ha⟩
  case others =>
    intro p h
    exact hl.others_settle hne h

/-- The first in the line returns, and the next one is the first. -/
theorem leave (hl : s.Line ((i, t) :: rest)) (hne : ∀ p ∈ rest, p.1 ≠ i)
    (hi : (s.settle i step).turn? i = none) (hq : step.1.queue = s.manager.queue.tail)
    (hf : s.manager.fresh ≤ step.1.fresh) :
  (s.settle i step).Line rest
  := by
  have ho := fun j (h : i ≠ j) => turn?_settle_of_ne s h step
  have hqueue : t :: rest.map Prod.snd = s.manager.queue := hl.tickets
  have htail : (s.settle i step).manager.queue = rest.map Prod.snd := by
    rw [manager_settle, hq, ← hqueue, List.tail_cons]
  constructor
  case tickets => exact htail.symm
  case nodup =>
    rw [htail]
    exact (List.nodup_cons.mp (hqueue ▸ hl.nodup)).2
  case fresh =>
    intro t' h
    rw [htail] at h
    rw [manager_settle]
    exact Nat.lt_of_lt_of_le (hl.fresh t' (hqueue ▸ List.mem_cons_of_mem t h)) hf
  case waiting =>
    intro j t' h
    by_cases hij : i = j
    · subst hij
      cases hi.symm.trans h
    · rcases List.mem_cons.mp (hl.waiting j t' ((ho j hij).symm.trans h)) with he | hmem
      · cases he
        exact absurd rfl hij
      · exact hmem
  case active =>
    intro j phase h ha
    by_cases hij : i = j
    · subst hij
      cases hi.symm.trans h
    · obtain ⟨t', he⟩ := hl.active j phase ((ho j hij).symm.trans h) ha
      cases he
      exact absurd rfl hij
  case first =>
    intro j t' h
    exact ⟨_, hl.others_settle hne (List.mem_of_mem_head? h), .inl rfl⟩
  case others =>
    intro p h
    exact hl.others_settle hne (List.mem_of_mem_tail h)

end

/-- The caller that goes on keeps its turn or leaves the line. -/
theorem pursue (hl : s.Line line) {i : Nat} {announced : Bool} {phase : Connect}
    (hc : s.call? i = some (.connect announced phase)) (ha : phase ≠ .arriving)
    (hr : phase.isReady s.manager = true) :
  ∃ line', (s.settle i ((Call.connect announced phase).advance s.manager)).Line line'
  := by
  obtain ⟨t, rest, rfl, hne⟩ := hl.eq_cons hc ha hr
  have hnot : phase ≠ .crashed := by
    rintro rfl
    cases hr
  have hp := phase.pursues_advance s.manager ha hnot
  obtain ⟨journal, hm⟩ := Call.connect_advance_eq s.manager announced phase
  cases hs : (phase.advance s.manager).2 with
  | going phase' =>
    have hi : (s.settle i ((Call.connect announced phase).advance s.manager)).turn? i
        = (Call.connect announced phase').turn? := by
      rw [turn?, call?_settle_going (lt_length_of_call? hc)
        (Call.connect_advance_going hs announced)]
      rfl
    rcases hp.going phase' hs with ⟨hact, hq⟩ | ⟨rfl, hq⟩
    · use (i, t) :: rest
      apply hl.keep hne _ hact
      · rw [hm]
        exact hq
      · rw [hm]
        exact hp.fresh
      · rw [hi]
        apply Call.turn?_connect
        · rintro rfl
          cases hact
        · rintro rfl
          cases hact
    · use rest
      apply hl.leave hne hi
      · rw [hm]
        exact hq
      · rw [hm]
        exact hp.fresh
  | done r =>
    obtain ⟨o, ho, -⟩ := Call.connect_advance_done hs announced
    use rest
    apply hl.leave hne
    · rw [turn?, call?_settle_done ho]
      rfl
    · rw [hm]
      exact hp.done r hs
    · rw [hm]
      exact hp.fresh

end Line

theorem Change.line {s s' : Traffic} {move : Move} (h : s.Change move s')
    (hl : ∃ line, s.Line line) :
  ∃ line, s'.Line line
  := by
  obtain ⟨line, hl⟩ := hl
  cases h with
  | idle => exact ⟨line, hl⟩
  | asked r =>
    use line
    exact hl.congr (turn?_ask s r) rfl (Nat.le_refl _)
  | advanced i c hc hr =>
    by_cases hn : ∀ announced phase, c ≠ .connect announced phase
    · obtain ⟨hq, hf⟩ := (c.effect_advance s.manager).queue hn
      use line
      apply hl.congr (turn?_settle hc hn)
      · rw [manager_settle, hq]
      · rw [manager_settle]
        exact Nat.le_of_eq hf.symm
    · push Not at hn
      obtain ⟨announced, phase, rfl⟩ := hn
      by_cases ha : phase = .arriving
      · subst ha
        exact ⟨_, hl.arrive hc⟩
      · exact hl.pursue hc ha hr
  | watched k l h hr =>
    have ha := s.manager.aside_advanceLoop l
    use line
    exact hl.congr (fun i => rfl) ha.queue (Nat.le_of_eq ha.fresh.symm)
  | elapsed time => exact ⟨line, hl.congr (fun i => rfl) rfl (Nat.le_refl _)⟩
  | planned faults => exact ⟨line, hl.congr (fun i => rfl) rfl (Nat.le_refl _)⟩
  | meddled store => exact ⟨line, hl.congr (fun i => rfl) rfl (Nat.le_refl _)⟩

/-- In every run the callers that have a ticket stand in line. -/
theorem exists_line {first : Traffic} (hc : first.calls = []) (hq : first.manager.queue = [])
    (moves : List Move) :
  ∃ line, (first.run moves).Line line
  := by
  apply run_induction (P := fun s => ∃ line, s.Line line)
  · use []
    have hn : ∀ i, first.turn? i = none := by
      intro i
      simp [turn?, call?, hc]
    constructor
    case tickets => exact hq.symm
    case nodup =>
      rw [hq]
      exact List.nodup_nil
    case fresh => simp [hq]
    case waiting => simp [hn]
    case active => simp [hn]
    case first => simp
    case others => simp
  · intro s move h
    exact (s.step_change move).line h

theorem Line.queue_ne_nil {s : Traffic} {line : List (Nat × Nat)} (hl : s.Line line) {i : Nat}
    {phase : Connect} (h : s.turn? i = some phase) :
  s.manager.queue ≠ []
  := by
  obtain ⟨announced, hc, ha, hnot⟩ := turn?_eq_some h
  rw [← hl.tickets]
  intro hn
  have hn := List.map_eq_nil_iff.mp hn
  cases phase with
  | arriving => exact absurd rfl ha
  | crashed => exact absurd rfl hnot
  | waiting t =>
    have hw := hl.waiting i t h
    rw [hn] at hw
    cases hw
  | _ =>
    obtain ⟨t, hh⟩ := hl.active i _ h rfl
    rw [hn] at hh
    cases hh

/-- As long as anybody has a ticket, some caller has its turn or can take it. -/
theorem Line.exists_turn {s : Traffic} {line : List (Nat × Nat)} (hl : s.Line line)
    (h : s.manager.queue ≠ []) :
  ∃ i phase, s.turn? i = some phase
    ∧ (phase.isActive = true ∨ ∃ t, phase = .waiting t ∧ phase.isReady s.manager = true)
  := by
  cases line with
  | nil => exact absurd hl.tickets.symm h
  | cons p rest =>
    obtain ⟨phase, hp, hw⟩ := hl.first p.1 p.2 rfl
    use p.1, phase, hp
    rcases hw with rfl | ha
    · apply Or.inr
      use p.2, rfl
      simp [Connect.isReady, ← hl.tickets]
    · exact .inl ha

/-- At most one caller at a time has its turn. -/
theorem Line.active_unique {s : Traffic} {line : List (Nat × Nat)} (hl : s.Line line)
    {i j : Nat} {phase phase' : Connect} (hi : s.turn? i = some phase)
    (ha : phase.isActive = true) (hj : s.turn? j = some phase') (ha' : phase'.isActive = true) :
  i = j
  := by
  obtain ⟨t, h⟩ := hl.active i phase hi ha
  obtain ⟨t', h'⟩ := hl.active j phase' hj ha'
  cases h.symm.trans h'
  rfl

end Traffic

end Storekeeper

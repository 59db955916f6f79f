import Storekeeper.Proofs.Manager.InFlight
import Storekeeper.Proofs.Manager.Runs

/-!
# What the hook is told

A store is used through its manager and by callers of its own: they connect and disconnect it,
probe it, and work on transactions, any number of them at the same time, and whoever waits may give
up.  `Concourse` is the store with all of them, and a list of deeds is a run.  Its history lists
what happens to the operations, in order.  `Concourse.reported` says that the hook is told of
exactly the operations that run to their ends, of each of them once and in that order; a probe that
is cut off and an operation on a finished transaction leave no trace.
-/

namespace Storekeeper

/-- The operation that ran to its end with an incident. -/
def Incident.completion? : Incident → Option Completion
  | completed c => some c
  | started _ | cutOff _ => none

namespace Ledger

/-- The operations that ran to their ends with some incidents, as the hook is told of them. -/
def reports (incidents : List Incident) : List StoreEvent :=
  (incidents.filterMap Incident.completion?).map Completion.event

theorem events_addAll (l : Ledger) (incidents : List Incident) :
  (l.addAll incidents).events = l.events ++ reports incidents
  := by
  induction incidents generalizing l with
  | nil => exact (List.append_nil _).symm
  | cons i incidents ih =>
    rw [addAll_cons, ih]
    cases i with
    | started ping | cutOff ping => rfl
    | completed c =>
      cases c with
      | _ => exact List.append_assoc _ _ _

/-- Probes that are cut off leave no trace. -/
theorem addAll_cutOff (l : Ledger) (pings : List Ping) :
  l.addAll (pings.map .cutOff) = l
  := by
  induction pings with
  | nil => rfl
  | cons ping pings ih => exact ih

theorem pings_addAll (l : Ledger) (incidents : List Incident) :
  (l.addAll incidents).pings = l.pings + (incidents.filterMap Incident.started?).length
  := by
  induction incidents generalizing l with
  | nil => rfl
  | cons i incidents ih =>
    rw [addAll_cons, ih]
    cases i with
    | started ping => exact Nat.add_right_comm _ _ _
    | cutOff ping => rfl
    | completed c =>
      cases c with
      | _ => rfl

/-- A number that grows with the reported operations that `q` selects, and with nothing else. -/
theorem count_addAll {count : Ledger → Nat} {q : StoreEvent → Bool}
    (hstarted : ∀ l ping, count (l.add (.started ping)) = count l)
    (hcutOff : ∀ l ping, count (l.add (.cutOff ping)) = count l)
    (hcompleted : ∀ l c, count (l.add (.completed c)) = count l + if q c.event then 1 else 0)
    (l : Ledger) (incidents : List Incident) :
  count (l.addAll incidents) = count l + (reports incidents).countP q
  := by
  induction incidents generalizing l with
  | nil => rfl
  | cons i incidents ih =>
    rw [addAll_cons, ih]
    cases i with
    | started ping => rw [hstarted]; rfl
    | cutOff ping => rw [hcutOff]; rfl
    | completed c =>
      have hreports : reports (.completed c :: incidents) = c.event :: reports incidents := rfl
      rw [hcompleted, hreports, List.countP_cons]
      omega

theorem connects_addAll (l : Ledger) (incidents : List Incident) :
  (l.addAll incidents).connects
    = l.connects + (reports incidents).countP (·.operation == "connect")
  := by
  apply count_addAll (fun _ _ => rfl) (fun _ _ => rfl)
  intro l c
  cases c with
  | perform transaction op reply =>
    cases op with
    | _ => rfl
  | _ => rfl

theorem begins_addAll (l : Ledger) (incidents : List Incident) :
  (l.addAll incidents).begins
    = l.begins + (reports incidents).countP (·.operation == "begin_transaction")
  := by
  apply count_addAll (fun _ _ => rfl) (fun _ _ => rfl)
  intro l c
  cases c with
  | perform transaction op reply =>
    cases op with
    | _ => rfl
  | _ => rfl

/-- The probes that returned are those that were reported. -/
theorem countP_ping (incidents : List Incident) :
  (reports incidents).countP (·.operation == "ping")
    = (incidents.filterMap Incident.returned?).length
  := by
  induction incidents with
  | nil => rfl
  | cons i incidents ih =>
    cases i with
    | started ping | cutOff ping => exact ih
    | completed c =>
      have hreports : reports (.completed c :: incidents) = c.event :: reports incidents := rfl
      rw [hreports, List.countP_cons, ih]
      cases c with
      | perform transaction op reply =>
        cases op with
        | _ => rfl
      | _ => rfl

end Ledger

/-! ### The traffic of the manager -/

namespace Traffic

/-- What happens to the operations on the store with a beat. -/
def incidents (s : Traffic) : Beat → List Incident
  | .move (.advance i) =>
    match s.call? i with
    | some c => if c.isReady s.manager then c.incidents s.manager else []
    | none => []
  | .move (.watch k) =>
    match s.manager.loops[k]? with
    | some l => if l.isReady s.manager.now then l.incidents s.manager else []
    | none => []
  | .move _ | .tick _ => []

/-- The probes that are in progress in the calls. -/
def callsInFlight (calls : List (Option Call)) : List Ping :=
  calls.flatMap fun c => c.elim [] Call.inFlight

/-- The probes that are in progress. -/
def inFlight (s : Traffic) : List Ping := callsInFlight s.calls ++ s.manager.inFlight

theorem incidents_advance {s : Traffic} {i : Nat} {c : Call} (hc : s.call? i = some c)
    (hr : c.isReady s.manager = true) :
  s.incidents (.move (.advance i)) = c.incidents s.manager
  := by simp only [incidents, hc, hr, if_true]

/-- Whoever has to wait does nothing, and nothing happens. -/
theorem advance_cases (s : Traffic) (i : Nat) :
  (s.step (.advance i) = s ∧ s.incidents (.move (.advance i)) = [])
    ∨ ∃ c, s.call? i = some c ∧ c.isReady s.manager = true
  := by
  cases hc : s.call? i with
  | none => simp [step, incidents, hc]
  | some c =>
    cases hr : c.isReady s.manager with
    | false => simp [step, incidents, hc, hr]
    | true => exact .inr ⟨c, rfl, hr⟩

theorem watch_cases (s : Traffic) (k : Nat) :
  (s.step (.watch k) = s ∧ s.incidents (.move (.watch k)) = [])
    ∨ ∃ l, s.manager.loops[k]? = some l
      ∧ s.step (.watch k) = { s with manager := s.manager.advanceLoop l }
      ∧ s.incidents (.move (.watch k)) = l.incidents s.manager
  := by
  cases hl : s.manager.loops[k]? with
  | none => simp [step, incidents, hl]
  | some l =>
    cases hr : l.isReady s.manager.now with
    | false => simp [step, incidents, hl, hr]
    | true => exact .inr ⟨l, rfl, by simp [step, hl, hr], by simp [incidents, hl, hr]⟩

/-- A beat enters what happens with it into the ledger, unless it is one in which the store is
touched by others. -/
theorem ledger_beat (s : Traffic) {b : Beat} (h : ∀ store, b ≠ .move (.meddle store)) :
  (s.beat b).manager.ledger = s.manager.ledger.addAll (s.incidents b)
  := by
  cases b with
  | tick k =>
    rcases s.tick_cases k with hs | ⟨l, tick, next, -, -, hs⟩
    · rw [beat, hs]
      rfl
    · rw [beat, hs]
      rfl
  | move move =>
    cases move with
    | advance i =>
      rcases s.advance_cases i with ⟨hs, hn⟩ | ⟨c, hc, hr⟩
      · rw [beat, hs, hn]
        rfl
      · rw [beat, incidents_advance hc hr, step_advance hc hr, manager_settle]
        exact c.ledger_advance s.manager
    | watch k =>
      rcases s.watch_cases k with ⟨hs, hn⟩ | ⟨l, hl, hs, hi⟩
      · rw [beat, hs, hn]
        rfl
      · rw [beat, hs, hi]
        exact s.manager.ledger_advanceLoop l
    | meddle store => exact absurd rfl (h store)
    | ask r | elapse time | plan faults => rfl

theorem numbered_beat {s : Traffic} (h : s.manager.Numbered) (b : Beat) :
  (s.beat b).manager.Numbered
  := by
  cases b with
  | tick k =>
    rcases s.tick_cases k with hs | ⟨l, tick, next, -, -, hs⟩
    · rw [beat, hs]
      exact h
    · rw [beat, hs]
      exact h.enter l.id _
  | move move => exact (s.step_change move).numbered h

theorem inFlight_settle {s : Traffic} {i : Nat} {c : Call} (hc : s.call? i = some c)
    (step : Call.Step) (p : Ping) :
  (callsInFlight (s.settle i step).calls).count p + c.inFlight.count p
    = (callsInFlight s.calls).count p + (step.2.inFlight Call.inFlight).count p
  := by
  have hi : s.calls[i]? = some (some c) := Option.join_eq_some_iff.mp hc
  obtain ⟨m, progress⟩ := step
  cases progress with
  | going c' => exact count_flatMap_set hi (some c') p
  | done o => exact count_flatMap_set hi none p

theorem calls_set_none {s : Traffic} {i : Nat} (h : s.call? i = none) :
  s.calls.set i none = s.calls
  := by
  apply List.ext_getElem?
  intro j
  rw [List.getElem?_set]
  by_cases hj : i = j
  · subst hj
    rw [call?] at h
    cases hi : s.calls[i]? with
    | none => simp [List.getElem?_eq_none_iff.mp hi]
    | some c =>
      rw [hi] at h
      cases h
      simp [(List.getElem?_eq_some_iff.mp hi).1]
  · rw [if_neg hj]

/-- Nothing is in progress in a call that has just been made. -/
theorem callsInFlight_concat (calls : List (Option Call)) {c : Call} (h : c.inFlight = []) :
  callsInFlight (calls ++ [some c]) = callsInFlight calls
  := by simp [callsInFlight, h]

theorem balanced_beat {s : Traffic} (h : s.manager.Numbered) (b : Beat) :
  Balanced s.inFlight (s.incidents b) (s.beat b).inFlight
  := by
  cases b with
  | tick k =>
    rcases s.tick_cases k with hs | ⟨l, tick, next, hl, hp, hs⟩
    · rw [beat, hs]
      exact .nil _
    · rw [beat, hs]
      have hn : l.inFlight = [] := by rw [MonitorLoop.inFlight, hp]; rfl
      apply Balanced.frame
      apply h.balanced_enter hl
      rw [hn]
      exact .nil []
  | move move =>
    cases move with
    | advance i =>
      rcases s.advance_cases i with ⟨hs, hn⟩ | ⟨c, hc, hr⟩
      · rw [beat, hs, hn]
        exact .nil _
      · rw [beat, incidents_advance hc hr, step_advance hc hr]
        intro p
        have hb := c.balanced_advance s.manager p
        have hset := inFlight_settle hc (c.advance s.manager) p
        simp only [inFlight, manager_settle, c.inFlight_manager, List.count_append]
        omega
    | watch k =>
      rcases s.watch_cases k with ⟨hs, hn⟩ | ⟨l, hl, hs, hi⟩
      · rw [beat, hs, hn]
        exact .nil _
      · rw [beat, hs, hi]
        exact (h.balanced_advanceLoop hl).frame _
    | ask r =>
      have hr : (r.call s.manager).inFlight = [] := by
        cases r with
        | _ => rfl
      rw [beat, step, inFlight, inFlight, callsInFlight_concat _ hr]
      exact .nil _
    | elapse time | plan faults | meddle store => exact .nil _

end Traffic

/-! ### All who use the store -/

/-- A store with all who use it: its manager with the calls on it, and callers who use the store
itself. -/
structure Concourse where
  traffic : Traffic
  /-- The transactions that were begun on the store itself, in order. -/
  transactions : List Transaction := []

namespace Concourse

/-- What may happen next. -/
inductive Deed where
  /-- Something happens in the traffic of the manager; all others who touch the store are here. -/
  | beat (b : Traffic.Beat) (h : ∀ store, b ≠ .move (.meddle store))
  | connect
  | disconnect
  /-- Somebody is about to probe the store; the probe goes on like the calls on the manager. -/
  | ping
  | begin (options : Transaction.Options)
  /-- Performs an operation on the transaction with the given number. -/
  | perform (id : Nat) (op : Transaction.Operation)
  /-- Whoever waits for the call with the given number gives it up. -/
  | abandon (i : Nat)

/-- The manager of the store. -/
def manager (s : Concourse) : Manager := s.traffic.manager

/-- The transaction with the given number. -/
def transaction? (s : Concourse) (id : Nat) : Option Transaction := s.transactions[id]?

/-- What the hook was told, in order. -/
def told (s : Concourse) : List StoreEvent := Hook.collect.events s.manager.journal.reverse

/-- A new manager of a store that nobody uses. -/
def opened (settings : Settings) (chance : Chance) (now : Nat) (store : MemoryStore) :
    Concourse where
  traffic := .opened settings chance now store

/-- Lets a deed be done. -/
def enact (s : Concourse) : Deed → Concourse
  | .beat b _ => { s with traffic := s.traffic.beat b }
  | .connect => { s with traffic := { s.traffic with manager := s.manager.openStore.2 } }
  | .disconnect => { s with traffic := { s.traffic with manager := s.manager.closeStore.2 } }
  | .ping =>
    { s with traffic := { s.traffic with calls := s.traffic.calls ++ [some (.ping .ready)] } }
  | .begin options =>
    let (reply, m) := s.manager.begin options
    { traffic := { s.traffic with manager := m }
      transactions := s.transactions ++ reply.toOption.toList }
  | .perform id op =>
    match s.transaction? id with
    | some tx =>
      let (_, tx, m) := s.manager.perform tx op
      { traffic := { s.traffic with manager := m }, transactions := s.transactions.set id tx }
    | none => s
  | .abandon i => { s with traffic := { s.traffic with calls := s.traffic.calls.set i none } }

/-- What happens to the operations on the store with a deed. -/
def incidents (s : Concourse) : Deed → List Incident
  | .beat b _ => s.traffic.incidents b
  | .connect => s.manager.opens
  | .disconnect => s.manager.closes
  | .ping => []
  | .begin options => s.manager.begins options
  | .perform id op =>
    match s.transaction? id with
    | some tx => s.manager.performs tx op
    | none => []
  | .abandon i => ((s.traffic.call? i).elim [] Call.inFlight).map .cutOff

/-- Lets some deeds be done one after another. -/
def enactAll (s : Concourse) (deeds : List Deed) : Concourse := deeds.foldl enact s

/-- What happens to the operations on the store in the course of some deeds, in order. -/
def history (s : Concourse) : List Deed → List Incident
  | [] => []
  | d :: deeds => s.incidents d ++ (s.enact d).history deeds

/-! ### One deed -/

theorem ledger_enact (s : Concourse) (d : Deed) :
  (s.enact d).manager.ledger = s.manager.ledger.addAll (s.incidents d)
  := by
  cases d with
  | beat b h => exact s.traffic.ledger_beat h
  | connect => exact s.manager.ledger_openStore
  | disconnect => exact s.manager.ledger_closeStore
  | ping => rfl
  | begin options => exact s.manager.ledger_begin options
  | perform id op =>
    simp only [enact, incidents]
    split
    · exact s.manager.ledger_perform _ op
    · rfl
  | abandon i => exact (Ledger.addAll_cutOff _ _).symm

theorem numbered_enact {s : Concourse} (h : s.manager.Numbered) (d : Deed) :
  (s.enact d).manager.Numbered
  := by
  cases d with
  | beat b hb => exact s.traffic.numbered_beat h b
  | connect | disconnect | ping | abandon i => exact ⟨h.nodup, h.fresh⟩
  | begin options => exact h.aside (.of_outline (s.manager.outline_begin options))
  | perform id op =>
    simp only [enact]
    split
    · next tx htx => exact h.aside (.of_outline (s.manager.outline_perform tx op))
    · exact h

theorem inFlight_of_outline {m m' : Manager} (h : m'.outline = m.outline)
    (calls : List (Option Call)) :
  Traffic.inFlight ⟨m', calls⟩ = Traffic.inFlight ⟨m, calls⟩
  := congrArg (Traffic.callsInFlight calls ++ ·)
    (Manager.eq_of_outline h Manager.inFlight fun _ => rfl)

theorem balanced_enact {s : Concourse} (h : s.manager.Numbered) (d : Deed) :
  Balanced s.traffic.inFlight (s.incidents d) (s.enact d).traffic.inFlight
  := by
  cases d with
  | beat b hb => exact s.traffic.balanced_beat h b
  | connect => exact s.manager.balanced_opens _
  | disconnect => exact s.manager.balanced_closes _
  | ping =>
    rw [enact, Traffic.inFlight, Traffic.inFlight, Traffic.callsInFlight_concat _ rfl]
    exact .nil _
  | begin options =>
    have ho := inFlight_of_outline (s.manager.outline_begin options) s.traffic.calls
    simp only [enact, ho]
    exact s.manager.balanced_begins options _
  | perform id op =>
    simp only [enact, incidents]
    split
    · next tx htx =>
      have ho := inFlight_of_outline (s.manager.outline_perform tx op) s.traffic.calls
      rw [ho]
      exact s.manager.balanced_performs tx op _
    · exact .nil _
  | abandon i =>
    simp only [enact, incidents]
    cases hc : s.traffic.call? i with
    | none =>
      rw [s.traffic.calls_set_none hc]
      exact .nil _
    | some c =>
      have hi : s.traffic.calls[i]? = some (some c) := Option.join_eq_some_iff.mp hc
      intro p
      have hb := Balanced.abandoned c.inFlight p
      have hset := count_flatMap_set hi none p (f := fun c => c.elim [] Call.inFlight)
      simp only [Traffic.inFlight, Traffic.callsInFlight, Option.elim_some, Option.elim_none,
        List.count_append] at hset ⊢
      omega

/-! ### Runs -/

theorem ledger_enactAll (s : Concourse) (deeds : List Deed) :
  (s.enactAll deeds).manager.ledger = s.manager.ledger.addAll (s.history deeds)
  := by
  induction deeds generalizing s with
  | nil => rfl
  | cons d deeds ih =>
    change ((s.enact d).enactAll deeds).manager.ledger = _
    rw [history, Ledger.addAll_append, ih, s.ledger_enact d]

theorem balanced_enactAll {s : Concourse} (h : s.manager.Numbered) (deeds : List Deed) :
  Balanced s.traffic.inFlight (s.history deeds) (s.enactAll deeds).traffic.inFlight
  := by
  induction deeds generalizing s with
  | nil => exact .nil _
  | cons d deeds ih =>
    change Balanced _ _ ((s.enact d).enactAll deeds).traffic.inFlight
    exact (balanced_enact h d).append (ih (numbered_enact h d))

/-! ### Operations with and without an event -/

/-- The call with the given number goes on. -/
def Deed.advance (i : Nat) : Deed := .beat (.move (.advance i)) (by nofun)

/-- An operation on a transaction is reported once, or not at all if the transaction is finished
already. -/
theorem told_perform (s : Concourse) {id : Nat} {tx : Transaction} (h : s.transaction? id = some tx)
    (op : Transaction.Operation) :
  (s.enact (.perform id op)).told
    = s.told ++ Ledger.reports (s.manager.performs tx op)
  := by
  have hl := congrArg Ledger.events (s.ledger_enact (.perform id op))
  rw [Ledger.events_addAll] at hl
  simp only [incidents, h] at hl
  exact hl

theorem told_of_incidents {s : Concourse} {d : Deed} (h : Ledger.reports (s.incidents d) = []) :
  (s.enact d).told = s.told
  := by
  have hl := congrArg Ledger.events (s.ledger_enact d)
  rw [Ledger.events_addAll, h, List.append_nil] at hl
  exact hl

end Concourse

/-- Whether an operation can fail on a transaction that is not finished. -/
def Transaction.Operation.canFail : Transaction.Operation → Bool
  | insert _ _ | commit => true
  | find _ | delete _ | deleteAll _ | count _ | rollback => false

/-- Making a deletion in the view does not fail, so that no operation ends before it is reported. -/
theorem Transaction.isOk_act (tx : Transaction) (t : Tables) {op : Transaction.Operation}
    (h : op.canFail = false) :
  (tx.act t op).reply.isOk = true
  := by
  cases op with
  | insert | commit => cases h
  | delete k =>
    simp only [act]
    split
    · rfl
    · rfl
  | find | deleteAll | count | rollback => rfl

theorem Transaction.isOk_perform {tx : Transaction} (hf : tx.finished = false) (t : Tables)
    {op : Transaction.Operation} (h : op.canFail = false) :
  (tx.perform t op).reply.isOk = true
  := by
  have hne : ¬ tx.finished = true := by simp [hf]
  rw [perform, if_neg hne]
  exact tx.isOk_act t h

/-- Only a caller that probes the store itself gets the outcome of the probe. -/
theorem Call.done_ponged {m : Manager} {c : Call} {r : Except Error Unit}
    (h : (c.advance m).2 = .done (.ponged r)) :
  ∃ probe probed, c = .ping probe ∧ (probe.advance m).2 = .done probed ∧ probed.outcome = r
  := by
  cases c with
  | start =>
    obtain ⟨e, -, ho⟩ := done_start h
    cases ho
  | stop => cases h
  | sleep due => cases h
  | connect announced phase =>
    obtain ⟨result, -, ho⟩ := done_connect h
    cases ho
  | ping probe =>
    obtain ⟨probed, hp, ho⟩ := done_lift h
    cases ho
    exact ⟨probe, probed, rfl, hp, rfl⟩
  | _ =>
    obtain ⟨result, hr, ho⟩ := done_lift h
    cases ho

/-- A probe that returns is reported with what it found out. -/
theorem Probe.reports_of_done {m : Manager} {probe : Probe} {probed : Probed}
    (h : (probe.advance m).2 = .done probed) :
  ∃ ping, Ledger.reports (probe.incidents m) = [(Completion.ping ping probed).event]
  := by
  cases probe with
  | ready =>
    use m.startPing.1
    simp only [incidents, h]
    rfl
  | waiting ping =>
    use ping
    simp only [incidents, h]
    rfl

/-- The operation that a call performs on a transaction with its next step, if it does. -/
def Call.operation? : Call → Option (Transaction × Transaction.Operation)
  | run phase | maintaining _ phase => phase.operation?
  | _ => none

theorem Run.incidents_of_operation? {α : Type} {m : Manager} {run : Run α} {tx : Transaction}
    {op : Transaction.Operation} (h : run.operation? = some (tx, op)) :
  run.incidents m = m.performs tx op
  := by
  cases run with
  | beginning | sleeping => cases h
  | performing | committing | aborting =>
    cases h
    rfl

theorem Call.incidents_of_operation? {m : Manager} {c : Call} {tx : Transaction}
    {op : Transaction.Operation} (h : c.operation? = some (tx, op)) :
  c.incidents m = m.performs tx op
  := by
  cases c with
  | run phase | maintaining task phase => exact Run.incidents_of_operation? h
  | _ => cases h

theorem Manager.performs_of_finished (m : Manager) {tx : Transaction} (h : tx.finished = true)
    (op : Transaction.Operation) :
  m.performs tx op = []
  := if_pos h

namespace Concourse

theorem told_perform_of_open (s : Concourse) {id : Nat} {tx : Transaction}
    (htx : s.transaction? id = some tx) (hf : tx.finished = false) (op : Transaction.Operation) :
  (s.enact (.perform id op)).told
    = s.told ++
      [{ store := MemoryStore.name
         operation := op.name
         collection := op.collection?
         transaction := some tx.name
         success := (s.manager.perform tx op).1.isOk }]
  := by
  have hne : ¬ tx.finished = true := by simp [hf]
  rw [s.told_perform htx, Manager.performs, if_neg hne]
  rfl

theorem told_of_ponged {s : Concourse} {i : Nat} {r : Except Error Unit}
    (h : s.traffic.outcome? i = some (.ponged r)) :
  ∃ elapsed, (s.enact (.advance i)).told
    = s.told ++
      [{ store := MemoryStore.name
         operation := "ping"
         elapsed := elapsed
         success := r.isOk }]
  := by
  obtain ⟨c, hc, hr, hd⟩ := Traffic.outcome?_eq_some_iff.mp h
  obtain ⟨probe, probed, rfl, hp, rfl⟩ := Call.done_ponged hd
  obtain ⟨ping, hreports⟩ := Probe.reports_of_done hp
  have hl := congrArg Ledger.events (s.ledger_enact (.advance i))
  rw [Ledger.events_addAll, Deed.advance, incidents, Traffic.incidents_advance hc hr,
    Call.incidents, hreports] at hl
  use probed.latency
  exact hl

theorem incidents_advance_of_operation? {s : Concourse} {i : Nat} {c : Call} {tx : Transaction}
    {op : Transaction.Operation} (hc : s.traffic.call? i = some c)
    (hop : c.operation? = some (tx, op)) (h : tx.finished = true) :
  s.incidents (.advance i) = []
  := by
  simp only [Deed.advance, incidents, Traffic.incidents, hc, Call.incidents_of_operation? hop,
    Manager.performs_of_finished _ h, ite_self]

/-- A probe of an attempt that is over is cut off, and its call is not probing any more. -/
theorem cutOff_of_deadline {s : Concourse} {i : Nat} {announced : Bool} {a : Attempt} {ping : Ping}
    (hc : s.traffic.call? i = some (.connect announced (.probing a (.waiting ping))))
    (hdue : s.manager.now < ping.due) (hdeadline : a.deadline ≤ s.manager.now) :
  s.incidents (.advance i) = [.cutOff ping]
    ∧ ∀ c, (s.enact (.advance i)).traffic.call? i = some c → c.inFlight = []
  := by
  have hprobe : (Probe.waiting ping).isReady s.traffic.manager.now = false :=
    decide_eq_false (Nat.not_le.mpr hdue)
  have hr : (Call.connect announced (.probing a (.waiting ping))).isReady s.traffic.manager
      = true := by
    rw [Call.isReady, Connect.isReady, hprobe]
    exact decide_eq_true hdeadline
  constructor
  · rw [Deed.advance, incidents, Traffic.incidents_advance hc hr, Call.incidents, Connect.incidents,
      hprobe]
    rfl
  · intro c hc'
    rw [Deed.advance, enact, Traffic.beat, Traffic.step_advance hc hr] at hc'
    have hgoing := Traffic.going_of_call?_settle hc'
    have hflight : ((Call.connect announced (.probing a (.waiting ping))).advance
        s.traffic.manager).2.inFlight Call.inFlight = [] := by
      rw [Call.advance, Call.inFlight_lift fun p => rfl, Connect.advance, hprobe]
      exact Connect.inFlight_fail _ a _
    rw [hgoing] at hflight
    exact hflight

/-- The hook of a store was told of what the history says, where `store` was the store in the
beginning. -/
structure Reported (s : Concourse) (store : MemoryStore) (history : List Incident) : Prop where
  /-- Each operation that ran to its end was reported once, in the order in which they did, with
  what it returned. -/
  told : s.told = (history.filterMap Incident.completion?).map Completion.event
  /-- All attempts to connect that the store has counted were reported. -/
  connects : s.manager.store.connectAttempts
    = store.connectAttempts + s.told.countP (·.operation == "connect")
  /-- All attempts to begin a transaction were reported. -/
  begins : s.manager.store.transactions
    = store.transactions + s.told.countP (·.operation == "begin_transaction")
  /-- All probes were reported, but for those that were cut off or are in progress. -/
  pings : s.manager.store.pings
    = store.pings + s.told.countP (·.operation == "ping")
      + (history.filterMap Incident.cutOff?).length + s.traffic.inFlight.length
  /-- Each probe that started returned, was cut off or is in progress, and only one of that. -/
  probes : (history.filterMap Incident.started?).Perm
    (history.filterMap Incident.returned? ++ history.filterMap Incident.cutOff?
      ++ s.traffic.inFlight)
  /-- A caller that probes the store gets what the hook is told. -/
  ponged : ∀ i r, s.traffic.outcome? i = some (.ponged r) →
    ∃ elapsed, (s.enact (.advance i)).told
      = s.told ++
        [{ store := MemoryStore.name
           operation := "ping"
           elapsed := elapsed
           success := r.isOk }]
  /-- So does one that works on a transaction; where an operation cannot fail, it is reported as a
  success. -/
  performed : ∀ id op tx, s.transaction? id = some tx → tx.finished = false →
    (s.enact (.perform id op)).told
        = s.told ++
          [{ store := MemoryStore.name
             operation := op.name
             collection := op.collection?
             transaction := some tx.name
             success := (s.manager.perform tx op).1.isOk }]
      ∧ (op.canFail = false → (s.manager.perform tx op).1.isOk = true)
  /-- An operation on a finished transaction is refused, and it is not reported. -/
  refused : ∀ id op tx, s.transaction? id = some tx → tx.finished = true →
    (s.manager.perform tx op).1 = .error tx.finishedError
      ∧ (s.enact (.perform id op)).told = s.told
  /-- Neither is one of a unit of work. -/
  refusedWork : ∀ i c tx op, s.traffic.call? i = some c → c.operation? = some (tx, op) →
    tx.finished = true → (s.enact (.advance i)).told = s.told
  /-- A probe that is cut off since the time for its attempt to connect is over is not reported,
  and it cannot be later. -/
  cutOff : ∀ i announced a ping,
    s.traffic.call? i = some (.connect announced (.probing a (.waiting ping))) →
    s.manager.now < ping.due → a.deadline ≤ s.manager.now →
      (s.enact (.advance i)).told = s.told
        ∧ ∀ c, (s.enact (.advance i)).traffic.call? i = some c → c.inFlight = []

/-- The hook of a store is told of each operation that runs to its end, once and in order. -/
theorem reported (settings : Settings) (chance : Chance) (now : Nat) (store : MemoryStore)
    (deeds : List Deed) :
  ((opened settings chance now store).enactAll deeds).Reported store
    ((opened settings chance now store).history deeds)
  := by
  have hledger := (opened settings chance now store).ledger_enactAll deeds
  have hnumbered : (opened settings chance now store).manager.Numbered :=
    Traffic.numbered_opened settings chance now store
  have hbalanced := balanced_enactAll hnumbered deeds
  generalize (opened settings chance now store).history deeds = history at hledger hbalanced ⊢
  generalize (opened settings chance now store).enactAll deeds = s at hledger hbalanced ⊢
  have htold : s.told = Ledger.reports history := by
    have he := congrArg Ledger.events hledger
    rw [Ledger.events_addAll] at he
    exact he
  have hprobes : (history.filterMap Incident.started?).Perm
      (history.filterMap Incident.returned? ++ history.filterMap Incident.cutOff?
        ++ s.traffic.inFlight) := by
    apply List.perm_iff_count.mpr
    intro p
    have hp := hbalanced p
    have hnone : (opened settings chance now store).traffic.inFlight.count p = 0 := rfl
    rw [hnone, Nat.zero_add] at hp
    rw [List.count_append, List.count_append]
    exact hp
  constructor
  case told => exact htold
  case connects =>
    have hc := congrArg Ledger.connects hledger
    rw [Ledger.connects_addAll, ← htold] at hc
    exact hc
  case begins =>
    have hb := congrArg Ledger.begins hledger
    rw [Ledger.begins_addAll, ← htold] at hb
    exact hb
  case pings =>
    have hp := congrArg Ledger.pings hledger
    have hlength := hprobes.length_eq
    rw [List.length_append, List.length_append, ← Ledger.countP_ping, ← htold] at hlength
    rw [Ledger.pings_addAll, hlength, ← Nat.add_assoc, ← Nat.add_assoc] at hp
    exact hp
  case probes => exact hprobes
  case ponged =>
    intro i r hr
    exact told_of_ponged hr
  case performed =>
    intro id op tx htx hf
    constructor
    · exact s.told_perform_of_open htx hf op
    · intro hop
      exact Transaction.isOk_perform hf _ hop
  case refused =>
    intro id op tx htx hf
    constructor
    · exact congrArg Transaction.Answer.reply (Transaction.perform_of_finished hf _ op)
    · rw [s.told_perform htx, Manager.performs_of_finished _ hf]
      exact List.append_nil _
  case refusedWork =>
    intro i c tx op hc hop hf
    apply told_of_incidents
    rw [incidents_advance_of_operation? hc hop hf]
    rfl
  case cutOff =>
    intro i announced a ping hc hdue hdeadline
    obtain ⟨hi, hflight⟩ := cutOff_of_deadline hc hdue hdeadline
    constructor
    · apply told_of_incidents
      rw [hi]
      rfl
    · exact hflight

-- A probe of the store itself goes on by a move of its own.
example :
    ((opened { url := "memory://" } { draw := fun _ => 0, name := fun _ => "a" } 0 {}).enactAll
      [.connect, .ping, .advance 0, .begin {}, .perform 0 (.insert ⟨"projects", "p1"⟩ .null),
        .perform 0 .commit, .perform 0 .commit]).told.map (·.operation)
      = ["connect", "ping", "begin_transaction", "insert", "commit"] := by decide

end Concourse

end Storekeeper

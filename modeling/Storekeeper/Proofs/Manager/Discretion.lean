import Mathlib.Data.List.Forall2
import Mathlib.Logic.Function.Basic
import Storekeeper.Proofs.Manager.Masking

/-!
# Failures are shown in redacted form only

Two stores may fail alike but for the texts of their failures, such as the address of a host.  If
corresponding texts are transient alike and have the same redacted form, nothing that is done with
the two stores tells them apart: `Traffic.looksLike_play`.  For there is one mask that replaces
alike texts by the same text.
-/

namespace Storekeeper

/-- What may be seen of the text of a failure to connect, or of a probe: whether it is transient, and
its redacted form. -/
def storeView (text : String) : Bool × String :=
  (isTransientMessage text, Redaction.sanitize (Error.store .other text).message)

/-- What may be seen of the text of a failure to disconnect: its redacted form. -/
def disconnectView (text : String) : String := Redaction.sanitize (Error.disconnect text).message

/-- The same may be seen of two plans for the attempts to connect. -/
inductive ConnectFault.Alike : ConnectFault → ConnectFault → Prop where
  | none : Alike none none
  | next (times : Nat) {text text' : String} (h : storeView text = storeView text') :
    Alike (next times text) (next times text')
  | always {text text' : String} (h : storeView text = storeView text') :
    Alike (always text) (always text')

/-- The same may be seen of two plans. -/
structure Faults.Alike (faults faults' : Faults) : Prop where
  connect : faults.connect.Alike faults'.connect
  ping : faults.ping.map storeView = faults'.ping.map storeView
  disconnect : faults.disconnect.map disconnectView = faults'.disconnect.map disconnectView
  latency : faults.latency = faults'.latency

/-- Two stores are the same but for the texts of failures, of which the same may be seen. -/
structure MemoryStore.Alike (s s' : MemoryStore) : Prop where
  faults : s.faults.Alike s'.faults
  others : s' = { s with faults := s'.faults }

/-- The same happens, but for the texts of failures, of which the same may be seen. -/
inductive Traffic.Beat.Alike : Traffic.Beat → Traffic.Beat → Prop where
  | same (b : Traffic.Beat) : Alike b b
  | plan {faults faults' : Faults} (h : faults.Alike faults') :
    Alike (.move (.plan faults)) (.move (.plan faults'))
  | meddle {store store' : MemoryStore} (h : store.Alike store') :
    Alike (.move (.meddle store)) (.move (.meddle store'))

/-! ### One mask for alike texts -/

namespace Mask

theorem storeView_invFun (text : String) :
  storeView (Function.invFun storeView (storeView text)) = storeView text
  := Function.invFun_eq ⟨text, rfl⟩

theorem disconnectView_invFun (text : String) :
  disconnectView (Function.invFun disconnectView (disconnectView text)) = disconnectView text
  := Function.invFun_eq ⟨text, rfl⟩

/-- The mask that chooses one of all texts of which the same may be seen. -/
noncomputable def canonical : Mask where
  store text := Function.invFun storeView (storeView text)
  disconnect text := Function.invFun disconnectView (disconnectView text)
  isTransientMessage_store text := congrArg Prod.fst (storeView_invFun text)
  sanitize_store text := congrArg Prod.snd (storeView_invFun text)
  sanitize_disconnect := disconnectView_invFun

theorem canonical_store {text text' : String} (h : storeView text = storeView text') :
  canonical.store text = canonical.store text'
  := congrArg (Function.invFun storeView) h

end Mask

open Mask

theorem ConnectFault.Alike.mask_eq {fault fault' : ConnectFault} (h : fault.Alike fault') :
  fault.mask canonical = fault'.mask canonical
  := by
  cases h with
  | none => rfl
  | next times h => simp only [mask, canonical_store h]
  | always h => simp only [mask, canonical_store h]

theorem Faults.Alike.mask_eq {faults faults' : Faults} (h : faults.Alike faults') :
  faults.mask canonical = faults'.mask canonical
  := by
  have hping : faults.ping.map canonical.store = faults'.ping.map canonical.store := by
    have hp := congrArg (Option.map (Function.invFun storeView)) h.ping
    rw [Option.map_map, Option.map_map] at hp
    exact hp
  have hdisconnect : faults.disconnect.map canonical.disconnect
      = faults'.disconnect.map canonical.disconnect := by
    have hd := congrArg (Option.map (Function.invFun disconnectView)) h.disconnect
    rw [Option.map_map, Option.map_map] at hd
    exact hd
  simp only [mask, h.connect.mask_eq, hping, hdisconnect, h.latency]

theorem MemoryStore.Alike.mask_eq {s s' : MemoryStore} (h : s.Alike s') :
  s.mask canonical = s'.mask canonical
  := by
  rw [h.others]
  simp only [mask, h.faults.mask_eq]

theorem Outcome.mask_eq_iff {k : Mask} {o o' : Outcome} (h : ∀ r, o ≠ .ponged r) :
  o'.mask k = o ↔ o' = o
  := by
  cases o' with
  | ponged r =>
    constructor
    · rintro rfl
      exact absurd rfl (h _)
    · rintro rfl
      exact absurd rfl (h _)
  | _ => rfl

namespace Traffic

theorem Beat.Alike.mask_eq {b b' : Beat} (h : b.Alike b') :
  b.mask canonical = b'.mask canonical
  := by
  cases h with
  | same => rfl
  | plan h => simp only [Beat.mask, h.mask_eq]
  | meddle h => simp only [Beat.mask, h.mask_eq]

theorem map_mask_eq {beats beats' : List Beat} (h : List.Forall₂ Beat.Alike beats beats') :
  beats.map (Beat.mask canonical) = beats'.map (Beat.mask canonical)
  := by
  induction h with
  | nil => rfl
  | cons hb hrest ih => simp only [List.map_cons, hb.mask_eq, ih]

/-! ### What is seen -/

/-- What can be seen of two managers and of the calls made on them is the same. -/
structure LooksLike (s s' : Traffic) : Prop where
  now : s.manager.now = s'.manager.now
  state : s.manager.state = s'.manager.state
  metrics : s.manager.metrics = s'.manager.metrics
  attempts : s.manager.attempts = s'.manager.attempts
  isMonitored : s.manager.isMonitored = s'.manager.isMonitored
  /-- The log lines and the events are the same. -/
  journal : s.manager.journal = s'.manager.journal
  /-- The same calls can go on now. -/
  ready : ∀ i, (s.call? i).map (·.isReady s.manager) = (s'.call? i).map (·.isReady s'.manager)
  /-- The calls that wait for time to pass wait for the same time. -/
  alarm : ∀ i, (s.call? i).bind (·.alarm) = (s'.call? i).bind (·.alarm)
  /-- The loops that watch the connection can go on, or wait for the same time. -/
  loops : s.manager.loops.map (fun l => (l.isReady s.manager.now, l.alarm))
    = s'.manager.loops.map (fun l => (l.isReady s'.manager.now, l.alarm))
  /-- The calls return the same, unless the store itself was asked. -/
  outcome : ∀ i o, (∀ r, o ≠ .ponged r) → (s.outcome? i = some o ↔ s'.outcome? i = some o)

section

variable {k : Mask} {s s' : Traffic}

/-- What a mask does not change is the same where it makes two managers equal. -/
theorem eq_of_mask_eq {α : Type} (h : s.mask k = s'.mask k) (f : Traffic → α)
    (hf : ∀ s, f (s.mask k) = f s) :
  f s = f s'
  := by
  rw [← hf s, h, hf s']

theorem ready_mask (s : Traffic) (i : Nat) :
  ((s.mask k).call? i).map (·.isReady (s.mask k).manager)
    = (s.call? i).map (·.isReady s.manager)
  := by
  rw [call?_mask, Option.map_map]
  apply congrArg (Option.map · (s.call? i))
  funext c
  exact c.isReady_mask k s.manager

theorem alarm_mask (s : Traffic) (i : Nat) :
  ((s.mask k).call? i).bind (·.alarm) = (s.call? i).bind (·.alarm)
  := by
  rw [call?_mask, Option.bind_map]
  apply congrArg (Option.bind (s.call? i))
  funext c
  exact c.alarm_mask k

theorem loops_mask (s : Traffic) :
  (s.mask k).manager.loops.map (fun l => (l.isReady (s.mask k).manager.now, l.alarm))
    = s.manager.loops.map (fun l => (l.isReady s.manager.now, l.alarm))
  := by
  simp only [mask, Manager.mask, List.map_map]
  apply List.map_congr_left
  intro l hl
  exact Prod.ext (l.isReady_mask k s.manager.now) (l.alarm_mask k)

theorem outcome?_eq_some_of_mask {i : Nat} {o : Outcome} (ho : ∀ r, o ≠ .ponged r)
    (s : Traffic) :
  (s.mask k).outcome? i = some o ↔ s.outcome? i = some o
  := by
  rw [outcome?_mask]
  cases s.outcome? i with
  | none => simp
  | some o' => simp [Outcome.mask_eq_iff ho]

theorem looksLike_of_mask_eq (h : s.mask k = s'.mask k) :
  s.LooksLike s'
  where
  now := eq_of_mask_eq h (·.manager.now) fun _ => rfl
  state := eq_of_mask_eq h (·.manager.state) fun _ => rfl
  metrics := eq_of_mask_eq h (·.manager.metrics) fun _ => rfl
  attempts := eq_of_mask_eq h (·.manager.attempts) fun _ => rfl
  isMonitored := eq_of_mask_eq h (·.manager.isMonitored) fun s => s.manager.isMonitored_mask k
  journal := eq_of_mask_eq h (·.manager.journal) fun _ => rfl
  ready i := eq_of_mask_eq h (fun s => (s.call? i).map (·.isReady s.manager)) (ready_mask · i)
  alarm i := eq_of_mask_eq h (fun s => (s.call? i).bind (·.alarm)) (alarm_mask · i)
  loops := eq_of_mask_eq h
    (fun s => s.manager.loops.map fun l => (l.isReady s.manager.now, l.alarm)) loops_mask
  outcome i o ho := by
    rw [← outcome?_eq_some_of_mask ho s, h, outcome?_eq_some_of_mask ho s']

end

/-- Whatever is done with two stores that fail alike looks the same. -/
theorem looksLike_play (settings : Settings) (chance : Chance) (now : Nat)
    {store store' : MemoryStore} (hs : store.Alike store') {beats beats' : List Beat}
    (hb : List.Forall₂ Beat.Alike beats beats') :
  ((opened settings chance now store).play beats).LooksLike
    ((opened settings chance now store').play beats')
  := by
  have hfirst : (opened settings chance now store).mask canonical
      = (opened settings chance now store').mask canonical := by
    simp only [mask, opened, Manager.mask, hs.mask_eq]
  apply looksLike_of_mask_eq (k := canonical)
  rw [← play_mask, ← play_mask, hfirst, map_mask_eq hb]

/-- A store on the given host that fails once to be connected, and to be disconnected. -/
def remote (host : String) : MemoryStore where
  faults :=
    { connect := .next 1 ("connect ECONNREFUSED " ++ host ++ ":27017")
      disconnect := some ("mongodb://root:secret@" ++ host ++ " hung up") }

/-- A connection is established at the second attempt. -/
def arrival : List Beat :=
  [.move (.ask .connect), .move (.advance 0), .move (.advance 0), .move (.advance 0),
    .move (.elapse 1000), .move (.advance 0), .move (.advance 0), .move (.advance 0),
    .move (.advance 0)]

/-- A connection fails a health check and is given back. -/
def departure : List Beat :=
  [.move (.ask .checkHealth), .move (.advance 1), .move (.advance 1), .move (.ask .disconnect),
    .move (.advance 2), .move (.advance 2), .move (.advance 2)]

/-- Between the two the given host cannot be reached any more. -/
def sojourn (host : String) : List Beat :=
  arrival ++ .move (.plan { ping := some ("no route to " ++ host) }) :: departure

/-- A new manager of the store on the given host. -/
def hosted (host : String) : Traffic :=
  opened { url := "memory://localhost/projects" } { draw := fun _ => 0, name := fun _ => "" } 0
    (remote host)

theorem looksLike_sojourn :
  (remote "10.0.0.1").Alike (remote "192.168.7.42")
    ∧ List.Forall₂ Beat.Alike (sojourn "10.0.0.1") (sojourn "192.168.7.42")
    ∧ ((hosted "10.0.0.1").play (sojourn "10.0.0.1")).LooksLike
        ((hosted "192.168.7.42").play (sojourn "192.168.7.42"))
  := by
  have hs : (remote "10.0.0.1").Alike (remote "192.168.7.42") := by
    constructor
    case faults =>
      constructor
      case connect => exact .next 1 (by decide +kernel)
      case ping => rfl
      case disconnect => decide +kernel
      case latency => rfl
    case others => rfl
  have hp : Faults.Alike { ping := some "no route to 10.0.0.1" }
      { ping := some "no route to 192.168.7.42" } := by
    constructor
    case connect => exact .none
    case ping => decide +kernel
    case disconnect => rfl
    case latency => rfl
  have hsame : ∀ beats : List Beat, List.Forall₂ Beat.Alike beats beats :=
    fun beats => List.forall₂_same.mpr fun b _ => .same b
  have hb : List.Forall₂ Beat.Alike (sojourn "10.0.0.1") (sojourn "192.168.7.42") :=
    List.rel_append (hsame arrival) (.cons (.plan hp) (hsame departure))
  exact ⟨hs, hb, looksLike_play _ _ _ hs hb⟩

end Traffic

end Storekeeper

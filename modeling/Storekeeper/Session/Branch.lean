import Storekeeper.Session.Basic

/-!
# Playing a script

A script is played in virtual time.  Its branches go on in their order, each as far as it can, and
again until none can go on; then the loops that watch the connection go on; and when nothing at
all can go on, time jumps to the earliest moment at which something can.  So time passes only
while everything waits, and what takes no time is done before it passes.

All branches of a script together are one task.  If it has asked the runtime for leave too often at
a stretch, the loops go on before the script does, wherever the script stands then.
-/

namespace Storekeeper

/-- How often an action that is done at once asks the runtime for leave. -/
def Action.toll (m : Manager) : Action → Nat
  | metrics | documents _ => 1
  | begin _ _ => if m.store.connected then 1 else 0
  | perform _ op => op.toll
  | _ => 0

/-- A script that is being played, with its transcript, the latest step first. -/
inductive Branch where
  /-- Between two steps. -/
  | between (transcript : Transcript) (rest : List Step)
  | calling (transcript : Transcript) (call : Call) (rest : List Step)
  /-- About to note the end of a step. -/
  | ending (transcript : Transcript) (result : Result) (rest : List Step)
  /-- Plays scripts side by side. -/
  | joining (transcript : Transcript) (branches : List Branch) (rest : List Step)

/-- The earlier of two moments, either of which may be missing. -/
def earlier : Option Nat → Option Nat → Option Nat
  | some a, some b => some (min a b)
  | some a, none => some a
  | none, b => b

namespace Branch

/-- A script that was not begun yet. -/
def ofScript (script : List Step) : Branch := between [] script

/-- Whether a script was played to its end. -/
def isOver : Branch → Bool
  | between _ [] => true
  | _ => false

/-- The transcript so far, in order. -/
def transcript : Branch → Transcript
  | between done _ | calling done _ _ | ending done _ _ | joining done _ _ => done.reverse

mutual

/-- Whether a script can go on, with an allowance if it is given. -/
def isReady (m : Manager) (allowance : Option Nat) : Branch → Bool
  | between _ [] => false
  | between _ (.act action :: _) => allowance.all fun n => action.toll m ≤ n
  | between _ (.concurrently _ :: _) => true
  | calling _ call _ => call.isReady m && allowance.all fun n => call.toll m ≤ n
  | ending _ _ _ => allowance.all fun n => 1 ≤ n
  | joining _ branches _ => anyReady m allowance branches || branches.all isOver

/-- Whether any of some scripts can go on, with an allowance if it is given. -/
def anyReady (m : Manager) (allowance : Option Nat) : List Branch → Bool
  | [] => false
  | b :: rest => isReady m allowance b || anyReady m allowance rest

end

mutual

/-- The earliest moment at which a script can go on that waits for time to pass. -/
def alarm : Branch → Option Nat
  | between _ _ | ending _ _ _ => none
  | calling _ call _ => call.alarm
  | joining _ branches _ => firstAlarm branches

/-- The earliest moment at which any of some scripts can go on. -/
def firstAlarm : List Branch → Option Nat
  | [] => none
  | b :: rest => earlier (alarm b) (firstAlarm rest)

end

mutual

/-- Whether a call of a script ended without a result. -/
def hasCrashed : Branch → Bool
  | between _ _ | ending _ _ _ => false
  | calling _ call _ => call.hasCrashed
  | joining _ branches _ => anyCrashed branches

/-- Whether a call of any of some scripts ended without a result. -/
def anyCrashed : List Branch → Bool
  | [] => false
  | b :: rest => hasCrashed b || anyCrashed rest

end

/-- Goes on with a script for one step, where `poll` goes on with a branch of it. -/
def advance (poll : Session → Branch → Session × Branch) (s : Session) :
    Branch → Session × Branch
  | between done [] => (s, between done [])
  | between done (.act action :: rest) =>
    match (s.spend (action.toll s.manager)).act action with
    | (s, .inl result) => (s, ending done result rest)
    | (s, .inr call) => (s, calling done call rest)
  | between done (.concurrently scripts :: rest) => (s, joining done (scripts.map ofScript) rest)
  | calling done call rest =>
    let s := s.spend (call.toll s.manager)
    match call.advance s.manager with
    | (m, .going call) => ({ s with manager := m }, calling done call rest)
    | (m, .done outcome) => ({ s with manager := m }, ending done (.call outcome) rest)
  | ending done result rest =>
    let (stamp, s) := (s.spend 1).stamp
    (s, between ((result, stamp) :: done) rest)
  | joining done branches rest =>
    let (s, polled) := branches.foldl
      (fun (s, polled) b =>
        let (s, b) := poll s b
        (s, polled ++ [b]))
      (s, [])
    if polled.all isOver then (s, ending done (.joined (polled.map transcript)) rest)
    else (s, joining done polled rest)

/-- Goes on with a script as far as it can, for at most `fuel` steps. -/
def poll : Nat → Session → Branch → Session × Branch
  | 0, s, b => (s, b)
  | fuel + 1, s, b =>
    if b.isReady s.manager (some s.allowance) then
      let (s, b) := advance (poll fuel) s b
      poll fuel s b
    else (s, b)

end Branch

namespace Session

/-- The earliest moment at which a loop or a script can go on. -/
def alarm (s : Session) (b : Branch) : Option Nat :=
  s.manager.loops.foldl (fun first l => earlier first l.alarm) b.alarm

/-- Plays a script until it is over or a call of it ends without a result, for at most `fuel`
rounds. -/
def play : Nat → Session → Branch → Branch
  | 0, _, b => b
  | fuel + 1, s, b =>
    if b.hasCrashed || b.isOver then b
    else if b.isReady s.manager (some s.allowance) then
      let (s, b) := b.poll fuel s
      play fuel s b
    else
      -- A script that waits may ask for leave again when it goes on.
      let isDelayed := b.isReady s.manager none
      match s.manager.loops.find? (·.isReady s.manager.now) with
      | some l =>
        let s := if isDelayed then s else s.resume
        play fuel { s with manager := s.manager.advanceLoop l } b
      | none =>
        if isDelayed then play fuel s.resume b
        else
          match s.alarm b with
          | some time => play fuel { s.resume with manager := { s.manager with now := time } } b
          | none => b

/-- More rounds than any script can take. -/
def enough : Nat := Nat.pow 2 62

/-- Plays a script to its end.  There is no transcript if a call ends without a result. -/
def run (s : Session) (script : List Step) : Option Transcript :=
  let b := s.play enough (.ofScript script)
  if b.hasCrashed then none else some b.transcript

end Session

end Storekeeper

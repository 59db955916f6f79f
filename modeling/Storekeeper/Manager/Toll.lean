import Storekeeper.Manager.Call

/-!
# Asking for leave

A call asks the runtime for leave before it takes a lock, and before it goes on when it has waited.
A task that asks too often at a stretch is put off until all others that can go on have done so.
`Call.toll` counts how often a call asks with its next step.
-/

namespace Storekeeper

/-- How often a probe asks for leave with its next step. -/
def Probe.toll : Probe → Nat
  | ready => 0
  | waiting _ => 1

/-- How often a check asks for leave with its next step. -/
def Check.toll (m : Manager) : Check → Nat
  | probing probe =>
    match (probe.advance m).2 with
    | .going _ => probe.toll
    | .done _ => probe.toll + 1
  | settling _ => 1

/-- How often a call that connects asks for leave with its next step. -/
def Connect.toll (m : Manager) (phase : Connect) : Nat :=
  let waits :=
    match phase with
    | waiting _ | pausing _ _ _ => 1
    | probing _ probe => probe.toll
    | _ => 0
  let writes :=
    match phase, (phase.advance m).2 with
    | waiting _, _ | _, .done _ => 1
    | _, .going (.settling _ _) | _, .going (.marking _) | _, .going (.counting _) => 1
    | _, .going _ => 0
  waits + writes

/-- How often a call that stops to watch the connection asks for leave with its next step. -/
def StopMonitor.toll : StopMonitor → Nat
  | asked => 0
  | awaiting _ => 1

/-- How often a call that disconnects asks for leave with its next step. -/
def Disconnect.toll : Disconnect → Nat
  | stopping phase => phase.toll
  | closing | marking => 1

/-- How often an operation on a transaction asks for leave. -/
def Transaction.Operation.toll : Transaction.Operation → Nat
  | commit => 1
  | _ => 0

/-- How often a call that runs a unit of work asks for leave with its next step. -/
def Run.toll {α : Type} (m : Manager) : Run α → Nat
  | beginning _ _ | sleeping _ _ _ | aborting _ _ => 1
  | performing _ op _ => op.toll
  | committing r value =>
    match ((committing r value).advance m).2 with
    | .done ⟨_, .error _⟩ => 2
    | _ => 1

/-- How often a call asks for leave with its next step. -/
def Call.toll (m : Manager) : Call → Nat
  | start | stop | maintain _ => 0
  | connect _ phase => phase.toll m
  | disconnect _ phase => phase.toll
  | stopMonitor phase => phase.toll
  | checkHealth check => check.toll m
  | askStatus probe | ping probe => probe.toll
  | run phase | maintaining _ phase => phase.toll m
  | sleep _ => 1

end Storekeeper

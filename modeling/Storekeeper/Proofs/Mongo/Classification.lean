import Mathlib.Tactic.Use
import Storekeeper.Mongo.Fault
import Storekeeper.Retry

/-!
# How faults are classified

A request that was rejected is not worth another attempt, and a deployment that could not be
reached is.  The error that stands for a fault keeps to that whatever is said of the fault, with one
exception: a document that a collection does not admit is recognised where the refusal of a write
tells of it, and not where the refusal of a command does.  There the words of the message decide.
-/

namespace Storekeeper

/-- A transient kind decides by itself. -/
theorem RetryPolicy.isRetriable_of_isTransient {kind : StoreErrorKind} (h : kind.isTransient = true)
    (text : String) :
  isRetriable (.store kind text) = true
  := by
  cases kind with
  | other => cases h
  | _ => exact h

namespace Mongo

/-- The network faults that have a kind of their own are transient ones. -/
theorem NetworkFault.isTransient_kind {fault : NetworkFault} (h : fault ≠ other) :
  fault.kind.isTransient = true
  := by
  cases fault with
  | other => exact absurd rfl h
  | connectionRefused | timedOut | connectionReset | connectionAborted | brokenPipe
  | unexpectedEof => rfl

namespace Fault

variable {f : Fault} {message : String}

/-- The code that a server gave when it refused a command or a write. -/
def code? : Fault → Option Int
  | command r | write r => some r.code
  | _ => none

/-- The request was rejected: for want of a login, for an argument, for a key that is present
already, or for a document that its collection does not admit. -/
def IsRejection : Fault → Prop
  | authentication _ | invalidArgument _ => True
  | f => f.code? = some 11000 ∨ f.code? = some 121

/-- The deployment could not be reached, or was lost. -/
def IsOutage : Fault → Prop
  | network fault _ => fault ≠ .other
  | serverSelection _ | nameResolution _ | poolCleared _ => True
  | _ => False

/-- A command was refused for a document that its collection does not admit. -/
def IsInvalidByCommand (f : Fault) : Prop := ∃ r, f = command r ∧ r.code = 121

/-- The error that stands for a fault of which `message` is told has the place it should have:
another attempt follows an outage and no rejection, and the two codes have errors of their own. -/
structure IsClassified (f : Fault) (message : String) : Prop where
  rejected : f.IsRejection → RetryPolicy.isRetriable (f.toErrorWith message) = false
  retried : f.IsOutage → RetryPolicy.isRetriable (f.toErrorWith message) = true
  duplicate : f.code? = some 11000 → f.toErrorWith message = .duplicateKey message
  invalid : f.code? = some 121 → f.toErrorWith message = .store .integrity message

theorem isRetriable_of_isOutage (h : f.IsOutage) :
  RetryPolicy.isRetriable (f.toErrorWith message) = true
  := by
  cases f with
  | network fault _ =>
    exact RetryPolicy.isRetriable_of_isTransient (NetworkFault.isTransient_kind h) message
  | serverSelection | nameResolution | poolCleared => rfl
  | _ => cases h

theorem toErrorWith_of_duplicate (h : f.code? = some 11000) :
  f.toErrorWith message = .duplicateKey message
  := by
  cases f with
  | command r | write r => exact if_pos (Option.some.inj h)
  | _ => cases h

/-- Of the code of a document that is not admitted, the refusal of a write is told apart. -/
theorem toErrorWith_of_invalid (h : f.code? = some 121) (hnot : ¬ f.IsInvalidByCommand) :
  f.toErrorWith message = .store .integrity message
  := by
  cases f with
  | command r => exact absurd ⟨r, rfl, Option.some.inj h⟩ hnot
  | write r =>
    have hcode : r.code = 121 := Option.some.inj h
    simp only [toErrorWith, hcode]
    rfl
  | _ => cases h

theorem toErrorWith_of_isInvalidByCommand (h : f.IsInvalidByCommand) :
  f.toErrorWith message = .store .other message
  := by
  obtain ⟨r, rfl, hcode⟩ := h
  simp only [toErrorWith, hcode]
  rfl

theorem not_isRetriable_of_isRejection (h : f.IsRejection) (hnot : ¬ f.IsInvalidByCommand) :
  RetryPolicy.isRetriable (f.toErrorWith message) = false
  := by
  have hcodes : f.code? = some 11000 ∨ f.code? = some 121 →
      RetryPolicy.isRetriable (f.toErrorWith message) = false := by
    rintro (hcode | hcode)
    · rw [toErrorWith_of_duplicate hcode]
      rfl
    · rw [toErrorWith_of_invalid hcode hnot]
      rfl
  cases f with
  | authentication | invalidArgument => rfl
  | _ => exact hcodes h

theorem IsInvalidByCommand.isRejection (h : f.IsInvalidByCommand) :
  f.IsRejection
  := by
  obtain ⟨r, rfl, hcode⟩ := h
  exact .inr (congrArg some hcode)

/-- A fault is classified as it should be, whatever is told of it, exactly if it is not a command
that was refused for a document that its collection does not admit.  Another attempt follows a
rejection exactly if it is such a command and the message tells a transient failure. -/
theorem isClassified_iff (f : Fault) (message : String) :
  (f.IsClassified message ↔ ¬ f.IsInvalidByCommand)
    ∧ (f.IsRejection ∧ RetryPolicy.isRetriable (f.toErrorWith message) = true
      ↔ f.IsInvalidByCommand ∧ isTransientMessage message = true)
  := by
  constructor
  · constructor
    · rintro hclassified ⟨r, rfl, hcode⟩
      have hintegrity := hclassified.invalid (congrArg some hcode)
      rw [toErrorWith_of_isInvalidByCommand ⟨r, rfl, hcode⟩] at hintegrity
      cases hintegrity
    · intro hnot
      exact {
        rejected := fun h => not_isRetriable_of_isRejection h hnot
        retried := isRetriable_of_isOutage
        duplicate := toErrorWith_of_duplicate
        invalid := fun h => toErrorWith_of_invalid h hnot }
  · constructor
    · rintro ⟨hrejection, hretriable⟩
      by_cases hcommand : f.IsInvalidByCommand
      · rw [toErrorWith_of_isInvalidByCommand hcommand] at hretriable
        exact ⟨hcommand, hretriable⟩
      · cases (not_isRetriable_of_isRejection hrejection hcommand).symm.trans hretriable
    · rintro ⟨hcommand, htransient⟩
      use hcommand.isRejection
      rw [toErrorWith_of_isInvalidByCommand hcommand]
      exact htransient

/-- A command refused for its document is tried again where the server says that it timed out. -/
theorem not_forall_isClassified :
  ¬ ∀ f : Fault, f.IsClassified f.message
  := by
  intro h
  have hrejected := (h (command { code := 121, message := "operation timed out" })).rejected
    (.inr rfl)
  revert hrejected
  decide

end Fault

end Mongo

end Storekeeper

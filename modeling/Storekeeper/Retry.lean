import Storekeeper.Redaction

/-!
# Retries

Connecting is tried several times, with a delay that doubles from one attempt to the next.
`RetryPolicy.isRetriable` decides from the error whether another attempt is worthwhile:
a classified failure of the store by its kind, and an unclassified one by the markers in its
message.  Delays are words of 64 bits and saturate at the largest.  Up to a tenth may be added to
a delay, as in a build that checks its sums: one that is no word ends the call that makes it.
-/

namespace Storekeeper

/-- Parts of a message, in small letters, that tell a transient failure. -/
def transientMarkers : List String :=
  ["econnrefused", "connection refused", "enotfound", "host not found", "etimedout",
    "timed out", "econnreset", "connection reset", "connection terminated unexpectedly"]

/-- Whether `part` occurs in a text. -/
def Text.contains (part : List Char) : List Char → Bool
  | [] => part.isEmpty
  | c :: rest => part.isPrefixOf (c :: rest) || Text.contains part rest

/-- Whether a message tells a transient failure, in any letter case. -/
def isTransientMessage (message : String) : Bool :=
  let s := Text.lower message.toList
  transientMarkers.any fun marker => Text.contains marker.toList s

/-- The product of two words, or the largest word if it does not fit. -/
def saturatingMul (a b : UInt64) : UInt64 :=
  if a.toNat * b.toNat < UInt64.size then a * b else UInt64.ofNat (UInt64.size - 1)

/-- The sum of two words, if it fits. -/
def checkedAdd (a b : UInt64) : Option UInt64 :=
  if a.toNat + b.toNat < UInt64.size then some (a + b) else none

/-- How often and how soon a failed attempt is repeated. -/
structure RetryPolicy where
  /-- The largest number of attempts, the first included. -/
  maxAttempts : Nat := 3
  /-- The delay after the first attempt, in milliseconds. -/
  baseDelay : UInt64 := 1000
  /-- Whether up to a tenth is added to a delay. -/
  useJitter : Bool := false
deriving DecidableEq, Repr

/-- One failed attempt of a sequence. -/
structure FailedAttempt where
  /-- The number of the attempt, counted from one. -/
  number : Nat
  error : Redaction.SanitizedError
  /-- The delay before the next attempt, if there is one. -/
  delay : Option UInt64
deriving DecidableEq, Repr

/-- What follows a failed attempt. -/
inductive Sequel where
  /-- Another attempt, after a delay in milliseconds. -/
  | again (delay : UInt64)
  /-- The sequence ends. -/
  | surrender
  /-- There is no delay before the next attempt, and the call ends without a result. -/
  | crash
deriving DecidableEq, Repr

namespace RetryPolicy

/-- Whether another attempt is worthwhile after an error. -/
def isRetriable : Error → Bool
  | .store .other text => isTransientMessage text
  | .store kind _ => kind.isTransient
  | _ => false

/-- The delay after an attempt, without jitter. -/
def backoff (policy : RetryPolicy) (attempt : Nat) : UInt64 :=
  saturatingMul policy.baseDelay (1 <<< UInt64.ofNat (min (attempt - 1) 63))

/-- The delay after an attempt, with the jitter that the random word `draw` gives, if the two
together are a word. -/
def delay? (policy : RetryPolicy) (draw : UInt64) (attempt : Nat) : Option UInt64 :=
  let d := policy.backoff attempt
  if policy.useJitter && 0 < d then checkedAdd d (draw % (d / 10 + 1)) else some d

/-- The number of attempts that are made at most. -/
def budget (policy : RetryPolicy) : Nat := max policy.maxAttempts 1

/-- What follows attempt number `attempt`, which failed with `e`. -/
def sequel (policy : RetryPolicy) (draw : UInt64) (attempt : Nat) (e : Error) : Sequel :=
  if isRetriable e && attempt < policy.budget then
    match policy.delay? draw attempt with
    | some delay => .again delay
    | none => .crash
  else .surrender

/-- The number of the attempt at which a sequence ends whose attempts all fail with `e`. -/
def attemptsAgainst (policy : RetryPolicy) (e : Error) : Nat :=
  if isRetriable e then policy.budget else 1

end RetryPolicy

end Storekeeper

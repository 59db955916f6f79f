import Storekeeper.Text.WordChar

/-!
# Masking fragments of a text

A rule tells whether a fragment that must not be shown starts at a given place of a text, and
how much of the fragment's beginning may stay.  `Rule.apply` runs through a text from left to
right, replaces the rest of each fragment by the mask and goes on behind the fragment.
-/

namespace Storekeeper.Redaction

/-- The text that is written in place of what is masked. -/
def mask : List Char := ['*', '*', '*']

/-- A fragment of `length` characters, of which the first `kept` stay. -/
structure Fragment where
  kept : Nat
  length : Nat
deriving DecidableEq, Repr

/-- Whether a fragment starts between a character, if there is one, and the text after it. -/
abbrev Rule := Option Char → List Char → Option Fragment

/-- The text `s` behind the character `before`, with fragments masked; its first `skipped`
characters belong to a fragment already dealt with. -/
def Rule.run (rule : Rule) : Nat → Option Char → List Char → List Char
  | _, _, [] => []
  | skipped + 1, _, c :: rest => Rule.run rule skipped (some c) rest
  | 0, before, c :: rest =>
    match rule before (c :: rest) with
    | none => c :: Rule.run rule 0 (some c) rest
    | some fragment =>
      (c :: rest).take fragment.kept ++ mask ++ Rule.run rule (fragment.length - 1) (some c) rest

/-- A text with the fragments of a rule masked. -/
def Rule.apply (rule : Rule) (s : List Char) : List Char := rule.run 0 none s

/-- Whether the rule finds a fragment somewhere in a text that follows `before`. -/
def Rule.occurs (rule : Rule) : Option Char → List Char → Bool
  | _, [] => false
  | before, c :: rest => (rule before (c :: rest)).isSome || Rule.occurs rule (some c) rest

/-- A text in which a rule finds nothing stays as it is. -/
theorem Rule.run_eq_self (rule : Rule) (before : Option Char) (s : List Char)
    (h : rule.occurs before s = false) :
  rule.run 0 before s = s
  := by
  induction s generalizing before with
  | nil => rfl
  | cons c rest ih =>
    simp only [Rule.occurs, Bool.or_eq_false_iff] at h
    have hnone : rule before (c :: rest) = none := by
      simpa using h.1
    simp [Rule.run, hnone, ih (some c) h.2]

theorem Rule.apply_eq_self (rule : Rule) (s : List Char) (h : rule.occurs none s = false) :
  rule.apply s = s
  := rule.run_eq_self none s h

end Storekeeper.Redaction

import Mathlib.Tactic.Use
import Storekeeper.Redaction

/-!
# The characters of fragments

How the classes of characters that the rules distinguish lie to each other: digits and letters are
word characters, and no digit, letter or blank is one of the others.
-/

namespace Storekeeper

namespace Text

/-- Whether each run of a set lies in a run of another one. -/
def CharSet.covers (t s : CharSet) : Bool :=
  s.all fun run => t.any fun run' => run'.1.ble run.1 && run.2.ble run'.2

theorem CharSet.mem_of_covers {s t : CharSet} (h : t.covers s = true) {c : Char}
    (hc : s.mem c = true) :
  t.mem c = true
  := by
  simp only [CharSet.covers, List.all_eq_true, List.any_eq_true, Bool.and_eq_true, Nat.ble_eq] at h
  simp only [CharSet.mem, List.any_eq_true, Bool.and_eq_true, decide_eq_true_eq] at hc ⊢
  obtain ⟨run, hrun, hfirst, hlast⟩ := hc
  obtain ⟨run', hrun', hfirst', hlast'⟩ := h run hrun
  use run', hrun'
  omega

theorem CharSet.not_mem_of_disjoint {s t : CharSet}
    (h : ∀ run ∈ s, ∀ run' ∈ t, run.2 < run'.1 ∨ run'.2 < run.1) {c : Char} (hc : s.mem c = true) :
  t.mem c = false
  := by
  rw [← Bool.not_eq_true]
  intro hc'
  simp only [CharSet.mem, List.any_eq_true, Bool.and_eq_true, decide_eq_true_eq] at hc hc'
  obtain ⟨run, hrun, hfirst, hlast⟩ := hc
  obtain ⟨run', hrun', hfirst', hlast'⟩ := hc'
  have hdisjoint := h run hrun run' hrun'
  omega

theorem toNat_of_isAlpha {c : Char} (h : c.isAlpha = true) :
  (65 ≤ c.toNat ∧ c.toNat ≤ 90) ∨ (97 ≤ c.toNat ∧ c.toNat ≤ 122)
  := by
  rcases Bool.or_eq_true_iff.mp h with hupper | hlower
  · obtain ⟨hfirst, hlast⟩ := of_decide_eq_true hupper
    exact .inl ⟨UInt32.le_iff_toNat_le.mp hfirst, UInt32.le_iff_toNat_le.mp hlast⟩
  · obtain ⟨hfirst, hlast⟩ := Bool.and_eq_true_iff.mp hlower
    exact .inr ⟨UInt32.le_iff_toNat_le.mp (of_decide_eq_true hfirst),
      UInt32.le_iff_toNat_le.mp (of_decide_eq_true hlast)⟩

theorem toNat_of_isDigit {c : Char} (h : c.isDigit = true) :
  48 ≤ c.toNat ∧ c.toNat ≤ 57
  := by
  simpa [Char.isDigit, UInt32.le_iff_toNat_le] using h

/-- The decimal digits of all scripts are those of the table, which begins with those of ASCII. -/
theorem mem_of_isDecimalDigit {c : Char} (h : isDecimalDigit c = true) :
  decimalDigits.mem c = true
  := by
  unfold isDecimalDigit at h
  split at h
  · have hrange := toNat_of_isDigit h
    simp [decimalDigits, CharSet.mem_cons, hrange]
  · exact h

theorem isWord_of_isDecimalDigit {c : Char} (h : isDecimalDigit c = true) :
  isWord c = true
  := by
  unfold isWord
  split
  · next hc =>
    rw [isDecimalDigit, if_pos hc] at h
    simp [Char.isAlphanum, h]
  · next hc =>
    have hmem := mem_of_isDecimalDigit h
    rw [decimalDigits, CharSet.mem_cons] at hmem
    -- The digits of ASCII are no part of the table of word characters.
    have hascii : (decide (0x30 ≤ c.toNat) && decide (c.toNat ≤ 0x39)) = false := by
      simp only [Bool.and_eq_false_iff, decide_eq_false_iff_not]
      omega
    simp only [hascii, Bool.false_or] at hmem
    apply CharSet.mem_of_covers _ hmem
    decide +kernel

theorem isWord_of_isAlpha {c : Char} (h : c.isAlpha = true) :
  isWord c = true
  := by
  have hletter := toNat_of_isAlpha h
  rw [isWord, if_pos (by omega), Char.isAlphanum, h]
  rfl

theorem isAlpha_of_toLower {c : Char} (h : c.toLower.isAlpha = true) :
  c.isAlpha = true
  := by
  unfold Char.toLower at h
  split at h
  · next hc =>
    have hupper : c.isUpper = true := decide_eq_true hc
    exact Bool.or_eq_true_iff.mpr (.inl hupper)
  · exact h

theorem not_isBlank_of_isAlpha {c : Char} (h : c.isAlpha = true) :
  isBlank c = false
  := by
  rw [← Bool.not_eq_true]
  intro hblank
  have hletter := toNat_of_isAlpha h
  simp only [isBlank, blanks, CharSet.mem_cons, CharSet.mem_nil, Bool.or_eq_true, Bool.and_eq_true,
    decide_eq_true_eq, Bool.false_eq_true, or_false] at hblank
  omega

theorem not_isDecimalDigit_of_isAlpha {c : Char} (h : c.isAlpha = true) :
  isDecimalDigit c = false
  := by
  have hletter := toNat_of_isAlpha h
  rw [isDecimalDigit, if_pos (by omega), ← Bool.not_eq_true]
  intro hdigit
  have hrange := toNat_of_isDigit hdigit
  omega

theorem not_isBlank_of_isDecimalDigit {c : Char} (h : isDecimalDigit c = true) :
  isBlank c = false
  := by
  apply CharSet.not_mem_of_disjoint _ (mem_of_isDecimalDigit h)
  decide

end Text

namespace Redaction

theorem isWord_of_isFoldedLetter {c : Char} (h : isFoldedLetter c = true) :
  Text.isWord c = true
  := by
  simp only [isFoldedLetter, Bool.or_eq_true, beq_iff_eq] at h
  rcases h with (h | h) | h
  · exact Text.isWord_of_isAlpha h
  · obtain rfl : c = 'ſ' := Char.toNat_inj.mp h
    decide
  · obtain rfl : c = '\u212a' := Char.toNat_inj.mp h
    decide +kernel

/-- What folds to a letter is a letter, or the long s. -/
theorem isAlpha_or_of_foldsTo {letter c : Char} (hl : letter.isAlpha = true)
    (h : foldsTo letter c = true) :
  c.isAlpha = true ∨ c = 'ſ'
  := by
  simp only [foldsTo, Bool.or_eq_true, Bool.and_eq_true, beq_iff_eq] at h
  rcases h with h | ⟨-, h⟩
  · left
    apply Text.isAlpha_of_toLower
    rw [h, hl]
  · right
    exact Char.toNat_inj.mp h

theorem isWord_of_foldsTo {letter c : Char} (hl : letter.isAlpha = true)
    (h : foldsTo letter c = true) :
  Text.isWord c = true
  := by
  rcases isAlpha_or_of_foldsTo hl h with h | rfl
  · exact Text.isWord_of_isAlpha h
  · decide

theorem isPasswordChar_of_isDecimalDigit {c : Char} (h : Text.isDecimalDigit c = true) :
  isPasswordChar c = true
  := by
  simp only [isPasswordChar, Text.not_isBlank_of_isDecimalDigit h, Bool.not_false, Bool.true_and,
    Bool.and_eq_true, bne_iff_ne]
  constructor
  · rintro rfl
    cases h
  · rintro rfl
    cases h

/-- Whether `c` may stand in what stays of a quoted user name. -/
def isUserMark (c : Char) : Bool :=
  c.isAlpha || c == 'ſ' || Text.isBlank c || c == ':' || c == '='

theorem not_isDecimalDigit_of_isUserMark {c : Char} (h : isUserMark c = true) :
  Text.isDecimalDigit c = false ∧ c ≠ '.'
  := by
  constructor
  · rw [← Bool.not_eq_true]
    intro hdigit
    simp only [isUserMark, Bool.or_eq_true, beq_iff_eq] at h
    rcases h with (((h | rfl) | h) | rfl) | rfl
    · rw [Text.not_isDecimalDigit_of_isAlpha h] at hdigit
      cases hdigit
    · revert hdigit
      decide
    · rw [Text.not_isBlank_of_isDecimalDigit hdigit] at h
      cases h
    · cases hdigit
    · cases hdigit
  · rintro rfl
    revert h
    decide

end Redaction

end Storekeeper

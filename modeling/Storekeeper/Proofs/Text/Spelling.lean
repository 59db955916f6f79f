import Storekeeper.Proofs.Redaction.Patterns
import Storekeeper.Text.LowerCase

/-!
# Ways to write a word and a number

A word may be written with capitals and between blanks, and a number with zeros in front and between
blanks.  Trimming takes the blanks off again, and the small form of a text of letters and digits is
found character by character, so the word comes back as it was, and so does the number.
-/

namespace Storekeeper

namespace Text

/-- The text `t` is `s` between blanks. -/
def IsPadded (s t : List Char) : Prop :=
  ∃ before after, (∀ c ∈ before, isBlank c = true) ∧ (∀ c ∈ after, isBlank c = true)
    ∧ t = before ++ (s ++ after)

/-- The text `t` is `s` with any of its letters as capitals or as small letters. -/
def IsRecased (s t : List Char) : Prop := t.map Char.toLower = s.map Char.toLower

instance (s t : List Char) : Decidable (IsRecased s t) :=
  inferInstanceAs (Decidable (t.map Char.toLower = s.map Char.toLower))

/-- The text writes the word in any letter case and between blanks. -/
def WritesWord (word text : String) : Prop :=
  ∃ w, IsRecased word.toList w ∧ IsPadded w text.toList

/-- The text writes the number in decimal, with any zeros in front and between blanks. -/
def WritesNumber (n : Nat) (text : String) : Prop :=
  ∃ zeros, IsPadded (List.replicate zeros '0' ++ Nat.toDigits 10 n) text.toList

/-- A text of small letters and digits. -/
def IsSmallWord (s : List Char) : Prop :=
  s ≠ [] ∧ ∀ c ∈ s, c.isAlphanum = true ∧ c.toLower = c

instance (s : List Char) : Decidable (IsSmallWord s) :=
  letI := List.decidableBAll (fun c : Char => c.isAlphanum = true ∧ c.toLower = c) s
  instDecidableAnd

theorem isPadded_self (s : List Char) :
  IsPadded s s
  := ⟨[], [], List.forall_mem_nil _, List.forall_mem_nil _, (List.append_nil s).symm⟩

theorem writesWord_self (word : String) :
  WritesWord word word
  := ⟨word.toList, rfl, isPadded_self _⟩

theorem writesNumber_repr (n : Nat) :
  WritesNumber n (Nat.repr n)
  := by
  use 0
  rw [Nat.toList_repr]
  exact isPadded_self _

section

variable {s t : List Char} {c : Char}

/-! ### Letters and digits -/

theorem isAlphanum_of_toLower (h : c.toLower.isAlphanum = true) :
  c.isAlphanum = true
  := by
  rcases Bool.or_eq_true_iff.mp h with hletter | hdigit
  · exact Bool.or_eq_true_iff.mpr (.inl (isAlpha_of_toLower hletter))
  · unfold Char.toLower at hdigit
    split at hdigit
    · next hc =>
      have hupper : c.isUpper = true := decide_eq_true hc
      exact Bool.or_eq_true_iff.mpr (.inl (Bool.or_eq_true_iff.mpr (.inl hupper)))
    · exact Bool.or_eq_true_iff.mpr (.inr hdigit)

theorem lt_of_isAlphanum (h : c.isAlphanum = true) :
  c.toNat < 128
  := by
  rcases Bool.or_eq_true_iff.mp h with hletter | hdigit
  · have hrange := toNat_of_isAlpha hletter
    omega
  · have hrange := toNat_of_isDigit hdigit
    omega

theorem not_isBlank_of_isDigit (h : c.isDigit = true) :
  isBlank c = false
  := by
  have hrange := toNat_of_isDigit h
  apply not_isBlank_of_isDecimalDigit
  rw [isDecimalDigit, if_pos (by omega)]
  exact h

theorem not_isBlank_of_isAlphanum (h : c.isAlphanum = true) :
  isBlank c = false
  := by
  rcases Bool.or_eq_true_iff.mp h with hletter | hdigit
  · exact not_isBlank_of_isAlpha hletter
  · exact not_isBlank_of_isDigit hdigit

theorem IsSmallWord.map_toLower (h : IsSmallWord s) :
  s.map Char.toLower = s
  := by
  calc
    s.map Char.toLower = s.map id := List.map_congr_left fun c hc => (h.2 c hc).2
    _ = s := List.map_id s

/-- A text of letters and digits is one however it is written. -/
theorem IsRecased.isAlphanum (h : IsRecased s t) (hs : IsSmallWord (s.map Char.toLower)) :
  ∀ c ∈ t, c.isAlphanum = true
  := by
  intro c hc
  apply isAlphanum_of_toLower
  have hmem : c.toLower ∈ s.map Char.toLower := h ▸ List.mem_map_of_mem hc
  exact (hs.2 _ hmem).1

theorem IsRecased.ne_nil (h : IsRecased s t) (hs : s ≠ []) :
  t ≠ []
  := by
  rintro rfl
  exact hs (List.map_eq_nil_iff.mp h.symm)

/-! ### Blanks around a text -/

/-- The blanks around a text are those that trimming takes off. -/
theorem trim_of_isPadded (h : IsPadded s t) (hne : s ≠ []) (hs : ∀ c ∈ s, isBlank c = false) :
  trim t = s
  := by
  obtain ⟨before, after, hbefore, hafter, rfl⟩ := h
  have hhead : ∀ c ∈ (s ++ after).head?, isBlank c = false := by
    intro c hc
    rw [List.head?_append_of_ne_nil s hne] at hc
    exact hs c (List.mem_of_mem_head? hc)
  have hlast : ∀ c ∈ s.reverse.head?, isBlank c = false := by
    intro c hc
    exact hs c (List.mem_reverse.mp (List.mem_of_mem_head? hc))
  have hrest : trimStart (s ++ after).reverse = s.reverse := by
    rw [List.reverse_append]
    apply Redaction.trimStart_append _ hlast
    intro c hc
    exact hafter c (List.mem_reverse.mp hc)
  rw [trim, Redaction.trimStart_append hbefore hhead]
  calc
    trimEnd (s ++ after) = (trimStart (s ++ after).reverse).reverse := rfl
    _ = s := by rw [hrest, List.reverse_reverse]

/-! ### Words -/

/-- The small form of a text without other characters than those of ASCII. -/
theorem lowerFrom_eq_map (h : ∀ c ∈ s, c.toNat < 128) (before : List Char) :
  lowerFrom before s = s.map Char.toLower
  := by
  induction s generalizing before with
  | nil => rfl
  | cons c s ih =>
    obtain ⟨hc, hs⟩ := List.forall_mem_cons.mp h
    have hsigma : (c.toNat == 0x3A3) = false := by
      rw [beq_eq_false_iff_ne]
      omega
    rw [lowerFrom, ih hs, lowerAt, hsigma, lowerChar, if_pos hc]
    rfl

theorem lower_of_isRecased (hs : IsSmallWord (s.map Char.toLower)) (h : IsRecased s t) :
  lower t = s.map Char.toLower
  := by
  rw [lower, lowerFrom_eq_map fun c hc => lt_of_isAlphanum (h.isAlphanum hs c hc), h]

/-- However a word is written, it is found again without the blanks and in small letters. -/
theorem lowered_trimmed {word text : String} (hword : IsSmallWord word.toList)
    (h : WritesWord word text) :
  lowered (trimmed text) = word
  := by
  obtain ⟨w, hcase, hpadded⟩ := h
  have hsmall : IsSmallWord (word.toList.map Char.toLower) := by
    rwa [hword.map_toLower]
  have hblank : ∀ c ∈ w, isBlank c = false := fun c hc =>
    not_isBlank_of_isAlphanum (hcase.isAlphanum hsmall c hc)
  rw [lowered, trimmed, String.toList_ofList,
    trim_of_isPadded hpadded (hcase.ne_nil hword.1) hblank, lower_of_isRecased hsmall hcase,
    hword.map_toLower, String.ofList_toList]

/-! ### Numbers -/

theorem isDigit_of_mem_numeral {zeros n : Nat}
    (h : c ∈ List.replicate zeros '0' ++ Nat.toDigits 10 n) :
  c.isDigit = true
  := by
  rcases List.mem_append.mp h with hzero | hdigit
  · rw [List.eq_of_mem_replicate hzero]
    rfl
  · exact Nat.isDigit_of_mem_toDigits (by decide) (by decide) hdigit

theorem digitsValue_numeral (zeros n : Nat) :
  digitsValue 0 (List.replicate zeros '0' ++ Nat.toDigits 10 n) = n
  := by
  induction zeros with
  | zero => exact Nat.ofDigitChars_toDigits (by decide) (by decide)
  | succ zeros ih => exact ih

/-- However a number is written, it is found again, if it fits. -/
theorem readWord_of_writesNumber {width n : Nat} {text : String} (h : WritesNumber n text)
    (hn : n < Nat.pow 2 width) :
  readWord width (trim text.toList) = some n
  := by
  obtain ⟨zeros, hpadded⟩ := h
  have hdigits : ∀ c ∈ List.replicate zeros '0' ++ Nat.toDigits 10 n, c.isDigit = true :=
    fun c hc => isDigit_of_mem_numeral hc
  have hne : List.replicate zeros '0' ++ Nat.toDigits 10 n ≠ [] :=
    List.append_ne_nil_of_right_ne_nil _ Nat.toDigits_ne_nil
  have hread : readDigits (List.replicate zeros '0' ++ Nat.toDigits 10 n) = some n := by
    have hall := List.all_eq_true.mpr hdigits
    rw [readDigits, hall, List.isEmpty_eq_false_iff.mpr hne, digitsValue_numeral]
    rfl
  have hnatural : readNatural (List.replicate zeros '0' ++ Nat.toDigits 10 n) = some n := by
    unfold readNatural
    split
    · next hplus =>
      have hsign := hdigits '+' (hplus ▸ List.mem_cons_self)
      exact absurd hsign (by decide)
    · exact hread
  rw [trim_of_isPadded hpadded hne fun c hc => not_isBlank_of_isDigit (hdigits c hc), readWord,
    hnatural, Option.filter_some]
  exact if_pos (decide_eq_true hn)

end

end Text

end Storekeeper

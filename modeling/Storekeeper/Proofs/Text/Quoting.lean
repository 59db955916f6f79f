import Storekeeper.Proofs.Redaction.Passes
import Storekeeper.Text.Quoted

/-!
# What a quoted text says

The characters of a text can be read off its quoted form: `quotedChar_cases` lists the forms that a
character takes between quotes, no form begins another one, and none begins with a double quote.  So
different texts look different between quotes, whatever stands behind them.
-/

namespace Storekeeper.Text

/-! ### Hexadecimal numerals -/

theorem digitChar_inj {m n : Nat} (hm : m < 16) (hn : n < 16) (h : m.digitChar = n.digitChar) :
  m = n
  := by
  have hall : ∀ m < 16, ∀ n < 16, m.digitChar = n.digitChar → m = n := by decide
  exact hall m hm n hn h

theorem toDigits_inj {m n : Nat} (h : Nat.toDigits 16 m = Nat.toDigits 16 n) :
  m = n
  := by
  induction m using Nat.strong_induction_on generalizing n with
  | _ m ih =>
  have hlength := congrArg List.length h
  by_cases hm : m < 16
  · by_cases hn : n < 16
    · rw [Nat.toDigits_of_lt_base hm, Nat.toDigits_of_lt_base hn] at h
      exact digitChar_inj hm hn (List.singleton_inj.mp h)
    · rw [Nat.toDigits_of_lt_base hm, Nat.toDigits_of_base_le (by decide) (Nat.not_lt.mp hn),
        List.length_append] at hlength
      simp at hlength
  · by_cases hn : n < 16
    · rw [Nat.toDigits_of_lt_base hn, Nat.toDigits_of_base_le (by decide) (Nat.not_lt.mp hm),
        List.length_append] at hlength
      simp at hlength
    · rw [Nat.toDigits_of_base_le (by decide) (Nat.not_lt.mp hm),
        Nat.toDigits_of_base_le (by decide) (Nat.not_lt.mp hn)] at h
      obtain ⟨hquotient, hremainder⟩ := List.append_inj' h rfl
      have hdiv := ih (m / 16) (by omega) hquotient
      have hmod := digitChar_inj (Nat.mod_lt m (by decide)) (Nat.mod_lt n (by decide))
        (List.singleton_inj.mp hremainder)
      omega

theorem brace_not_mem_toDigits (n : Nat) :
  '\x7d' ∉ Nat.toDigits 16 n
  := by
  have hdigit : ∀ n < 16, '\x7d' ≠ n.digitChar := by decide
  induction n using Nat.strong_induction_on with
  | _ n ih =>
  rw [Nat.toDigits_eq_if (by decide)]
  split
  · next hlt =>
    rw [List.mem_singleton]
    exact hdigit n hlt
  · next hle =>
    rw [List.mem_append, List.mem_singleton, not_or]
    exact ⟨ih (n / 16) (by omega), hdigit (n % 16) (by omega)⟩

/-! ### Characters between quotes -/

/-- The characters that are shown by a letter or a mark behind a backslash. -/
def escapes : List (Char × Char) :=
  [('\x00', '0'), ('\t', 't'), ('\n', 'n'), ('\r', 'r'), ('\x22', '\x22'), ('\\', '\\')]

/-- A character stands between quotes by itself, by a mark of its own behind a backslash, or by its
code point. -/
theorem quotedChar_cases (c : Char) :
  ((quotedChar c).toList = [c] ∧ c ≠ '\x22' ∧ c ≠ '\\')
  ∨ (∃ e, (c, e) ∈ escapes ∧ (quotedChar c).toList = ['\\', e])
  ∨ (quotedChar c).toList = '\\' :: 'u' :: '\x7b' :: (Nat.toDigits 16 c.toNat ++ ['\x7d'])
  := by
  have hescape : ∀ p ∈ escapes, (quotedChar p.1).toList = ['\\', p.2] := by decide
  by_cases hmem : c ∈ escapes.map Prod.fst
  · right
    left
    obtain ⟨⟨c, e⟩, he, rfl⟩ := List.mem_map.mp hmem
    exact ⟨e, he, hescape _ he⟩
  · simp only [escapes, List.map_cons, List.map_nil, List.mem_cons, List.not_mem_nil, or_false,
      not_or] at hmem
    obtain ⟨hnul, htab, hline, hreturn, hquote, hslash⟩ := hmem
    simp only [quotedChar, beq_iff_eq, hnul, htab, hline, hreturn, hquote, hslash, if_false]
    split
    · left
      exact ⟨by simp, hquote, hslash⟩
    · right
      right
      simp [hexadecimal]

/-- No form of a character begins another one. -/
theorem quotedChar_append_inj {c d : Char} {u v : List Char}
    (h : (quotedChar c).toList ++ u = (quotedChar d).toList ++ v) :
  c = d ∧ u = v
  := by
  have hescapes : ∀ p ∈ escapes, p.2 ≠ 'u' ∧ ∀ p' ∈ escapes, p.2 = p'.2 → p.1 = p'.1 := by decide
  rcases quotedChar_cases c with ⟨hc, -, hne⟩ | ⟨e, he, hc⟩ | hc
  · rcases quotedChar_cases d with ⟨hd, -⟩ | ⟨e', -, hd⟩ | hd
    · simpa [hc, hd] using h
    · simp [hc, hd, hne] at h
    · simp [hc, hd, hne] at h
  · rcases quotedChar_cases d with ⟨hd, -, hne⟩ | ⟨e', he', hd⟩ | hd
    · simp [hc, hd, hne.symm] at h
    · simp only [hc, hd, List.cons_append, List.nil_append, List.cons.injEq, true_and] at h
      exact ⟨(hescapes _ he).2 _ he' h.1, h.2⟩
    · simp [hc, hd, (hescapes _ he).1] at h
  · rcases quotedChar_cases d with ⟨hd, -, hne⟩ | ⟨e', he', hd⟩ | hd
    · simp [hc, hd, hne.symm] at h
    · simp [hc, hd, (hescapes _ he').1.symm] at h
    · simp only [hc, hd, List.cons_append, List.append_assoc, List.nil_append, List.cons.injEq,
        true_and] at h
      obtain ⟨hdigits, -, hrest⟩ := Redaction.append_cons_inj h (brace_not_mem_toDigits _)
        (brace_not_mem_toDigits _)
      exact ⟨Char.toNat_inj.mp (toDigits_inj hdigits), hrest⟩

theorem head?_quotedChar_ne (c : Char) :
  (quotedChar c).toList.head? ≠ some '\x22' ∧ (quotedChar c).toList ≠ []
  := by
  rcases quotedChar_cases c with ⟨hc, hne, -⟩ | ⟨e, -, hc⟩ | hc
  · simpa [hc] using hne
  · simp [hc]
  · simp [hc]

/-! ### Quoted texts -/

/-- The characters of a text as they stand between quotes. -/
def quotedChars (s : List Char) : List Char := s.flatMap fun c => (quotedChar c).toList

theorem toList_quoted (s : String) :
  (quoted s).toList = '\x22' :: (quotedChars s.toList ++ ['\x22'])
  := by
  simp [quoted, quotedChars, String.toList_join, List.flatMap_map]

theorem quotedChars_append_inj {s t u v : List Char}
    (h : quotedChars s ++ '\x22' :: u = quotedChars t ++ '\x22' :: v) :
  s = t ∧ u = v
  := by
  -- The text that ends first would have its closing quote at the start of a character's form.
  have hend : ∀ {c : Char} {s u v : List Char},
      '\x22' :: u ≠ quotedChars (c :: s) ++ '\x22' :: v := by
    intro c s u v heq
    obtain ⟨hne, hnil⟩ := head?_quotedChar_ne c
    obtain ⟨q, rest, hq⟩ := List.exists_cons_of_ne_nil hnil
    rw [quotedChars, List.flatMap_cons, hq] at heq
    rw [hq] at hne
    obtain ⟨rfl, -⟩ := List.cons_eq_cons.mp heq
    exact hne rfl
  induction s generalizing t with
  | nil =>
    cases t with
    | nil => exact ⟨rfl, (List.cons_eq_cons.mp h).2⟩
    | cons d t => exact absurd h hend
  | cons c s ih =>
    cases t with
    | nil => exact absurd h.symm hend
    | cons d t =>
      simp only [quotedChars, List.flatMap_cons, List.append_assoc] at h
      obtain ⟨rfl, hrest⟩ := quotedChar_append_inj h
      obtain ⟨rfl, huv⟩ := ih hrest
      exact ⟨rfl, huv⟩

/-- A text can be read off its quoted form, and so can what stands behind it. -/
theorem quoted_append_inj {s t u v : String} (h : quoted s ++ u = quoted t ++ v) :
  s = t ∧ u = v
  := by
  have hlist := congrArg String.toList h
  simp only [String.toList_append, toList_quoted, List.cons_append, List.append_assoc,
    List.nil_append, List.cons.injEq, true_and] at hlist
  obtain ⟨hst, huv⟩ := quotedChars_append_inj hlist
  exact ⟨String.toList_inj.mp hst, String.toList_inj.mp huv⟩

end Storekeeper.Text

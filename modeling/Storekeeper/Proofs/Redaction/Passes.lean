import Storekeeper.Proofs.Redaction.Patterns

/-!
# What a pass leaves

`Pattern.Masks p q` relates a text to the text in which the fragments of `p` are masked, where no
fragment of `q` starts at a character that stays.  A rule that reads `p` masks in this sense, with
`p` itself for `q`.  What a pass leaves is free of `q` if `p` spares `q`: a fragment of `q` in the
masked text is one in the text, and none starts inside what stays of a fragment of `p`.

`Pattern.Leaves` says the same of a part of a text, in front of the rest of it.  What is left of a
part can be cut where the part can, outside of the fragments.
-/

namespace Storekeeper.Redaction

section

variable {α : Type} {x y a a' u u' : List α} {d d' : α}

/-- A character behind a cut lies in the one part of a text or in the other. -/
theorem append_eq_append_cons (h : x ++ y = a ++ d :: u) :
  (∃ w, a = x ++ w ∧ y = w ++ d :: u) ∨ ∃ w, x = a ++ d :: w ∧ u = w ++ y
  := by
  rcases List.append_eq_append_iff.mp h with ⟨w, ha, hy⟩ | ⟨w, hx, hw⟩
  · exact .inl ⟨w, ha, hy⟩
  · cases w with
    | nil => exact .inl ⟨[], by simpa using hx.symm, by simpa using hw.symm⟩
    | cons e w =>
      obtain ⟨rfl, hu⟩ := List.cons_eq_cons.mp hw
      exact .inr ⟨w, hx, hu⟩

/-- A text without a character ends before the first place of this character. -/
theorem exists_of_append_eq (h : x ++ y = a ++ d :: u) (hx : d ∉ x) :
  ∃ w, a = x ++ w ∧ y = w ++ d :: u
  := by
  rcases append_eq_append_cons h with hw | ⟨w, rfl, -⟩
  · exact hw
  · simp at hx

/-- A text is cut in one way at a character that is not in front of the cut. -/
theorem append_cons_inj (h : a ++ d :: u = a' ++ d' :: u') (ha : d' ∉ a) (ha' : d ∉ a') :
  a = a' ∧ d = d' ∧ u = u'
  := by
  obtain ⟨w, rfl, hw⟩ := exists_of_append_eq h ha
  cases w with
  | nil =>
    obtain ⟨rfl, rfl⟩ := List.cons_eq_cons.mp hw
    simp
  | cons e w =>
    obtain ⟨rfl, -⟩ := List.cons_eq_cons.mp hw
    simp at ha'

end

/-- The character before what stands behind a fragment that is not empty. -/
theorem getLast?_append_or {kept hidden s : List Char} (hne : hidden ≠ []) (before : Option Char) :
  (kept ++ (hidden ++ s)).getLast?.or before = s.getLast?.or hidden.getLast?
  := by
  rw [List.getLast?_append, List.getLast?_append, List.getLast?_eq_some_getLast hne]
  simp only [Option.or_assoc, Option.some_or]

/-! ### Masked texts -/

namespace Pattern

/-- The second text is the first with fragments of `p` masked, and no fragment of `q` starts at a
character outside of these.  The first text may follow a character. -/
inductive Masks (p q : Pattern) : Option Char → List Char → List Char → Prop
  | nil {before} : Masks p q before [] []
  | keep {before c rest out} : ¬ q.Starts before (c :: rest) → Masks p q (some c) rest out →
      Masks p q before (c :: rest) (c :: out)
  | fragment {before kept hidden rest out} : p before kept hidden rest →
      Masks p q hidden.getLast? rest out →
      Masks p q before (kept ++ (hidden ++ rest)) (kept ++ (mask ++ out))

/-- What is left of a text that stands in front of another one, when the fragments of `p` are
masked. -/
inductive Leaves (p : Pattern) (rest : List Char) : Option Char → List Char → List Char → Prop
  | nil {before} : Leaves p rest before [] []
  | keep {before c s out} : ¬ p.Starts before (c :: (s ++ rest)) → Leaves p rest (some c) s out →
      Leaves p rest before (c :: s) (c :: out)
  | fragment {before kept hidden s out} : p before kept hidden (s ++ rest) →
      Leaves p rest hidden.getLast? s out →
      Leaves p rest before (kept ++ (hidden ++ s)) (kept ++ (mask ++ out))

/-- Whether a fragment of `q` starts in a text outside of the fragments of `p` that are masked. -/
def Bares (p q : Pattern) (s : List Char) : Prop :=
  ∃ pre post out, s = pre ++ post ∧ p.Leaves post none pre out ∧ q.Starts pre.getLast? post

/-- Fragments whose hidden text has a property. -/
def concealing (p : Pattern) (P : List Char → Prop) : Pattern := fun before kept hidden after =>
  p before kept hidden after ∧ P hidden

variable {p p' q : Pattern} {before before' : Option Char} {s x y out : List Char}

theorem Masks.mono (h : Masks p q before s out)
    (hp : ∀ {before kept hidden after}, p before kept hidden after → p' before kept hidden after) :
  Masks p' q before s out
  := by
  induction h with
  | nil => exact .nil
  | keep hclear _ ih => exact .keep hclear ih
  | fragment hfragment _ ih => exact .fragment (hp hfragment) ih

theorem Delimited.concealing (hp : p.Delimited) (P : List Char → Prop) :
  (p.concealing P).Delimited
  where
  hidden_ne_nil h := hp.hidden_ne_nil h.1
  front h := hp.front h.1
  moved h hb := ⟨hp.moved h.1 hb, h.2⟩
  back h := hp.back h.1

theorem Delimited.startsWithWord (hp : p.Delimited) (h : p.Starts before s) :
  Text.startsWithWord s = true
  := by
  obtain ⟨kept, hidden, after, rfl, h⟩ := h
  rw [← List.append_assoc]
  exact startsWithWord_append (hp.front h).2 _

/-- Where a fragment starts behind a character, one starts behind any other that ends a word too,
or does not. -/
theorem Delimited.starts_congr (hp : p.Delimited) (h : p.Starts before s)
    (hb : Text.endsInWord before' = Text.endsInWord before) :
  p.Starts before' s
  := by
  obtain ⟨kept, hidden, after, rfl, h⟩ := h
  exact ⟨kept, hidden, after, rfl, hp.moved h (hb.trans (hp.front h).1)⟩

theorem not_occurs_append (hx : ∀ x₁ x₂, x = x₁ ++ x₂ → x₂ ≠ [] →
      ¬ p.Starts (x₁.getLast?.or before) (x₂ ++ y))
    (hy : ¬ p.Occurs y (x.getLast?.or before)) :
  ¬ p.Occurs (x ++ y) before
  := by
  induction x generalizing before with
  | nil => exact hy
  | cons c x ih =>
    rw [List.cons_append, occurs_cons, not_or]
    constructor
    · exact hx [] (c :: x) rfl (by simp)
    · apply ih
      · rintro x₁ x₂ rfl hne
        rw [← getLast?_cons_or c x₁ before]
        exact hx (c :: x₁) x₂ rfl hne
      · rw [← getLast?_cons_or c x before]
        exact hy

theorem Occurs.append (h : p.Occurs y (x.getLast?.or before)) :
  p.Occurs (x ++ y) before
  := by
  induction x generalizing before with
  | nil => exact h
  | cons c x ih =>
    rw [getLast?_cons_or] at h
    exact occurs_cons.mpr (.inr (ih h))

/-- Where a text has no fragment of a pattern, none starts at what is left of it. -/
theorem Masks.of_not_occurs (h : Masks p q before s out) {q' : Pattern} (hs : ¬ q'.Occurs s before)
    (hp : p.Delimited) :
  Masks p q' before s out
  := by
  induction h with
  | nil => exact .nil
  | keep _ _ ih =>
    rw [occurs_cons, not_or] at hs
    exact .keep hs.1 (ih hs.2)
  | @fragment before kept hidden rest out hfragment _ ih =>
    apply Masks.fragment hfragment
    apply ih
    intro hrest
    apply hs
    rw [← List.append_assoc]
    apply Occurs.append
    rw [List.getLast?_append_of_ne_nil _ (hp.hidden_ne_nil hfragment),
      Option.or_of_isSome (by simpa using hp.hidden_ne_nil hfragment)]
    exact hrest

/-- A beginning of a masked text is one of the text too, unless a masked fragment starts in it. -/
theorem Masks.append (h : Masks p q before s (x ++ y)) :
  (∃ r, s = x ++ r ∧ Masks p q (x.getLast?.or before) r y)
  ∨ ∃ x₁ x₂ kept hidden r out, x = x₁ ++ x₂ ∧ x₂ ≠ [] ∧ x₂ ++ y = kept ++ (mask ++ out)
    ∧ s = x₁ ++ (kept ++ (hidden ++ r)) ∧ p (x₁.getLast?.or before) kept hidden r
  := by
  induction x generalizing before s with
  | nil =>
    left
    exact ⟨s, rfl, h⟩
  | cons c x ih =>
    generalize hz : c :: x ++ y = z at h
    cases h with
    | nil => cases hz
    | @keep _ d rest out hclear h =>
      obtain ⟨rfl, rfl⟩ := List.cons_eq_cons.mp hz
      rcases ih h with ⟨r, rfl, hr⟩ | ⟨x₁, x₂, kept, hidden, r, out, rfl, hne, hy, rfl, hfragment⟩
      · left
        rw [getLast?_cons_or]
        exact ⟨r, rfl, hr⟩
      · right
        refine ⟨c :: x₁, x₂, kept, hidden, r, out, rfl, hne, hy, rfl, ?_⟩
        rw [getLast?_cons_or]
        exact hfragment
    | @fragment _ kept hidden rest out hfragment h =>
      right
      exact ⟨[], c :: x, kept, hidden, rest, out, rfl, by simp, hz, rfl, hfragment⟩

/-- No fragment starts at a character outside of words. -/
theorem Masks.exists_of_cons {c : Char} (hp : p.Delimited) (h : Masks p q before (c :: s) out)
    (hc : Text.isWord c = false) :
  ∃ out', out = c :: out'
  := by
  generalize hz : c :: s = z at h
  cases h with
  | nil => cases hz
  | keep _ _ =>
    obtain ⟨rfl, -⟩ := List.cons_eq_cons.mp hz
    exact ⟨_, rfl⟩
  | @fragment _ kept hidden rest _ hfragment _ =>
    have hword := startsWithWord_append (hp.front hfragment).2 rest
    rw [List.append_assoc, ← hz, Text.startsWithWord, hc] at hword
    cases hword

/-! ### Texts with fragments hidden -/

/-- The second text is the first with some fragments of `p` masked, wherever these would have to
stand. -/
inductive Hides (p : Pattern) : List Char → List Char → Prop
  | nil : Hides p [] []
  | keep {c s out} : Hides p s out → Hides p (c :: s) (c :: out)
  | fragment {before kept hidden after s out} : p before kept hidden after → Hides p s out →
      Hides p (kept ++ (hidden ++ s)) (kept ++ (mask ++ out))

theorem Masks.hides (h : Masks p q before s out) :
  p.Hides s out
  := by
  induction h with
  | nil => exact .nil
  | keep _ _ ih => exact .keep ih
  | fragment hfragment _ ih => exact .fragment hfragment ih

namespace Hides

/-- Every character of the masked text but the mask's was there before. -/
theorem mem (h : p.Hides s out) {c : Char} (hc : c ∈ out) (hne : c ≠ '*') :
  c ∈ s
  := by
  induction h with
  | nil => exact hc
  | keep _ ih =>
    rcases List.mem_cons.mp hc with rfl | hc
    · exact List.mem_cons_self
    · exact List.mem_cons_of_mem _ (ih hc)
  | fragment _ _ ih =>
    simp only [List.mem_append] at hc ⊢
    rcases hc with hc | hc | hc
    · exact .inl hc
    · simp [mask, hne] at hc
    · exact .inr (.inr (ih hc))

theorem forall_mem (h : p.Hides s out) {P : Char → Prop} (hout : ∀ c ∈ out, P c)
    (hp : ∀ {before kept hidden after}, p before kept hidden after → ∀ c ∈ hidden, P c) :
  ∀ c ∈ s, P c
  := by
  induction h with
  | nil => simp
  | keep _ ih =>
    obtain ⟨hc, hout⟩ := List.forall_mem_cons.mp hout
    exact List.forall_mem_cons.mpr ⟨hc, ih hout⟩
  | fragment hfragment _ ih =>
    simp only [List.forall_mem_append] at hout ⊢
    exact ⟨hout.1, hp hfragment, ih hout.2.2⟩

/-- A masked text is cut where the text is, at a character that is in no fragment's shown part. -/
theorem exists_of_append_cons {d : Char} {u v : List Char} (h : p.Hides s (u ++ d :: v))
    (hd : d ≠ '*') (hp : ∀ {before kept hidden after}, p before kept hidden after → d ∉ kept) :
  ∃ u₀ v₀, s = u₀ ++ d :: v₀ ∧ p.Hides u₀ u
  := by
  generalize hz : u ++ d :: v = z at h
  induction h generalizing u with
  | nil => simp at hz
  | @keep c s out h ih =>
    cases u with
    | nil =>
      obtain ⟨rfl, -⟩ := List.cons_eq_cons.mp hz
      exact ⟨[], s, rfl, .nil⟩
    | cons c' u =>
      obtain ⟨rfl, hout⟩ := List.cons_eq_cons.mp hz
      obtain ⟨u₀, v₀, rfl, hu⟩ := ih hout
      exact ⟨c' :: u₀, v₀, rfl, .keep hu⟩
  | @fragment before kept hidden after s out hfragment h ih =>
    -- The cut lies behind the mask.
    have hnot : d ∉ kept ++ mask := by
      simpa [mask, hd] using hp hfragment
    rw [← List.append_assoc] at hz
    obtain ⟨w, rfl, hw⟩ := exists_of_append_eq hz.symm hnot
    obtain ⟨u₀, v₀, rfl, hu⟩ := ih hw.symm
    refine ⟨kept ++ (hidden ++ u₀), v₀, by simp, ?_⟩
    rw [List.append_assoc]
    exact .fragment hfragment hu

theorem exists_of_cons {c : Char} (hp : p.Delimited) (h : p.Hides (c :: s) out)
    (hc : Text.isWord c = false) :
  ∃ out', out = c :: out'
  := by
  generalize hz : c :: s = z at h
  cases h with
  | nil => cases hz
  | keep _ =>
    obtain ⟨rfl, -⟩ := List.cons_eq_cons.mp hz
    exact ⟨_, rfl⟩
  | @fragment _ kept hidden _ s' _ hfragment _ =>
    have hword := startsWithWord_append (hp.front hfragment).2 s'
    rw [List.append_assoc, ← hz, Text.startsWithWord, hc] at hword
    cases hword

end Hides

/-! ### Parts of a text -/

theorem Masks.leaves (h : Masks p p before s out) :
  p.Leaves [] before s out
  := by
  induction h with
  | nil => exact .nil
  | keep hclear _ ih =>
    rw [← List.append_nil (_ :: _)] at hclear
    exact .keep hclear ih
  | @fragment _ _ _ rest _ hfragment _ ih =>
    rw [← List.append_nil rest] at hfragment
    exact .fragment hfragment ih

namespace Leaves

variable {rest : List Char}

/-- A text in which no fragment starts stays. -/
theorem self (h : ∀ x y, s = x ++ y → y ≠ [] → ∀ before, ¬ p.Starts before (y ++ rest)) :
  p.Leaves rest before s s
  := by
  induction s generalizing before with
  | nil => exact .nil
  | cons c s ih =>
    apply Leaves.keep
    · exact h [] (c :: s) rfl (by simp) before
    · apply ih
      rintro x y rfl
      exact h (c :: x) y rfl

/-- What is left of a text is cut where the text is, at a character that is not of a fragment. -/
theorem exists_of_append_cons {d : Char} (h : p.Leaves rest before s (x ++ d :: y))
    (hp : ∀ {before kept hidden after}, p before kept hidden after → d ∉ kept ++ mask) :
  ∃ u v, s = u ++ d :: v ∧ p.Leaves (d :: (v ++ rest)) before u x ∧ p.Leaves rest (some d) v y
  := by
  generalize hz : x ++ d :: y = z at h
  induction h generalizing x with
  | nil => simp at hz
  | @keep before c s out hclear h ih =>
    cases x with
    | nil =>
      obtain ⟨rfl, rfl⟩ := List.cons_eq_cons.mp hz
      exact ⟨[], s, rfl, .nil, h⟩
    | cons c' x =>
      obtain ⟨rfl, hout⟩ := List.cons_eq_cons.mp hz
      obtain ⟨u, v, rfl, hu, hv⟩ := ih hout
      exact ⟨c' :: u, v, rfl, .keep (by simpa using hclear) hu, hv⟩
  | @fragment before kept hidden s out hfragment h ih =>
    rw [← List.append_assoc] at hz
    obtain ⟨w, rfl, hw⟩ := exists_of_append_eq hz.symm (hp hfragment)
    obtain ⟨u, v, rfl, hu, hv⟩ := ih hw.symm
    refine ⟨kept ++ (hidden ++ u), v, by simp, ?_, hv⟩
    rw [List.append_assoc]
    exact .fragment (by simpa using hfragment) hu

/-- What is left without a mask is the text. -/
theorem eq_self (h : p.Leaves rest before s out) (hout : '*' ∉ out) :
  s = out
  := by
  induction h with
  | nil => rfl
  | keep _ _ ih => rw [ih fun hmem => hout (List.mem_cons_of_mem _ hmem)]
  | fragment _ _ _ => simp [mask] at hout

theorem exists_of_append (h : p.Leaves rest before s (x ++ y)) (hy : '*' ∉ y) :
  ∃ u, s = u ++ y ∧ p.Leaves (y ++ rest) before u x
  := by
  generalize hz : x ++ y = z at h
  induction h generalizing x with
  | nil =>
    obtain ⟨rfl, rfl⟩ := List.append_eq_nil_iff.mp hz
    exact ⟨[], rfl, .nil⟩
  | @keep before c s out hclear h ih =>
    cases x with
    | nil =>
      obtain rfl : y = c :: out := hz
      rw [h.eq_self fun hmem => hy (List.mem_cons_of_mem _ hmem)]
      exact ⟨[], rfl, .nil⟩
    | cons c' x =>
      obtain ⟨rfl, hout⟩ := List.cons_eq_cons.mp hz
      obtain ⟨u, rfl, hu⟩ := ih hout
      exact ⟨c' :: u, rfl, .keep (by simpa using hclear) hu⟩
  | @fragment before kept hidden s out hfragment h ih =>
    have hz : x ++ y = (kept ++ ['*', '*']) ++ '*' :: out := by simpa [mask] using hz
    rcases append_eq_append_cons hz with ⟨w, -, rfl⟩ | ⟨w, rfl, rfl⟩
    · simp at hy
    · obtain ⟨u, rfl, hu⟩ := ih rfl
      refine ⟨kept ++ (hidden ++ u), by simp, ?_⟩
      have hx : kept ++ ['*', '*'] ++ '*' :: w = kept ++ (mask ++ w) := by simp [mask]
      rw [hx]
      exact .fragment (by simpa using hfragment) hu

/-- Behind what is left a word ends if one ends behind the text, as none ends in a fragment. -/
theorem endsInWord (h : p.Leaves rest before s out) (hp : p.Delimited)
    (hback : ∀ {before kept hidden after}, p before kept hidden after →
      Text.endsInWord hidden.getLast? = false) :
  Text.endsInWord (out.getLast?.or before) = Text.endsInWord (s.getLast?.or before)
  := by
  induction h with
  | nil => rfl
  | keep _ _ ih =>
    rw [getLast?_cons_or, getLast?_cons_or]
    exact ih
  | @fragment before kept hidden s out hfragment _ ih =>
    rw [getLast?_append_or (by simp [mask]), getLast?_append_or (hp.hidden_ne_nil hfragment), ← ih]
    cases out.getLast? with
    | none => exact (hback hfragment).symm
    | some c => rfl

end Leaves

/-! ### Patterns that a pass spares -/

/-- Masking fragments of `p` makes no fragments of `q`. -/
structure Spares (p q : Pattern) : Prop where
  starts : ∀ {before s out}, p.Masks q before s out → q.Starts before out → q.Starts before s
  kept : ∀ {before kept hidden after out x y before'}, p before kept hidden after →
    p.Masks q hidden.getLast? after out → kept = x ++ y → y ≠ [] →
      ¬ q.Starts before' (y ++ (mask ++ out))

/-- A pass leaves no fragment of a pattern that it spares. -/
theorem Masks.not_occurs (h : p.Masks q before s out) (hp : p.Delimited) (hq : q.Delimited)
    (hpq : p.Spares q)
    (hb : Text.endsInWord before' = Text.endsInWord before ∨ Text.startsWithWord s = false) :
  ¬ q.Occurs out before'
  := by
  induction h generalizing before' with
  | nil =>
    rintro ⟨pre, post, hnil, hs⟩
    obtain ⟨rfl, rfl⟩ := List.append_eq_nil_iff.mp hnil.symm
    cases hq.startsWithWord hs
  | @keep before c rest out hclear h ih =>
    rw [occurs_cons, not_or]
    constructor
    case left =>
      intro hs
      have hb : Text.endsInWord before = Text.endsInWord before' := by
        rcases hb with hb | hb
        · exact hb.symm
        · rw [Text.startsWithWord] at hb
          cases hb.symm.trans (hq.startsWithWord hs)
      exact hclear (hpq.starts (.keep hclear h) (hq.starts_congr hs hb))
    case right => exact ih (.inl rfl)
  | @fragment before kept hidden rest out hfragment h ih =>
    apply not_occurs_append
    case hx => exact fun x₁ x₂ hkept hne => hpq.kept hfragment h hkept hne
    case hy =>
      apply not_occurs_append
      · -- The characters of the mask stand outside of words.
        intro x₁ x₂ hx hne hs
        have hx₂ : x₂.head hne = '*' := by
          have hmem : x₂.head hne ∈ mask := by
            rw [hx]
            exact List.mem_append_right _ (List.head_mem hne)
          simpa [mask] using hmem
        have hword := hq.startsWithWord hs
        rw [← List.cons_head_tail hne, hx₂] at hword
        cases hword
      · apply ih
        rcases hp.back hfragment with hback | hback
        · left
          rw [hback]
          rfl
        · exact .inr hback

end Pattern

/-! ### The run of a rule -/

namespace Rule

/-- The texts that a run masks, from left to right; as in `run`, the first `skipped` characters
belong to a fragment already dealt with. -/
def masked (rule : Rule) : Nat → Option Char → List Char → List (List Char)
  | _, _, [] => []
  | skipped + 1, _, c :: rest => masked rule skipped (some c) rest
  | 0, before, c :: rest =>
    match rule before (c :: rest) with
    | none => masked rule 0 (some c) rest
    | some fragment =>
      ((c :: rest).take fragment.length).drop fragment.kept
        :: masked rule (fragment.length - 1) (some c) rest

theorem run_length_append (rule : Rule) (before : Option Char) (x s : List Char) :
  rule.run x.length before (x ++ s) = rule.run 0 (x.getLast?.or before) s
  := by
  induction x generalizing before with
  | nil => rfl
  | cons c x ih =>
    rw [getLast?_cons_or]
    exact ih (some c)

theorem masked_length_append (rule : Rule) (before : Option Char) (x s : List Char) :
  rule.masked x.length before (x ++ s) = rule.masked 0 (x.getLast?.or before) s
  := by
  induction x generalizing before with
  | nil => rfl
  | cons c x ih =>
    rw [getLast?_cons_or]
    exact ih (some c)

/-- A fragment that was found is masked, and the run goes on behind it. -/
theorem run_fragment {rule : Rule} {before : Option Char} {kept hidden after : List Char}
    (h : rule before (kept ++ (hidden ++ after)) = some ⟨kept.length, kept.length + hidden.length⟩)
    (hne : hidden ≠ []) :
  rule.run 0 before (kept ++ (hidden ++ after))
      = kept ++ (mask ++ rule.run 0 hidden.getLast? after)
    ∧ rule.masked 0 before (kept ++ (hidden ++ after))
      = hidden :: rule.masked 0 hidden.getLast? after
  := by
  have hlast : (kept ++ hidden).getLast? = hidden.getLast? :=
    List.getLast?_append_of_ne_nil _ hne
  have htake : (kept ++ (hidden ++ after)).take kept.length = kept := List.take_left
  have hdrop : ((kept ++ (hidden ++ after)).take (kept.length + hidden.length)).drop kept.length
      = hidden := by
    rw [← List.append_assoc, ← List.length_append, List.take_left, List.drop_left]
  obtain ⟨c, w, hw⟩ := List.exists_cons_of_ne_nil (List.append_ne_nil_of_right_ne_nil kept hne)
  have hs : kept ++ (hidden ++ after) = c :: (w ++ after) := by
    rw [← List.append_assoc, hw, List.cons_append]
  have hlength : kept.length + hidden.length - 1 = w.length := by
    rw [← List.length_append, hw, List.length_cons, Nat.add_sub_cancel]
  have hbefore : w.getLast?.or (some c) = hidden.getLast? := by
    rw [← getLast?_cons_or c w none, ← hw, hlast, Option.or_none]
  rw [hs] at h htake hdrop ⊢
  constructor
  · simp only [run, h, htake, hlength, run_length_append, hbefore, List.append_assoc]
  · simp only [masked, h, hdrop, hlength, masked_length_append, hbefore]

/-- Induction along a run: it keeps a character at which no fragment starts, or masks a fragment and
goes on behind it. -/
theorem Reads.run_induction {rule : Rule} {p : Pattern} (h : rule.Reads p) (hp : p.Delimited)
    {motive : Option Char → List Char → Prop}
    (nil : ∀ before, motive before [])
    (keep : ∀ before c s, ¬ p.Starts before (c :: s) →
      rule.run 0 before (c :: s) = c :: rule.run 0 (some c) s
        ∧ rule.masked 0 before (c :: s) = rule.masked 0 (some c) s →
      motive (some c) s → motive before (c :: s))
    (fragment : ∀ before kept hidden after, p before kept hidden after →
      rule.run 0 before (kept ++ (hidden ++ after))
          = kept ++ (mask ++ rule.run 0 hidden.getLast? after)
        ∧ rule.masked 0 before (kept ++ (hidden ++ after))
          = hidden :: rule.masked 0 hidden.getLast? after →
      motive hidden.getLast? after → motive before (kept ++ (hidden ++ after)))
    (before : Option Char) (s : List Char) :
  motive before s
  := by
  cases s with
  | nil => exact nil before
  | cons c s =>
    cases hf : rule before (c :: s) with
    | none =>
      apply keep before c s
      · exact fun hs => h.complete before _ hs hf
      · simp only [run, masked, hf, and_self]
      · exact h.run_induction hp nil keep fragment (some c) s
    | some f =>
      obtain ⟨kept, hidden, after, hs, rfl, hfragment⟩ := h.sound before _ f hf
      have hne := hp.hidden_ne_nil hfragment
      have hlength : after.length < (c :: s).length := by
        have hpos := List.length_pos_of_ne_nil hne
        rw [hs, List.length_append, List.length_append]
        omega
      rw [hs] at hf ⊢
      apply fragment before kept hidden after hfragment (run_fragment hf hne)
      exact h.run_induction hp nil keep fragment hidden.getLast? after
termination_by s.length
decreasing_by
  · exact Nat.lt_add_one s.length
  · exact hlength

/-- A rule masks the fragments of the pattern that it reads. -/
theorem Reads.masks {rule : Rule} {p : Pattern} (h : rule.Reads p) (hp : p.Delimited)
    {P : List Char → Prop} {before : Option Char} {s : List Char}
    (hP : ∀ hidden ∈ rule.masked 0 before s, P hidden) :
  (p.concealing P).Masks p before s (rule.run 0 before s)
  := by
  induction before, s using h.run_induction hp with
  | nil before => exact .nil
  | keep before c s hclear hrun ih =>
    rw [hrun.2] at hP
    rw [hrun.1]
    exact .keep hclear (ih hP)
  | fragment before kept hidden after hfragment hrun ih =>
    rw [hrun.2, List.forall_mem_cons] at hP
    rw [hrun.1]
    exact .fragment ⟨hfragment, hP.1⟩ (ih hP.2)

theorem Reads.masks_apply {rule : Rule} {p : Pattern} (h : rule.Reads p) (hp : p.Delimited)
    (s : List Char) :
  p.Masks p none s (rule.apply s)
  := by
  have hmasks : (p.concealing fun _ => True).Masks p none s (rule.apply s) := by
    apply h.masks hp
    simp
  exact hmasks.mono And.left

/-- A rule that finds whole fragments makes of a part of a text what is left of it. -/
theorem Reads.run_append_of_leaves {rule : Rule} {p : Pattern} (h : rule.Reads p) (hp : p.Delimited)
    (hsome : ∀ {before kept hidden after}, p before kept hidden after →
      rule before (kept ++ (hidden ++ after)) = some ⟨kept.length, kept.length + hidden.length⟩)
    {rest : List Char} {before : Option Char} {s out : List Char} (hl : p.Leaves rest before s out) :
  rule.run 0 before (s ++ rest) = out ++ rule.run 0 (s.getLast?.or before) rest
  := by
  induction hl with
  | nil => rfl
  | @keep before c s out hclear _ ih =>
    have hnone : rule before (c :: (s ++ rest)) = none := by
      cases hf : rule before (c :: (s ++ rest)) with
      | none => rfl
      | some f =>
        obtain ⟨kept, hidden, after, heq, -, hfragment⟩ := h.sound before _ f hf
        exact absurd ⟨kept, hidden, after, heq, hfragment⟩ hclear
    rw [getLast?_cons_or, List.cons_append, List.cons_append, ← ih]
    simp only [run, hnone]
  | @fragment before kept hidden s out hfragment _ ih =>
    have hne := hp.hidden_ne_nil hfragment
    rw [getLast?_append_or hne, List.append_assoc, List.append_assoc, List.append_assoc,
      List.append_assoc, (run_fragment (hsome hfragment) hne).1, ih]

/-- Where no fragment occurs, the rule changes nothing. -/
theorem Reads.apply_eq_self {rule : Rule} {p : Pattern} (h : rule.Reads p) {s : List Char}
    (hs : ¬ p.Occurs s) :
  rule.apply s = s
  := by
  apply rule.apply_eq_self
  revert hs
  generalize none = before
  intro hs
  induction s generalizing before with
  | nil => rfl
  | cons c rest ih =>
    rw [Pattern.occurs_cons, not_or] at hs
    rw [occurs, ih _ hs.2, Bool.or_false]
    cases hf : rule before (c :: rest) with
    | none => rfl
    | some f =>
      obtain ⟨kept, hidden, after, heq, -, hfragment⟩ := h.sound before _ f hf
      exact absurd ⟨kept, hidden, after, heq, hfragment⟩ hs.1

end Rule

end Storekeeper.Redaction

import Storekeeper.Proofs.Redaction.Passes

/-!
# What redaction leaves

A redacted text has no dotted address and no quoted user name in it, and before the last pass it
has no credentials either.  The last pass may put credentials together again, as
`not_forall_not_occurs_credentials` shows: a quoted user name may hide a character that keeps a text
from being credentials.  `not_occurs_credentials_sanitize_iff` says when it does: exactly when the
text it is given has credentials but for quoted user names (`IsVeiled`), outside of the user names
that it masks.
-/

namespace Storekeeper.Redaction

/-! ### The characters of fragments -/

theorem IsScheme.exists_name {s : List Char} (h : IsScheme s) :
  ∃ name, s = name ++ [':', '/', '/'] ∧ name ≠ [] ∧ ∀ x ∈ name, isSchemeChar x = true
  := by
  obtain ⟨c, name, rfl, hc, hname⟩ := h
  use c :: name, rfl, by simp
  rw [List.forall_mem_cons]
  exact ⟨by simp [isSchemeChar, hc], hname⟩

theorem IsScheme.not_mem {s : List Char} (h : IsScheme s) {c : Char} (hc : isSchemeChar c = false)
    (hne : c ∉ [':', '/']) :
  c ∉ s
  := by
  obtain ⟨name, rfl, -, hname⟩ := h.exists_name
  have hnot : c ∉ name := by
    intro hmem
    rw [hname c hmem] at hc
    cases hc
  simpa [hnot] using hne

/-- A scheme ends with a slash. -/
theorem slash_mem_of_isScheme {x y : List Char} (h : IsScheme (x ++ y)) (hne : y ≠ []) :
  '/' ∈ y
  := by
  obtain ⟨name, hname, -⟩ := h.exists_name
  rcases List.eq_nil_or_concat y with rfl | ⟨z, d, rfl⟩
  · exact absurd rfl hne
  · have hlast : x ++ z ++ [d] = name ++ [':', '/'] ++ ['/'] := by simpa using hname
    obtain ⟨-, hd⟩ := List.append_inj' hlast rfl
    rw [List.concat_eq_append, hd]
    exact List.mem_append_right _ List.mem_cons_self

/-- A user name and a password are characters of a password, of which one that is not the first is a
colon. -/
theorem isUserInfo_iff {s : List Char} :
  IsUserInfo s ↔ (∀ c ∈ s, isPasswordChar c = true) ∧ ':' ∈ s ∧ s.head? ≠ some ':'
  := by
  constructor
  · rintro ⟨user, password, rfl, hne, huser, hpassword⟩
    obtain ⟨c, user, rfl⟩ := List.exists_cons_of_ne_nil hne
    have huser' : ∀ x ∈ c :: user, isPasswordChar x = true := by
      intro x hx
      have hx := huser x hx
      rw [isUserChar, Bool.and_eq_true] at hx
      exact hx.1
    refine ⟨?_, by simp, ?_⟩
    · rw [List.forall_mem_append]
      exact ⟨huser', List.forall_mem_cons.mpr ⟨by decide, hpassword⟩⟩
    · have hc := huser c List.mem_cons_self
      rintro heq
      obtain rfl : c = ':' := by simpa using heq
      cases hc
  · rintro ⟨hall, hcolon, hhead⟩
    obtain ⟨user, password, rfl, hnot⟩ := List.eq_append_cons_of_mem hcolon
    rw [List.forall_mem_append, List.forall_mem_cons] at hall
    refine ⟨user, password, rfl, ?_, ?_, hall.2.2⟩
    · rintro rfl
      exact hhead rfl
    · intro x hx
      rw [isUserChar, hall.1 x hx, Bool.true_and, bne_iff_ne]
      rintro rfl
      exact hnot hx

theorem IsUserInfo.not_mem {s : List Char} (h : IsUserInfo s) {c : Char}
    (hc : isPasswordChar c = false) :
  c ∉ s
  := by
  intro hmem
  rw [(isUserInfo_iff.mp h).1 c hmem] at hc
  cases hc

/-- An address is made of digits and dots. -/
theorem mem_address {group : List Char} {groups : List (List Char)} (hg : IsGroup group)
    (hall : ∀ g ∈ groups, IsGroup g) :
  ∀ c ∈ group ++ dotted groups, Text.isDecimalDigit c = true ∨ c = '.'
  := by
  intro c hc
  simp only [dotted, List.mem_append, List.mem_flatMap, List.mem_cons] at hc
  rcases hc with hc | ⟨g, hmem, rfl | hc⟩
  · exact .inl (hg.2.2 c hc)
  · exact .inr rfl
  · exact .inl ((hall g hmem).2.2 c hc)

theorem Spells.isUserMark {word s : List Char} (h : Spells word s)
    (hword : ∀ letter ∈ word, letter.isAlpha = true) :
  ∀ c ∈ s, isUserMark c = true
  := by
  induction h with
  | nil => simp
  | @cons letter c word s hc _ ih =>
    rw [List.forall_mem_cons] at hword ⊢
    constructor
    · rcases isAlpha_or_of_foldsTo hword.1 hc with hletter | rfl
      · simp [Redaction.isUserMark, hletter]
      · decide
    · exact ih hword.2

theorem IsUserName.isUserMark {before : Option Char} {kept hidden after : List Char}
    (h : IsUserName before kept hidden after) :
  ∀ c ∈ kept, isUserMark c = true
  := by
  obtain ⟨-, ⟨front, user, rfl, hfront, word, blanks, mark, blanks', rfl, hword, hblanks, hmark,
    hblanks'⟩, -⟩ := h
  have hblank : ∀ {s : List Char}, (∀ x ∈ s, Text.isBlank x = true) →
      ∀ x ∈ s, Redaction.isUserMark x = true := by
    intro s hs x hx
    simp [Redaction.isUserMark, hs x hx]
  simp only [List.forall_mem_append]
  refine ⟨?_, hword.isUserMark (List.all_eq_true.mp (by decide)), hblank hblanks, ?_,
    hblank hblanks'⟩
  · rcases hfront with rfl | ⟨word, blanks, rfl, hword, -, hblanks⟩
    · simp
    · rw [List.forall_mem_append]
      exact ⟨hword.isUserMark (List.all_eq_true.mp (by decide)), hblank hblanks⟩
  · simp only [List.mem_cons, List.not_mem_nil, or_false] at hmark
    apply List.all_eq_true.mp
    rcases hmark with rfl | rfl | rfl <;> decide

theorem IsUserName.not_mem {before : Option Char} {kept hidden after : List Char}
    (h : IsUserName before kept hidden after) {c : Char} (hc : Redaction.isUserMark c = false) :
  c ∉ kept
  := by
  intro hmem
  rw [h.isUserMark c hmem] at hc
  cases hc

theorem IsQuote.not_isUserMark {q : Char} (h : IsQuote q) :
  isUserMark q = false
  := by
  simp only [IsQuote, List.mem_cons, List.not_mem_nil, or_false] at h
  rcases h with rfl | rfl | rfl <;> decide

theorem IsQuote.ne_star {q : Char} (h : IsQuote q) :
  q ≠ '*'
  := by
  rintro rfl
  simp [IsQuote] at h

/-! ### Who spares whom -/

/-- A scheme that starts in another one is the end of it. -/
theorem IsScheme.eq_of_append_eq {scheme x₁ x₂ y t : List Char} (h : IsScheme (x₁ ++ x₂))
    (hscheme : IsScheme scheme) (hne : x₂ ≠ []) (heq : x₂ ++ y = scheme ++ t) :
  x₂ = scheme ∧ y = t
  := by
  obtain ⟨name, hname, -, hchars⟩ := h.exists_name
  obtain ⟨name', hname', -, hchars'⟩ := hscheme.exists_name
  rcases List.append_eq_append_iff.mp hname with ⟨e, rfl, hx₂⟩ | ⟨e, -, hx₂⟩
  · -- What starts in the name of the scheme ends with it.
    subst hx₂ hname'
    have hcut : e ++ ':' :: '/' :: '/' :: y = name' ++ ':' :: '/' :: '/' :: t := by
      simpa using heq
    have hcolon : ':' ∉ e := fun hmem => by cases hchars ':' (List.mem_append_right _ hmem)
    have hcolon' : ':' ∉ name' := fun hmem => by cases hchars' ':' hmem
    obtain ⟨rfl, -, hrest⟩ := append_cons_inj hcut hcolon hcolon'
    exact ⟨rfl, by simpa using hrest⟩
  · -- A scheme starts with a letter.
    exfalso
    obtain ⟨d, x₂, rfl⟩ := List.exists_cons_of_ne_nil hne
    have hd : d ∈ [':', '/', '/'] := by
      rw [hx₂]
      simp
    have hword := startsWithWord_append hscheme.startsWithWord t
    rw [← heq, List.cons_append, Text.startsWithWord] at hword
    simp only [List.mem_cons, List.not_mem_nil, or_false, or_self] at hd
    rcases hd with rfl | rfl
    · cases hword
    · cases hword

/-- A scheme that starts in credentials, with the mask behind it, is the end of their scheme. -/
theorem eq_append_of_isScheme {scheme scheme' info after out x₁ x₂ : List Char}
    (hscheme : IsScheme scheme) (hscheme' : IsScheme scheme') (hinfo : IsUserInfo info)
    (hx : scheme ++ (info ++ ['@']) = x₁ ++ x₂) (hne : x₂ ≠ [])
    (hy : x₂ ++ after = scheme' ++ (mask ++ out)) :
  scheme = x₁ ++ scheme'
  := by
  obtain ⟨name', hname', -⟩ := hscheme'.exists_name
  have hnot : ∀ z, info ++ ['@'] ≠ z ++ x₂ := by
    -- An at sign would stand in front of the slashes.
    intro z heq
    rcases List.eq_nil_or_concat x₂ with rfl | ⟨x₂, d, rfl⟩
    · exact hne rfl
    · have heq' : info ++ ['@'] = (z ++ x₂) ++ [d] := by simpa using heq
      obtain ⟨rfl, hd⟩ := List.append_inj' heq' rfl
      obtain rfl : '@' = d := by simpa using hd
      have hslash : '/' ∉ x₂ := by
        have hnot := hinfo.not_mem (by decide : isPasswordChar '/' = false)
        exact fun hmem => hnot (List.mem_append_right _ hmem)
      have hat : '@' ∉ name' ++ [':'] := by
        have hnot := hscheme'.not_mem (by decide : isSchemeChar '@' = false) (by decide)
        rw [hname', List.mem_append, not_or] at hnot
        simpa using hnot.1
      have hcut : x₂ ++ '@' :: after = (name' ++ [':']) ++ '/' :: '/' :: (mask ++ out) := by
        simpa [hname'] using hy
      obtain ⟨-, hne, -⟩ := append_cons_inj hcut hslash hat
      revert hne
      decide
  rcases List.append_eq_append_iff.mp hx with ⟨z, -, heq⟩ | ⟨w, rfl, rfl⟩
  · exact absurd heq (hnot z)
  · have hne' : w ≠ [] := by
      rintro rfl
      exact hnot [] rfl
    rw [List.append_assoc] at hy
    rw [(hscheme.eq_of_append_eq hscheme' hne' hy).1]

/-- Masking credentials makes no credentials. -/
theorem credentials_spares_credentials :
  IsCredentials.Spares IsCredentials
  where
  starts := by
    rintro before s _ h ⟨scheme, info, after, rfl, hf⟩
    obtain ⟨hb, hscheme, hinfo, hat⟩ := isCredentials_iff.mp hf
    obtain ⟨after, rfl⟩ := List.head?_eq_some_iff.mp hat
    have hout : scheme ++ (info ++ '@' :: after) = scheme ++ (info ++ ['@']) ++ after := by simp
    rw [hout] at h
    rcases h.append with ⟨r, rfl, -⟩ | ⟨x₁, x₂, kept, hidden, r, out, hx, hne, hy, rfl, hf'⟩
    · -- The fragment was there before.
      exact ⟨scheme, info, '@' :: r, by simp, isCredentials_iff.mpr ⟨hb, hscheme, hinfo, rfl⟩⟩
    · -- A masked fragment starts in it, which is the fragment without the start of its scheme.
      obtain ⟨-, hscheme', hinfo', hat'⟩ := isCredentials_iff.mp hf'
      have hkept := eq_append_of_isScheme hscheme hscheme' hinfo hx hne hy
      refine ⟨scheme, hidden, r, by rw [hkept, List.append_assoc], ?_⟩
      exact isCredentials_iff.mpr ⟨hb, hscheme, hinfo', hat'⟩
  kept := by
    rintro before kept hidden after out x y before' hf h rfl hne ⟨scheme, info, after', heq, hf'⟩
    obtain ⟨-, hscheme, hinfo, hat⟩ := isCredentials_iff.mp hf
    obtain ⟨-, hscheme', hinfo', hat'⟩ := isCredentials_iff.mp hf'
    obtain ⟨after, rfl⟩ := List.head?_eq_some_iff.mp hat
    obtain ⟨after', rfl⟩ := List.head?_eq_some_iff.mp hat'
    obtain ⟨out, rfl⟩ := h.exists_of_cons delimited_credentials (by decide)
    have hy : '@' ∉ y ++ mask := by
      have hnot := hscheme.not_mem (by decide : isSchemeChar '@' = false) (by decide)
      rw [List.mem_append, not_or] at hnot ⊢
      exact ⟨hnot.2, by decide⟩
    have hinfo : '@' ∉ scheme ++ info := by
      have hnot := hscheme'.not_mem (by decide : isSchemeChar '@' = false) (by decide)
      have hnot' := hinfo'.not_mem (by decide : isPasswordChar '@' = false)
      rw [List.mem_append, not_or]
      exact ⟨hnot, hnot'⟩
    -- What stays holds one colon, and credentials hold two.
    have heq : (y ++ mask) ++ '@' :: out = (scheme ++ info) ++ '@' :: after' := by simpa using heq
    have hcut := (append_cons_inj heq hy hinfo).1
    have hcolon := congrArg (List.count ':') hcut
    obtain ⟨name, hname, -, hchars⟩ := hscheme.exists_name
    obtain ⟨name', rfl, -⟩ := hscheme'.exists_name
    have hcount : List.count ':' name = 0 := by
      apply List.count_eq_zero_of_not_mem
      intro hmem
      cases hchars ':' hmem
    have hpos := List.count_pos_iff.mpr (isUserInfo_iff.mp hinfo').2.1
    have hxy := congrArg (List.count ':') hname
    simp [mask, List.count_append] at hcolon hxy
    omega

/-- Masking fragments makes no credentials, if what is shown of them holds no slash and no at sign,
and what is hidden could stand in a password. -/
theorem spares_credentials {p : Pattern} (hp : p.Delimited)
    (hkept : ∀ {before kept hidden after}, p before kept hidden after → '/' ∉ kept ∧ '@' ∉ kept)
    (hhidden : ∀ {before kept hidden after}, p before kept hidden after →
      ∀ c ∈ hidden, isPasswordChar c = true) :
  p.Spares IsCredentials
  where
  starts := by
    rintro before s _ h ⟨scheme, info, after, rfl, hf⟩
    obtain ⟨hb, hscheme, hinfo, hat⟩ := isCredentials_iff.mp hf
    obtain ⟨after, rfl⟩ := List.head?_eq_some_iff.mp hat
    rcases h.append with ⟨r, rfl, hr⟩ | ⟨x₁, x₂, kept, hidden, r, out, rfl, hne, hy, rfl, hf'⟩
    · obtain ⟨info₀, after₀, rfl, h₀⟩ :=
        hr.hides.exists_of_append_cons (by decide : '@' ≠ '*') fun hf => (hkept hf).2
      rw [isUserInfo_iff] at hinfo
      have hinfo₀ : IsUserInfo info₀ := by
        rw [isUserInfo_iff]
        refine ⟨h₀.forall_mem hinfo.1 hhidden, h₀.mem hinfo.2.1 (by decide), ?_⟩
        intro hhead
        obtain ⟨s, rfl⟩ := List.head?_eq_some_iff.mp hhead
        obtain ⟨out, rfl⟩ := h₀.exists_of_cons hp (by decide)
        exact hinfo.2.2 rfl
      exact ⟨scheme, info₀, '@' :: after₀, rfl,
        isCredentials_iff.mpr ⟨hb, hscheme, hinfo₀, rfl⟩⟩
    · -- The end of the scheme cannot be shown of a masked fragment.
      exfalso
      have hstar : '*' ∉ x₂ := by
        have hnot := hscheme.not_mem (by decide : isSchemeChar '*' = false) (by decide)
        exact fun hmem => hnot (List.mem_append_right _ hmem)
      obtain ⟨w, rfl, -⟩ := exists_of_append_eq hy hstar
      apply (hkept hf').1
      apply List.mem_append_left
      exact slash_mem_of_isScheme hscheme hne
  kept := by
    rintro before kept hidden after out x y before' hf - rfl hne ⟨scheme, info, after', heq, hf'⟩
    obtain ⟨-, hscheme, -⟩ := isCredentials_iff.mp hf'
    have hstar := hscheme.not_mem (by decide : isSchemeChar '*' = false) (by decide)
    obtain ⟨w, rfl, -⟩ := exists_of_append_eq heq.symm hstar
    obtain ⟨name, rfl, -⟩ := hscheme.exists_name
    apply (hkept hf).1
    simp

/-- Masking fragments of which no digit and no dot is shown makes no address. -/
theorem spares_address {p : Pattern} (hp : p.Delimited)
    (hkept : ∀ {before kept hidden after}, p before kept hidden after →
      ∀ c ∈ kept, Text.isDecimalDigit c = false ∧ c ≠ '.') :
  p.Spares IsAddress
  where
  starts := by
    rintro before s _ h ⟨_, hidden, after, rfl, hf⟩
    obtain ⟨hb, hback, rfl, group, groups, rfl, hg, hlength, hall⟩ := isAddress_iff.mp hf
    rw [List.nil_append] at h
    rcases h.append with ⟨r, rfl, hr⟩ | ⟨x₁, x₂, kept, hidden, r, out, hx, hne, hy, rfl, hf'⟩
    · refine ⟨[], group ++ dotted groups, r, rfl,
        isAddress_iff.mpr ⟨hb, ?_, rfl, group, groups, rfl, hg, hlength, hall⟩⟩
      obtain ⟨d, hlast, hd⟩ := getLast?_dotted hg hall
      rw [hlast] at hr
      cases hr with
      | nil => rfl
      | keep _ _ => exact hback
      | fragment hf' _ =>
        -- No fragment starts behind a digit.
        have hfront := (hp.front hf').1
        rw [Option.some_or, Text.endsInWord, Text.isWord_of_isDecimalDigit hd] at hfront
        cases hfront
    · exfalso
      obtain ⟨c, x₂, rfl⟩ := List.exists_cons_of_ne_nil hne
      have hc : Text.isDecimalDigit c = true ∨ c = '.' := by
        apply mem_address hg hall
        rw [hx]
        simp
      cases kept with
      | nil =>
        obtain ⟨rfl, -⟩ := List.cons_eq_cons.mp hy
        revert hc
        decide
      | cons c' kept =>
        obtain ⟨rfl, -⟩ := List.cons_eq_cons.mp hy
        obtain ⟨hdigit, hdot⟩ := hkept hf' c List.mem_cons_self
        rw [hdigit] at hc
        rcases hc with hc | hc
        · cases hc
        · exact hdot hc
  kept := by
    rintro before kept hidden after out x y before' hf - rfl hne ⟨_, hidden', after', heq, hf'⟩
    obtain ⟨-, -, rfl, group, groups, rfl, ⟨hmin, -, hdigits⟩, -⟩ := isAddress_iff.mp hf'
    obtain ⟨c, y, rfl⟩ := List.exists_cons_of_ne_nil hne
    obtain ⟨d, group, rfl⟩ := List.exists_cons_of_length_pos hmin
    obtain ⟨rfl, -⟩ := List.cons_eq_cons.mp heq
    have hdigit := (hkept hf c (by simp)).1
    rw [hdigits c List.mem_cons_self] at hdigit
    cases hdigit

/-- Masking quoted user names makes no quoted user name. -/
theorem userName_spares_userName :
  IsUserName.Spares IsUserName
  where
  starts := by
    rintro before s _ h ⟨shown, quoted, after, rfl, hf⟩
    obtain ⟨hb, hshown, q, inside, rfl, hq, hnot⟩ := isUserName_iff.mp hf
    rcases h.append with ⟨r, rfl, hr⟩ | ⟨x₁, x₂, kept, hidden, r, out, rfl, hne, hy, rfl, hf'⟩
    · generalize hz : q :: (inside ++ [q]) ++ after = z at hr
      cases hr with
      | nil => cases hz
      | @keep _ c rest out _ h =>
        -- The quote was there before, and so is one that closes it.
        obtain ⟨rfl, rfl⟩ := List.cons_eq_cons.mp hz
        have hmem : q ∈ rest := h.hides.mem (by simp) hq.ne_star
        obtain ⟨inside₀, after₀, rfl, hnot₀⟩ := List.eq_append_cons_of_mem hmem
        exact ⟨shown, q :: (inside₀ ++ [q]), after₀, by simp,
          isUserName_iff.mpr ⟨hb, hshown, q, inside₀, rfl, hq, hnot₀⟩⟩
      | @fragment _ kept hidden rest out hf' _ =>
        exfalso
        cases kept with
        | nil =>
          obtain ⟨rfl, -⟩ := List.cons_eq_cons.mp hz
          exact hq.ne_star rfl
        | cons c kept =>
          obtain ⟨rfl, -⟩ := List.cons_eq_cons.mp hz
          exact hf'.not_mem hq.not_isUserMark List.mem_cons_self
    · -- Behind what is shown of a masked fragment stands the mask, and no quote.
      exfalso
      have hstar : '*' ∉ x₂ := by
        have hnot := hf.not_mem (by decide : isUserMark '*' = false)
        exact fun hmem => hnot (List.mem_append_right _ hmem)
      obtain ⟨-, heq, -⟩ := append_cons_inj hy hstar (hf'.not_mem hq.not_isUserMark)
      exact hq.ne_star heq
  kept := by
    rintro before kept hidden after out x y before' hf - rfl hne ⟨shown, quoted, after', heq, hf'⟩
    obtain ⟨-, -, q, inside, rfl, hq, -⟩ := isUserName_iff.mp hf'
    have hnot : q ∉ y := by
      have hnot := hf.not_mem hq.not_isUserMark
      exact fun hmem => hnot (List.mem_append_right _ hmem)
    have hstar := hf'.not_mem (by decide : isUserMark '*' = false)
    obtain ⟨-, heq, -⟩ := append_cons_inj heq hnot hstar
    exact hq.ne_star heq.symm

/-! ### What is left -/

/-- The text that the last pass is given. -/
def addressed (s : List Char) : List Char := address.apply (credentials.apply s)

/-- No credentials are left when the last pass begins. -/
theorem not_occurs_credentials_addressed (s : List Char) :
  ¬ IsCredentials.Occurs (addressed s)
  := by
  have hfirst : ¬ IsCredentials.Occurs (credentials.apply s) :=
    (reads_credentials.masks_apply delimited_credentials s).not_occurs delimited_credentials
      delimited_credentials credentials_spares_credentials (.inl rfl)
  have hspares : IsAddress.Spares IsCredentials := by
    apply spares_credentials delimited_address
    · intro before kept hidden after hf
      obtain ⟨-, -, rfl, -⟩ := isAddress_iff.mp hf
      simp
    · intro before kept hidden after hf c hc
      obtain ⟨-, -, -, group, groups, rfl, hg, -, hall⟩ := isAddress_iff.mp hf
      rcases mem_address hg hall c hc with hdigit | rfl
      · exact isPasswordChar_of_isDecimalDigit hdigit
      · decide
  have hmasks := (reads_address.masks_apply delimited_address _).of_not_occurs hfirst
    delimited_address
  exact hmasks.not_occurs delimited_address delimited_credentials hspares (.inl rfl)

/-- Redaction leaves no dotted address and no quoted user name. -/
theorem not_occurs_sanitize (message : String) :
  ¬ IsAddress.Occurs (sanitize message).toList ∧ ¬ IsUserName.Occurs (sanitize message).toList
  := by
  rw [sanitize, String.toList_ofList, sanitizeChars]
  generalize credentials.apply message.toList = s
  constructor
  case left =>
    have hfirst : ¬ IsAddress.Occurs (address.apply s) := by
      apply (reads_address.masks_apply delimited_address s).not_occurs delimited_address
        delimited_address _ (.inl rfl)
      apply spares_address delimited_address
      intro before kept hidden after hf
      obtain ⟨-, -, rfl, -⟩ := isAddress_iff.mp hf
      simp
    have hmasks := (reads_userName.masks_apply delimited_userName _).of_not_occurs hfirst
      delimited_userName
    apply hmasks.not_occurs delimited_userName delimited_address _ (.inl rfl)
    apply spares_address delimited_userName
    intro before kept hidden after hf c hc
    exact not_isDecimalDigit_of_isUserMark (hf.isUserMark c hc)
  case right =>
    exact (reads_userName.masks_apply delimited_userName _).not_occurs delimited_userName
      delimited_userName userName_spares_userName (.inl rfl)

/-- Redaction leaves no credentials, if every quoted user name that the last pass masks hides
nothing but characters of a password; to mask credentials once more then changes nothing. -/
theorem not_occurs_credentials_sanitize (message : String)
    (h : ∀ name ∈ userName.masked 0 none (addressed message.toList),
      ∀ c ∈ name, isPasswordChar c = true) :
  ¬ IsCredentials.Occurs (sanitize message).toList
    ∧ credentials.apply (sanitize message).toList = (sanitize message).toList
  := by
  have hclean : ¬ IsCredentials.Occurs (sanitize message).toList := by
    rw [sanitize, String.toList_ofList]
    have hmasks := (reads_userName.masks delimited_userName h).of_not_occurs
      (not_occurs_credentials_addressed message.toList) (delimited_userName.concealing _)
    apply hmasks.not_occurs (delimited_userName.concealing _) delimited_credentials _ (.inl rfl)
    apply spares_credentials (delimited_userName.concealing _)
    · intro before kept hidden after hf
      exact ⟨hf.1.not_mem (by decide), hf.1.not_mem (by decide)⟩
    · exact fun hf => hf.2
  exact ⟨hclean, reads_credentials.apply_eq_self hclean⟩

/-! ### Credentials that the last pass uncovers -/

/-- Credentials but for quoted user names: what is left of the hidden text, when these are masked,
is a user name and a password. -/
def IsVeiled : Pattern := fun before kept hidden after =>
  Text.endsInWord before = false ∧ IsScheme kept
    ∧ (∃ info, IsUserName.Leaves after kept.getLast? hidden info ∧ IsUserInfo info)
    ∧ after.head? = some '@'

/-- No user name starts in a scheme. -/
theorem IsScheme.leaves {scheme rest : List Char} {before : Option Char} (h : IsScheme scheme) :
  IsUserName.Leaves rest before scheme scheme
  := by
  apply Pattern.Leaves.self
  rintro x y rfl hne before ⟨kept, hidden, after, heq, hf⟩
  obtain ⟨-, -, q, inside, rfl, hq, -⟩ := isUserName_iff.mp hf
  obtain ⟨y₁, y₂, rfl⟩ := List.append_of_mem (slash_mem_of_isScheme h hne)
  have hcut : kept ++ (q :: (inside ++ [q] ++ after)) = y₁ ++ '/' :: (y₂ ++ rest) := by
    simpa using heq.symm
  obtain ⟨w, rfl, hw⟩ := exists_of_append_eq hcut (hf.not_mem (by decide))
  -- The slash at the end of the scheme stands behind the quote.
  have hmem : q ∈ x ++ (kept ++ w ++ '/' :: y₂) := by
    cases w with
    | nil =>
      obtain ⟨rfl, -⟩ := List.cons_eq_cons.mp hw
      simp
    | cons c w =>
      obtain ⟨rfl, -⟩ := List.cons_eq_cons.mp hw
      simp
  revert hmem
  simp only [IsQuote, List.mem_cons, List.not_mem_nil, or_false] at hq
  rcases hq with rfl | rfl | rfl <;> exact h.not_mem (by decide) (by decide)

theorem endsInWord_of_leaves {rest pre out : List Char} (h : IsUserName.Leaves rest none pre out) :
  Text.endsInWord out.getLast? = Text.endsInWord pre.getLast?
  := by
  simpa using h.endsInWord delimited_userName fun hf => hf.2.2.endsInWord

/-- Credentials that the last pass leaves are cut out of the text where they were veiled. -/
theorem bares_of_occurs {s : List Char} (h : IsCredentials.Occurs (userName.apply s)) :
  IsUserName.Bares IsVeiled s
  := by
  obtain ⟨out, _, heq, scheme, info, after, rfl, hf⟩ := h
  obtain ⟨hb, hscheme, hinfo, hat⟩ := isCredentials_iff.mp hf
  obtain ⟨after, rfl⟩ := List.head?_eq_some_iff.mp hat
  obtain ⟨front, rfl, hstar⟩ : ∃ front, scheme = front ++ ['/'] ∧ '*' ∉ front := by
    obtain ⟨name, rfl, -⟩ := hscheme.exists_name
    have hnot := hscheme.not_mem (by decide : isSchemeChar '*' = false) (by decide)
    exact ⟨name ++ [':', '/'], by simp, by simpa using hnot⟩
  have hl := (reads_userName.masks_apply delimited_userName s).leaves
  have hcut : userName.apply s = (out ++ front ++ '/' :: info) ++ '@' :: after := by
    simpa using heq
  rw [hcut] at hl
  -- The cuts are at the at sign, at the end of the scheme and in front of it.
  obtain ⟨u, rest, rfl, hu, -⟩ := hl.exists_of_append_cons fun hf => by
    simpa [mask] using hf.not_mem (by decide)
  obtain ⟨u, veil, rfl, hu, hveil⟩ := hu.exists_of_append_cons fun hf => by
    simpa [mask] using hf.not_mem (by decide)
  obtain ⟨pre, rfl, hpre⟩ := hu.exists_of_append hstar
  refine ⟨pre, front ++ ['/'] ++ (veil ++ '@' :: rest), out, by simp, by simpa using hpre,
    front ++ ['/'], veil, '@' :: rest, rfl, ?_, hscheme, ⟨info, ?_, hinfo⟩, rfl⟩
  · rw [← endsInWord_of_leaves hpre]
    simpa using hb
  · simpa using hveil

/-- Veiled credentials that start outside of the masked user names are credentials in what the last
pass leaves. -/
theorem occurs_of_bares {s : List Char} (h : IsUserName.Bares IsVeiled s) :
  IsCredentials.Occurs (userName.apply s)
  := by
  obtain ⟨pre, _, out, rfl, hpre, scheme, veil, after, rfl, hb, hscheme, ⟨info, hveil, hinfo⟩,
    hat⟩ := h
  obtain ⟨after, rfl⟩ := List.head?_eq_some_iff.mp hat
  have hsign : ∀ before, IsUserName.Leaves after before ['@'] ['@'] := by
    intro before
    apply Pattern.Leaves.keep _ .nil
    intro hs
    cases delimited_userName.startsWithWord hs
  have hlast : ∀ before, scheme.getLast?.or before = scheme.getLast? := by
    intro before
    obtain ⟨name, rfl, -⟩ := hscheme.exists_name
    simp
  have hrun : ∀ {rest before s out}, IsUserName.Leaves rest before s out →
      userName.run 0 before (s ++ rest) = out ++ userName.run 0 (s.getLast?.or before) rest :=
    reads_userName.run_append_of_leaves delimited_userName userName_eq_some
  rw [Rule.apply, hrun hpre, hrun hscheme.leaves, hlast, hrun hveil, ← List.singleton_append,
    hrun (hsign _)]
  refine ⟨out, _, rfl, scheme, info, _, rfl, isCredentials_iff.mpr ⟨?_, hscheme, hinfo, rfl⟩⟩
  rw [Option.or_none, endsInWord_of_leaves hpre]
  exact hb

/-- Redaction leaves no credentials, and to mask credentials once more changes nothing, exactly if
the last pass uncovers none.  If it does, a quoted user name that it masks hides a character that
cannot stand in a password. -/
theorem not_occurs_credentials_sanitize_iff (message : String) :
  (¬ IsCredentials.Occurs (sanitize message).toList
      ∧ credentials.apply (sanitize message).toList = (sanitize message).toList
    ↔ ¬ IsUserName.Bares IsVeiled (addressed message.toList))
  ∧ (IsUserName.Bares IsVeiled (addressed message.toList) →
    ∃ name ∈ userName.masked 0 none (addressed message.toList), ∃ c ∈ name,
      isPasswordChar c = false)
  := by
  have hiff : IsCredentials.Occurs (sanitize message).toList
      ↔ IsUserName.Bares IsVeiled (addressed message.toList) := by
    rw [sanitize, String.toList_ofList]
    exact ⟨bares_of_occurs, occurs_of_bares⟩
  constructor
  · rw [← hiff, and_iff_left_iff_imp]
    exact reads_credentials.apply_eq_self
  · intro hbares
    by_contra hnone
    apply (not_occurs_credentials_sanitize message _).1 (hiff.mpr hbares)
    intro name hname c hc
    by_contra hnot
    exact hnone ⟨name, hname, c, hc, Bool.eq_false_iff.mpr hnot⟩

/-- A slash in a quoted user name keeps a text from being credentials until the name is masked. -/
theorem not_forall_not_occurs_credentials :
  ¬ ∀ message : String, ¬ IsCredentials.Occurs (sanitize message).toList
    ∧ credentials.apply (sanitize message).toList = (sanitize message).toList
  := by
  intro h
  apply (h "auth failed for mongodb://user=\x27a/b\x27:secret@db.internal").1
  have hshown : (sanitize "auth failed for mongodb://user=\x27a/b\x27:secret@db.internal").toList
      = "auth failed for ".toList ++ ("mongodb://".toList ++ ("user=***:secret".toList
        ++ "@db.internal".toList)) := by
    decide
  refine ⟨_, _, hshown, _, _, _, rfl, isCredentials_iff.mpr ⟨?_, ?_, ?_, ?_⟩⟩
  · decide
  · exact ⟨'m', "ongodb".toList, by decide, by decide, List.all_eq_true.mp (by decide)⟩
  · exact ⟨"user=***".toList, "secret".toList, by decide, by decide,
      List.all_eq_true.mp (by decide), List.all_eq_true.mp (by decide)⟩
  · decide

end Storekeeper.Redaction

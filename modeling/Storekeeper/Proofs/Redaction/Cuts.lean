import Storekeeper.Proofs.Redaction.Residue

/-!
# Passes over a text that is cut

The rules look back no further than to whether a word ends in front of a place.  So behind a
character outside of words a pass goes on as it begins, and what a pass makes of a text can be read
off its parts: where the text is cut at a character that no fragment shows, the cut stays, or a
fragment hides it.  A quoted user name that hides it ends at a quote in the second part, and so
`userName_apply_append_ne` says that the pass over user names never takes away all that stands in
front of a text together with the cut.
-/

namespace Storekeeper.Redaction

namespace Rule

variable {rule : Rule} {p : Pattern} {before before' : Option Char} {c d : Char} {x y s : List Char}

/-! ### Rules that look at their surroundings only -/

/-- Whether a rule looks back no further than to whether a word ends there. -/
def IsLocal (rule : Rule) : Prop :=
  ∀ before before' s, Text.endsInWord before = Text.endsInWord before' →
    rule before s = rule before' s

theorem IsLocal.run_eq (h : rule.IsLocal) (hb : Text.endsInWord before = Text.endsInWord before') :
  rule.run 0 before s = rule.run 0 before' s
  := by
  cases s with
  | nil => rfl
  | cons c s => simp only [run, h before before' (c :: s) hb]

/-- Behind a character outside of words a pass goes on as it begins. -/
theorem IsLocal.run_some (h : rule.IsLocal) (hc : Text.isWord c = false) (s : List Char) :
  rule.run 0 (some c) s = rule.apply s
  := h.run_eq hc

/-- Characters at which no fragment starts stay. -/
theorem run_append (h : ∀ c ∈ x, ∀ before s, rule before (c :: s) = none) (before : Option Char)
    (y : List Char) :
  rule.run 0 before (x ++ y) = x ++ rule.run 0 (x.getLast?.or before) y
  := by
  induction x generalizing before with
  | nil => rfl
  | cons c x ih =>
    obtain ⟨hc, hx⟩ := List.forall_mem_cons.mp h
    rw [getLast?_cons_or, List.cons_append, List.cons_append, ← ih hx]
    simp only [run, hc]

/-- They can be taken off a text, if the last of them is outside of words. -/
theorem IsLocal.apply_append_cons (h : rule.IsLocal) (hd : Text.isWord d = false)
    (hx : ∀ c ∈ x ++ [d], ∀ before s, rule before (c :: s) = none) (y : List Char) :
  rule.apply (x ++ d :: y) = x ++ d :: rule.apply y
  := by
  have hcut := run_append hx none y
  rw [List.getLast?_concat, Option.some_or, h.run_some hd] at hcut
  simpa [apply] using hcut

/-! ### Cuts -/

/-- A text is cut at a character that no fragment shows.  The cut stays, or a fragment hides it. -/
theorem Reads.run_append_cons (h : rule.Reads p) (hp : p.Delimited)
    (hd : ∀ {before kept hidden after}, p before kept hidden after → d ∉ kept)
    (before : Option Char) (x y : List Char) :
  (∃ z, rule.run 0 before (x ++ d :: y) = z ++ d :: rule.run 0 (some d) y)
  ∨ ∃ before' kept front back after z, front <:+ x ∧ y = back ++ after
      ∧ p before' kept (front ++ d :: back) after
      ∧ rule.run 0 before (x ++ d :: y)
        = z ++ (mask ++ rule.run 0 (front ++ d :: back).getLast? after)
  := by
  generalize hs : x ++ d :: y = s
  induction before, s using h.run_induction hp generalizing x with
  | nil before => simp at hs
  | keep before c s _ hrun ih =>
    rw [hrun.1]
    cases x with
    | nil =>
      obtain ⟨rfl, rfl⟩ := List.cons_eq_cons.mp hs
      exact .inl ⟨[], rfl⟩
    | cons c' x =>
      obtain ⟨rfl, hs'⟩ := List.cons_eq_cons.mp hs
      rcases ih x hs' with ⟨z, hz⟩ | ⟨before', kept, front, back, after, z, hx, hy, hf, hz⟩
      · exact .inl ⟨c' :: z, by rw [hz, List.cons_append]⟩
      · right
        refine ⟨before', kept, front, back, after, c' :: z, ?_, hy, hf, ?_⟩
        · exact hx.trans (List.suffix_cons c' x)
        · rw [hz, List.cons_append]
  | fragment before kept hidden after hf hrun ih =>
    rw [hrun.1]
    -- The cut lies behind what the fragment shows: behind the fragment, or in what it hides.
    obtain ⟨w, rfl, hw⟩ := exists_of_append_eq hs.symm (hd hf)
    rcases append_eq_append_cons hw with ⟨v, rfl, hafter⟩ | ⟨back, rfl, hy⟩
    · rcases ih v hafter.symm with ⟨z, hz⟩ | ⟨before', kept', front, back, after', z, hx, hy, hf', hz⟩
      · exact .inl ⟨kept ++ (mask ++ z), by simp [hz]⟩
      · right
        refine ⟨before', kept', front, back, after', kept ++ (mask ++ z), ?_, hy, hf', ?_⟩
        · rw [← List.append_assoc]
          exact hx.trans (List.suffix_append _ _)
        · simp [hz]
    · right
      exact ⟨before, kept, w, back, after, kept, List.suffix_append _ _, hy, hf, rfl⟩

/-- The cut stays if no fragment hides it either. -/
theorem Reads.exists_run_append_cons (h : rule.Reads p) (hp : p.Delimited)
    (hd : ∀ {before kept hidden after}, p before kept hidden after → d ∉ kept ++ hidden)
    (before : Option Char) (x y : List Char) :
  ∃ z, rule.run 0 before (x ++ d :: y) = z ++ d :: rule.run 0 (some d) y
  := by
  have hkept : ∀ {before kept hidden after}, p before kept hidden after → d ∉ kept :=
    fun hf hmem => hd hf (List.mem_append_left _ hmem)
  rcases h.run_append_cons hp hkept before x y with hcut | ⟨_, _, _, _, _, _, -, -, hf, -⟩
  · exact hcut
  · exact absurd (by simp) (hd hf)

end Rule

/-! ### The three rules -/

theorem isLocal_credentials :
  credentials.IsLocal
  := by
  intro before before' s hb
  rw [credentials, credentials, Text.isBoundary, Text.isBoundary, hb]

theorem isLocal_address :
  address.IsLocal
  := by
  intro before before' s hb
  simp only [address, hb]

theorem isLocal_userName :
  userName.IsLocal
  := by
  intro before before' s hb
  rw [userName, userName, Text.isBoundary, Text.isBoundary, hb]

/-- Whether neither an address nor a quoted user name can start at `c`. -/
def isInert (c : Char) : Bool :=
  !(Text.isDecimalDigit c || foldsTo 'u' c || foldsTo 'f' c)

theorem address_eq_none {c : Char} (hc : isInert c = true) (before : Option Char)
    (s : List Char) :
  address before (c :: s) = none
  := by
  simp only [isInert, Bool.not_eq_true', Bool.or_eq_false_iff] at hc
  simp [address, readGroup, hc]

theorem userName_eq_none {c : Char} (hc : isInert c = true) (before : Option Char)
    (s : List Char) :
  userName before (c :: s) = none
  := by
  simp only [isInert, Bool.not_eq_true', Bool.or_eq_false_iff] at hc
  simp [userName, afterFor, afterUser, stripWord, hc]

/-- The last two passes go on as they begin behind characters at which they find nothing. -/
theorem userName_apply_address_apply {d : Char} (hd : Text.isWord d = false) {x : List Char}
    (hx : ∀ c ∈ x ++ [d], isInert c = true) (y : List Char) :
  userName.apply (address.apply (x ++ d :: y)) = x ++ d :: userName.apply (address.apply y)
  := by
  rw [isLocal_address.apply_append_cons hd fun c hc => address_eq_none (hx c hc),
    isLocal_userName.apply_append_cons hd fun c hc => userName_eq_none (hx c hc)]

/-- A cut at a character that is not in an address stays. -/
theorem exists_address_apply_append_cons {d : Char} (hd : Text.isDecimalDigit d = false)
    (hdot : d ≠ '.') (hword : Text.isWord d = false) (x y : List Char) :
  ∃ z, address.apply (x ++ d :: y) = z ++ d :: address.apply y
  := by
  have hnot : ∀ {before kept hidden after}, IsAddress before kept hidden after →
      d ∉ kept ++ hidden := by
    intro before kept hidden after hf hmem
    obtain ⟨-, -, rfl, group, groups, rfl, hg, -, hall⟩ := isAddress_iff.mp hf
    rcases mem_address hg hall d hmem with hdigit | rfl
    · rw [hd] at hdigit
      cases hdigit
    · exact hdot rfl
  obtain ⟨z, hz⟩ := reads_address.exists_run_append_cons delimited_address hnot none x y
  use z
  rw [Rule.apply, hz, isLocal_address.run_some hword]

/-! ### Quoted user names at a cut -/

/-- A cut stays unless a quoted user name hides it.  Such a name ends at a quote behind the cut, if
it is not the cut itself that closes it. -/
theorem userName_apply_append_cons {d : Char} (hd : isUserMark d = false)
    (hword : Text.isWord d = false) {x : List Char} (hx : IsQuote d → d ∉ x) (y : List Char) :
  (∃ z, userName.apply (x ++ d :: y) = z ++ d :: userName.apply y)
  ∨ ∃ z inside q after, y = inside ++ q :: after ∧ IsQuote q ∧ q ∉ inside
      ∧ userName.apply (x ++ d :: y) = z ++ (mask ++ userName.apply after)
  := by
  have hkept : ∀ {before kept hidden after}, IsUserName before kept hidden after → d ∉ kept :=
    fun hf => hf.not_mem hd
  rcases reads_userName.run_append_cons delimited_userName hkept none x y with
    ⟨z, hz⟩ | ⟨before, kept, front, back, after, z, hfront, rfl, hf, hz⟩
  · left
    use z
    rw [Rule.apply, hz, isLocal_userName.run_some hword]
  · right
    obtain ⟨-, -, q, inside, heq, hq, hnot⟩ := isUserName_iff.mp hf
    have hrest : userName.run 0 (front ++ d :: back).getLast? after = userName.apply after := by
      rw [heq, ← List.cons_append, List.getLast?_concat, isLocal_userName.run_some hq.not_isWord]
    rw [hrest] at hz
    cases front with
    | nil =>
      -- The cut opens the quotes.
      obtain ⟨rfl, rfl⟩ := List.cons_eq_cons.mp heq
      exact ⟨z, inside, d, after, by simp, hq, hnot, hz⟩
    | cons q' front =>
      obtain ⟨rfl, hback⟩ := List.cons_eq_cons.mp heq
      rcases List.eq_nil_or_concat back with rfl | ⟨back, q, rfl⟩
      · -- A cut that closed the quotes would stand in front of itself.
        obtain ⟨-, hd⟩ := List.append_inj' hback rfl
        obtain rfl : d = q' := by simpa using hd
        exact absurd (hfront.subset List.mem_cons_self) (hx hq)
      · have hback' : (front ++ d :: back) ++ [q] = inside ++ [q'] := by simpa using hback
        obtain ⟨rfl, hq'⟩ := List.append_inj' hback' rfl
        obtain rfl : q = q' := by simpa using hq'
        refine ⟨z, back, q, after, by simp, hq, ?_, hz⟩
        exact fun hmem => hnot (List.mem_append_right _ (List.mem_cons_of_mem _ hmem))

/-- What a pass leaves behind a quote never stands behind the mask in what it leaves of the whole
text: each quote that hid the last one is followed by another. -/
theorem userName_apply_quote_ne {q : Char} (hq : IsQuote q) {x : List Char} (hx : q ∉ x)
    (u v y : List Char) :
  u ++ userName.apply (x ++ q :: y) ≠ v ++ (mask ++ userName.apply y)
  := by
  intro heq
  rcases userName_apply_append_cons hq.not_isUserMark hq.not_isWord (fun _ => hx) y with
    ⟨z, hz⟩ | ⟨z, inside, q', after, hy, hq', hnot, hz⟩
  · have hfront : (u ++ z) ++ [q] ++ userName.apply y = v ++ mask ++ userName.apply y := by
      simpa [hz] using heq
    have hlast : (u ++ z) ++ [q] = (v ++ ['*', '*']) ++ ['*'] := by
      simpa [mask] using List.append_cancel_right hfront
    obtain ⟨-, hstar⟩ := List.append_inj' hlast rfl
    apply hq.ne_star
    simpa using hstar
  · apply userName_apply_quote_ne hq' hnot (v ++ mask) (u ++ z) after
    rw [← hy]
    simpa [hz] using heq.symm
termination_by y.length
decreasing_by
  rw [hy, List.length_append, List.length_cons]
  omega

/-- The pass over user names leaves something of a text that is cut at a character outside of words
and quotes, besides what it leaves of the part behind the cut. -/
theorem userName_apply_append_ne {d : Char} (hd : isUserMark d = false)
    (hword : Text.isWord d = false) (hquote : ¬ IsQuote d) (x y : List Char) :
  userName.apply (x ++ d :: y) ≠ userName.apply y
  := by
  intro heq
  rcases userName_apply_append_cons hd hword (fun hq => absurd hq hquote) y with
    ⟨z, hz⟩ | ⟨z, inside, q, after, rfl, hq, hnot, hz⟩
  · have hlength := congrArg List.length (hz.symm.trans heq)
    simp at hlength
    omega
  · apply userName_apply_quote_ne hq hnot [] z after
    rw [List.nil_append, ← heq, hz]

/-- What is shown of a quoted user name starts with a mark of user names, so any other first
character was there before. -/
theorem exists_of_userName_run_eq_cons {before : Option Char} {c : Char} {s t : List Char}
    (hc : isUserMark c = false) (h : userName.run 0 before s = c :: t) :
  ∃ r, s = c :: r ∧ userName.run 0 (some c) r = t
  := by
  induction before, s using reads_userName.run_induction delimited_userName with
  | nil => cases h
  | keep before c' s _ hrun =>
    obtain ⟨rfl, rfl⟩ := List.cons_eq_cons.mp (hrun.1.symm.trans h)
    exact ⟨s, rfl, rfl⟩
  | fragment before kept hidden after hf hrun =>
    exfalso
    obtain ⟨-, ⟨front, user, rfl, hfront, huser⟩, -⟩ := isUserName_iff.mp hf
    obtain ⟨e, kept, hkept⟩ : ∃ e kept, front ++ user = e :: kept := by
      apply List.exists_cons_of_ne_nil
      intro hnil
      have hword := startsWithWord_of_isUser hfront huser
      rw [hnil] at hword
      cases hword
    rw [hrun.1, hkept, List.cons_append] at h
    rw [hkept] at hf
    obtain ⟨rfl, -⟩ := List.cons_eq_cons.mp h
    exact hf.not_mem hc List.mem_cons_self

theorem exists_of_userName_apply_eq_append {x s t : List Char}
    (hx : ∀ c ∈ x, isUserMark c = false ∧ Text.isWord c = false)
    (h : userName.apply s = x ++ t) :
  ∃ r, s = x ++ r ∧ userName.apply r = t
  := by
  induction x generalizing s with
  | nil => exact ⟨s, rfl, h⟩
  | cons c x ih =>
    obtain ⟨⟨hmark, hword⟩, hx⟩ := List.forall_mem_cons.mp hx
    obtain ⟨r, rfl, hr⟩ := exists_of_userName_run_eq_cons hmark h
    rw [isLocal_userName.run_some hword] at hr
    obtain ⟨r', rfl, hr'⟩ := ih hx hr
    exact ⟨r', rfl, hr'⟩

/-! ### Credentials in front of a text -/

/-- Credentials start with a letter. -/
theorem credentials_eq_none {c : Char} (hc : isFoldedLetter c = false) (before : Option Char)
    (s : List Char) :
  credentials before (c :: s) = none
  := by
  simp [credentials, readScheme, hc]

theorem credentials_eq_some {scheme info : List Char} (hscheme : IsScheme scheme)
    (hinfo : IsUserInfo info) (rest : List Char) :
  credentials none (scheme ++ (info ++ '@' :: rest))
    = some ⟨scheme.length, scheme.length + info.length⟩
  := by
  have hboundary : Text.isBoundary none (scheme ++ (info ++ '@' :: rest)) = true := by
    rw [isBoundary_of_startsWithWord (startsWithWord_append hscheme.startsWithWord _)]
    rfl
  have hs : readScheme (scheme ++ (info ++ '@' :: rest))
      = some (scheme.length, info ++ '@' :: rest) :=
    readScheme_eq_some_iff.mpr ⟨scheme, rfl, hscheme, rfl⟩
  have hi : userInfoLength (info ++ '@' :: rest) = some info.length :=
    userInfoLength_eq_some_iff.mpr ⟨info, rest, rfl, hinfo, rfl⟩
  simp [credentials, hboundary, hs, hi]

/-- Credentials at the start of a text are masked, and the pass goes on as it began. -/
theorem credentials_apply {scheme info : List Char} (hscheme : IsScheme scheme)
    (hinfo : IsUserInfo info) (rest : List Char) :
  credentials.apply (scheme ++ (info ++ '@' :: rest))
    = scheme ++ (mask ++ '@' :: credentials.apply rest)
  := by
  have hne : info ≠ [] := by
    obtain ⟨user, password, rfl, -⟩ := hinfo
    simp
  have hat : ∀ c ∈ ['@'], ∀ before s, credentials before (c :: s) = none := by
    intro c hc
    rw [List.mem_singleton.mp hc]
    exact credentials_eq_none (by decide)
  have hrest : credentials.run 0 info.getLast? ('@' :: rest) = '@' :: credentials.apply rest := by
    rw [← isLocal_credentials.run_some (by decide : Text.isWord '@' = false)]
    exact Rule.run_append hat info.getLast? rest
  rw [Rule.apply, (Rule.run_fragment (credentials_eq_some hscheme hinfo rest) hne).1, hrest]

/-- Credentials have a slash in front of an at sign. -/
theorem not_occurs_credentials_append {x y : List Char} {before : Option Char} (hx : '/' ∉ x)
    (hy : '@' ∉ y) :
  ¬ IsCredentials.Occurs (x ++ y) before
  := by
  rintro ⟨pre, _, heq, kept, hidden, after, rfl, hf⟩
  obtain ⟨-, hscheme, -, hat⟩ := isCredentials_iff.mp hf
  obtain ⟨after, rfl⟩ := List.head?_eq_some_iff.mp hat
  obtain ⟨name, rfl, -⟩ := hscheme.exists_name
  have hcut : x ++ y = (pre ++ (name ++ [':', '/', '/'] ++ hidden)) ++ '@' :: after := by
    simpa using heq
  rcases append_eq_append_cons hcut with ⟨v, -, rfl⟩ | ⟨v, rfl, -⟩
  · simp at hy
  · simp at hx

theorem sanitizeChars_of_not_occurs {s : List Char} (h : ¬ IsCredentials.Occurs s) :
  sanitizeChars s = userName.apply (address.apply s)
  := by
  rw [sanitizeChars, reads_credentials.apply_eq_self h]

/-- A text in front of the last at sign leaves something. -/
theorem sanitizeChars_append_ne {x y : List Char} (hx : '/' ∉ x) (hy : '@' ∉ y) :
  sanitizeChars (x ++ '@' :: y) ≠ sanitizeChars y
  := by
  have hclean : ¬ IsCredentials.Occurs (x ++ '@' :: y) := by
    have hx' : '/' ∉ x ++ ['@'] := by simpa using hx
    simpa using not_occurs_credentials_append hx' hy
  have hclean' : ¬ IsCredentials.Occurs y :=
    not_occurs_credentials_append (x := []) List.not_mem_nil hy
  obtain ⟨z, hz⟩ := exists_address_apply_append_cons (by decide : Text.isDecimalDigit '@' = false)
    (by decide) (by decide) x y
  rw [sanitizeChars_of_not_occurs hclean, sanitizeChars_of_not_occurs hclean', hz]
  exact userName_apply_append_ne (by decide) (by decide) (by simp [IsQuote]) z _

end Storekeeper.Redaction

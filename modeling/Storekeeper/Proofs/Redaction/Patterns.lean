import Storekeeper.Proofs.Redaction.Characters
import Storekeeper.Proofs.Url.Reading

/-!
# What the rules look for

A pattern says what a fragment is: which text, of which the first part may be shown and the second
may not, between the character before it and the text after it.  `IsCredentials`, `IsAddress` and
`IsUserName` are the patterns of the three rules, and `Rule.Reads` says that a rule finds a fragment
exactly where one of its pattern starts.
-/

namespace Storekeeper.Redaction

section

variable {p : Char → Bool} {s rest : List Char} {c : Char}

/-- Where a text was read up to a character, it consists of what was read and what was not. -/
theorem eq_append_of_dropWhile (h : s.dropWhile p = c :: rest) :
  s = s.takeWhile p ++ c :: rest ∧ p c = false
  := by
  constructor
  · rw [← h, List.takeWhile_append_dropWhile]
  · have hc := List.head?_dropWhile_not p s
    rw [h] at hc
    exact hc

theorem forall_mem_takeWhile (p : Char → Bool) (s : List Char) :
  ∀ x ∈ s.takeWhile p, p x = true
  := fun _ hx => List.mem_takeWhile_imp hx

end

/-- The character before a place that lies behind the first character. -/
theorem getLast?_cons_or (c : Char) (s : List Char) (before : Option Char) :
  (c :: s).getLast?.or before = s.getLast?.or (some c)
  := by
  rw [List.getLast?_cons]
  cases s.getLast? <;> rfl

/-! ### Patterns -/

/-- Whether a text is a fragment, of which the first part may be shown and the second may not,
between a character, if there is one, and the text after it. -/
abbrev Pattern := Option Char → List Char → List Char → List Char → Prop

namespace Pattern

/-- Whether a fragment starts between a character, if there is one, and the text after it. -/
def Starts (p : Pattern) (before : Option Char) (s : List Char) : Prop :=
  ∃ kept hidden after, s = kept ++ (hidden ++ after) ∧ p before kept hidden after

/-- Whether there is a fragment anywhere in a text, which may follow a character. -/
def Occurs (p : Pattern) (s : List Char) (before : Option Char := none) : Prop :=
  ∃ pre post, s = pre ++ post ∧ p.Starts (pre.getLast?.or before) post

theorem occurs_cons {p : Pattern} {before : Option Char} {c : Char} {s : List Char} :
  p.Occurs (c :: s) before ↔ p.Starts before (c :: s) ∨ p.Occurs s (some c)
  := by
  constructor
  · rintro ⟨pre, post, h, hs⟩
    cases pre with
    | nil =>
      left
      rw [h]
      exact hs
    | cons c' pre =>
      right
      obtain ⟨rfl, rfl⟩ := List.cons_eq_cons.mp h
      rw [getLast?_cons_or] at hs
      exact ⟨pre, post, rfl, hs⟩
  · rintro (hs | ⟨pre, post, rfl, hs⟩)
    · exact ⟨[], c :: s, rfl, hs⟩
    · use c :: pre, post, rfl
      rw [getLast?_cons_or]
      exact hs

/-- A pattern whose fragments start with a word at a word boundary, wherever that is, and do not
end inside a word. -/
structure Delimited (p : Pattern) : Prop where
  hidden_ne_nil : ∀ {before kept hidden after}, p before kept hidden after → hidden ≠ []
  front : ∀ {before kept hidden after}, p before kept hidden after →
    Text.endsInWord before = false ∧ Text.startsWithWord (kept ++ hidden) = true
  moved : ∀ {before before' kept hidden after}, p before kept hidden after →
    Text.endsInWord before' = false → p before' kept hidden after
  back : ∀ {before kept hidden after}, p before kept hidden after →
    Text.endsInWord hidden.getLast? = false ∨ Text.startsWithWord after = false

end Pattern

/-- A rule finds the fragments of a pattern, and finds one wherever one starts. -/
structure Rule.Reads (rule : Rule) (p : Pattern) : Prop where
  sound : ∀ before s f, rule before s = some f →
    ∃ kept hidden after, s = kept ++ (hidden ++ after)
      ∧ f = ⟨kept.length, kept.length + hidden.length⟩ ∧ p before kept hidden after
  complete : ∀ before s, p.Starts before s → rule before s ≠ none

/-! ### Credentials -/

/-- A scheme name and `://`. -/
def IsScheme (s : List Char) : Prop :=
  ∃ c name, s = c :: (name ++ [':', '/', '/']) ∧ isFoldedLetter c = true
    ∧ ∀ x ∈ name, isSchemeChar x = true

/-- A user name, a colon and a password. -/
def IsUserInfo (s : List Char) : Prop :=
  ∃ user password, s = user ++ ':' :: password ∧ user ≠ [] ∧ (∀ x ∈ user, isUserChar x = true)
    ∧ ∀ x ∈ password, isPasswordChar x = true

/-- A scheme at a word boundary, and user name and password before an at sign. -/
def IsCredentials : Pattern := fun before kept hidden after =>
  Text.isBoundary before (kept ++ (hidden ++ after)) = true ∧ IsScheme kept ∧ IsUserInfo hidden
    ∧ after.head? = some '@'

theorem readScheme_eq_some_iff {s after : List Char} {n : Nat} :
  readScheme s = some (n, after)
    ↔ ∃ scheme, s = scheme ++ after ∧ IsScheme scheme ∧ n = scheme.length
  := by
  constructor
  · intro h
    cases s with
    | nil => cases h
    | cons c rest =>
      simp only [readScheme] at h
      split at h
      · next hc =>
        split at h
        · next after' hdrop =>
          cases h
          obtain ⟨hrest, -⟩ := eq_append_of_dropWhile hdrop
          refine ⟨c :: (rest.takeWhile isSchemeChar ++ [':', '/', '/']), ?_, ?_, ?_⟩
          · conv_lhs => rw [hrest]
            simp
          · exact ⟨c, _, rfl, hc, forall_mem_takeWhile _ _⟩
          · simp
        · cases h
      · cases h
  · rintro ⟨scheme, rfl, ⟨c, name, rfl, hc, hname⟩, rfl⟩
    have hrest : name ++ [':', '/', '/'] ++ after = name ++ ':' :: '/' :: '/' :: after := by simp
    simp only [List.cons_append, readScheme, hc, if_true, hrest,
      Url.dropWhile_append_cons hname (by decide : isSchemeChar ':' = false),
      Url.takeWhile_append_cons hname (by decide : isSchemeChar ':' = false)]
    simp

theorem userInfoLength_eq_some_iff {s : List Char} {n : Nat} :
  userInfoLength s = some n
    ↔ ∃ info after, s = info ++ '@' :: after ∧ IsUserInfo info ∧ n = info.length
  := by
  constructor
  · intro h
    simp only [userInfoLength] at h
    split at h
    · cases h
    · next hne =>
      split at h
      · next rest hdrop =>
        split at h
        · next after hdrop' =>
          cases h
          obtain ⟨hs, -⟩ := eq_append_of_dropWhile hdrop
          obtain ⟨hrest, -⟩ := eq_append_of_dropWhile hdrop'
          refine ⟨s.takeWhile isUserChar ++ ':' :: rest.takeWhile isPasswordChar, after, ?_, ?_, ?_⟩
          · rw [List.append_assoc, List.cons_append, ← hrest, ← hs]
          · exact ⟨_, _, rfl, by simpa using hne, forall_mem_takeWhile _ _,
              forall_mem_takeWhile _ _⟩
          · simp
            omega
        · cases h
      · cases h
  · rintro ⟨info, after, rfl, ⟨user, password, rfl, hne, huser, hpassword⟩, rfl⟩
    have hs : user ++ ':' :: password ++ '@' :: after
        = user ++ ':' :: (password ++ '@' :: after) := by simp
    simp only [userInfoLength, hs,
      Url.takeWhile_append_cons huser (by decide : isUserChar ':' = false),
      Url.dropWhile_append_cons huser (by decide : isUserChar ':' = false),
      Url.dropWhile_append_cons hpassword (by decide : isPasswordChar '@' = false),
      Url.takeWhile_append_cons hpassword (by decide : isPasswordChar '@' = false)]
    simp [hne]
    omega

theorem reads_credentials :
  credentials.Reads IsCredentials
  := by
  constructor
  case sound =>
    intro before s f h
    unfold credentials at h
    split at h
    · next hb =>
      split at h
      · next kept rest hs =>
        obtain ⟨n, hi, rfl⟩ := Option.map_eq_some_iff.mp h
        obtain ⟨scheme, rfl, hscheme, rfl⟩ := readScheme_eq_some_iff.mp hs
        obtain ⟨info, after, rfl, hinfo, rfl⟩ := userInfoLength_eq_some_iff.mp hi
        exact ⟨scheme, info, '@' :: after, rfl, rfl, hb, hscheme, hinfo, rfl⟩
      · cases h
    · cases h
  case complete =>
    rintro before s ⟨kept, hidden, after, rfl, hb, hscheme, hinfo, hat⟩
    obtain ⟨rest, rfl⟩ := List.head?_eq_some_iff.mp hat
    have hs : readScheme (kept ++ (hidden ++ '@' :: rest))
        = some (kept.length, hidden ++ '@' :: rest) :=
      readScheme_eq_some_iff.mpr ⟨kept, rfl, hscheme, rfl⟩
    have hi : userInfoLength (hidden ++ '@' :: rest) = some hidden.length :=
      userInfoLength_eq_some_iff.mpr ⟨hidden, rest, rfl, hinfo, rfl⟩
    simp [credentials, hb, hs, hi]

/-- A boundary lies before a word exactly if no word ends there. -/
theorem isBoundary_of_startsWithWord {before : Option Char} {s : List Char}
    (h : Text.startsWithWord s = true) :
  Text.isBoundary before s = true ↔ Text.endsInWord before = false
  := by
  simp [Text.isBoundary, h]

theorem startsWithWord_append {s : List Char} (h : Text.startsWithWord s = true) (t : List Char) :
  Text.startsWithWord (s ++ t) = true
  := by
  cases s with
  | nil => cases h
  | cons c s => exact h

theorem IsScheme.startsWithWord {s : List Char} (h : IsScheme s) :
  Text.startsWithWord s = true
  := by
  obtain ⟨c, name, rfl, hc, -⟩ := h
  exact isWord_of_isFoldedLetter hc

theorem isCredentials_iff {before : Option Char} {kept hidden after : List Char} :
  IsCredentials before kept hidden after
    ↔ Text.endsInWord before = false ∧ IsScheme kept ∧ IsUserInfo hidden
      ∧ after.head? = some '@'
  := by
  apply and_congr_left
  intro h
  apply isBoundary_of_startsWithWord
  exact startsWithWord_append h.1.startsWithWord _

theorem delimited_credentials :
  IsCredentials.Delimited
  where
  hidden_ne_nil := by
    rintro before kept hidden after ⟨-, -, ⟨user, password, rfl, -⟩, -⟩
    simp
  front h := by
    obtain ⟨hb, hscheme, -⟩ := isCredentials_iff.mp h
    exact ⟨hb, startsWithWord_append hscheme.startsWithWord _⟩
  moved h hb := isCredentials_iff.mpr ⟨hb, (isCredentials_iff.mp h).2⟩
  back := by
    rintro before kept hidden after ⟨-, -, -, hat⟩
    right
    obtain ⟨rest, rfl⟩ := List.head?_eq_some_iff.mp hat
    exact (by decide : Text.isWord '@' = false)

/-! ### Addresses -/

/-- One to three digits. -/
def IsGroup (s : List Char) : Prop :=
  1 ≤ s.length ∧ s.length ≤ 3 ∧ ∀ x ∈ s, Text.isDecimalDigit x = true

/-- Groups of digits, each behind a dot. -/
def dotted (groups : List (List Char)) : List Char := groups.flatMap ('.' :: ·)

/-- Four groups of digits, joined by dots, between word boundaries. -/
def IsAddress : Pattern := fun before kept hidden after =>
  kept = [] ∧ Text.isBoundary before (hidden ++ after) = true
    ∧ Text.isBoundary hidden.getLast? after = true
    ∧ ∃ group groups, hidden = group ++ dotted groups ∧ IsGroup group ∧ groups.length = 3
      ∧ ∀ g ∈ groups, IsGroup g

theorem readGroup_eq_some_iff {s rest : List Char} {n : Nat} :
  readGroup s = some (n, rest)
    ↔ ∃ group, s = group ++ rest ∧ IsGroup group ∧ n = group.length
      ∧ ∀ x ∈ rest.head?, Text.isDecimalDigit x = false
  := by
  constructor
  · intro h
    simp only [readGroup] at h
    split at h
    · next hn =>
      cases h
      refine ⟨s.takeWhile Text.isDecimalDigit, by rw [List.takeWhile_append_dropWhile],
        ⟨hn.1, hn.2, forall_mem_takeWhile _ _⟩, rfl, ?_⟩
      intro x hx
      have hhead := List.head?_dropWhile_not Text.isDecimalDigit s
      rw [hx] at hhead
      exact hhead
    · cases h
  · rintro ⟨group, rfl, ⟨hmin, hmax, hdigits⟩, rfl, hrest⟩
    have htake : (group ++ rest).takeWhile Text.isDecimalDigit = group := by
      cases rest with
      | nil => simpa using hdigits
      | cons x rest => exact Url.takeWhile_append_cons hdigits (hrest x rfl) rest
    have hdrop : (group ++ rest).dropWhile Text.isDecimalDigit = rest := by
      cases rest with
      | nil => simpa using hdigits
      | cons x rest => exact Url.dropWhile_append_cons hdigits (hrest x rfl) rest
    simp [readGroup, htake, hdrop, hmin, hmax]

/-- No digit stands behind a group of digits that was read to its end. -/
theorem not_digit_of_head? {groups : List (List Char)} {rest : List Char}
    (hrest : Text.startsWithWord rest = false) :
  ∀ x ∈ (dotted groups ++ rest).head?, Text.isDecimalDigit x = false
  := by
  intro x hx
  cases groups with
  | nil =>
    cases rest with
    | nil => cases hx
    | cons y rest =>
      cases hx
      rw [← Bool.not_eq_true]
      intro hdigit
      rw [Text.startsWithWord, Text.isWord_of_isDecimalDigit hdigit] at hrest
      cases hrest
  | cons g groups =>
    cases hx
    decide

theorem readGroups_eq_some_iff {more n : Nat} {s : List Char} :
  readGroups more s = some n
    ↔ ∃ groups rest, s = dotted groups ++ rest ∧ groups.length = more ∧ (∀ g ∈ groups, IsGroup g)
      ∧ n = (dotted groups).length ∧ Text.startsWithWord rest = false
  := by
  induction more generalizing s n with
  | zero =>
    constructor
    · intro h
      simp only [readGroups] at h
      split at h
      · cases h
      · next hword =>
        cases h
        exact ⟨[], s, rfl, rfl, by simp, rfl, by simpa using hword⟩
    · rintro ⟨groups, rest, rfl, hlength, -, rfl, hword⟩
      obtain rfl := List.length_eq_zero_iff.mp hlength
      simp [readGroups, dotted, hword]
  | succ more ih =>
    constructor
    · intro h
      unfold readGroups at h
      split at h
      · next heq => cases heq
      · next more' s' heq =>
        obtain rfl : more = more' := by simpa using heq
        obtain ⟨⟨n₁, rest₁⟩, hgroup, h⟩ := Option.bind_eq_some_iff.mp h
        obtain ⟨m, hgroups, h⟩ := Option.bind_eq_some_iff.mp h
        cases h
        obtain ⟨g, rfl, hg, rfl, -⟩ := readGroup_eq_some_iff.mp hgroup
        obtain ⟨groups, rest, rfl, hlength, hall, rfl, hword⟩ := ih.mp hgroups
        refine ⟨g :: groups, rest, ?_, by simp [hlength], ?_, ?_, hword⟩
        · simp [dotted]
        · simpa using ⟨hg, hall⟩
        · simp [dotted]
          omega
      · cases h
    · rintro ⟨groups, rest, rfl, hlength, hall, rfl, hword⟩
      obtain ⟨g, groups, rfl⟩ := List.exists_cons_of_length_eq_add_one hlength
      obtain ⟨hg, hall⟩ := List.forall_mem_cons.mp hall
      have hs : dotted (g :: groups) ++ rest = '.' :: (g ++ (dotted groups ++ rest)) := by
        simp [dotted]
      have hn : (dotted (g :: groups)).length = 1 + g.length + (dotted groups).length := by
        simp [dotted]
        omega
      have hgroup : readGroup (g ++ (dotted groups ++ rest))
          = some (g.length, dotted groups ++ rest) :=
        readGroup_eq_some_iff.mpr ⟨g, rfl, hg, rfl, not_digit_of_head? hword⟩
      have hgroups : readGroups more (dotted groups ++ rest) = some (dotted groups).length :=
        ih.mpr ⟨groups, rest, rfl, by simpa using hlength, hall, rfl, hword⟩
      rw [hs, hn]
      simp [readGroups, hgroup, hgroups]

/-- A digit is the last character of a sequence of groups. -/
theorem getLast?_dotted {group : List Char} {groups : List (List Char)} (hg : IsGroup group)
    (hall : ∀ g ∈ groups, IsGroup g) :
  ∃ d, (group ++ dotted groups).getLast? = some d ∧ Text.isDecimalDigit d = true
  := by
  have hlast : ∀ (s : List Char) {g : List Char}, IsGroup g →
      ∃ d, (s ++ g).getLast? = some d ∧ Text.isDecimalDigit d = true := by
    rintro s g ⟨hmin, -, hdigits⟩
    have hne : g ≠ [] := List.ne_nil_of_length_pos hmin
    use g.getLast hne
    rw [List.getLast?_append_of_ne_nil _ hne, List.getLast?_eq_some_getLast hne]
    exact ⟨rfl, hdigits _ (List.getLast_mem hne)⟩
  rcases List.eq_nil_or_concat groups with rfl | ⟨groups, g, rfl⟩
  · simpa [dotted] using hlast [] hg
  · obtain ⟨d, hd⟩ := hlast (group ++ dotted groups ++ ['.']) (hall g (by simp))
    use d
    simpa [dotted] using hd

theorem IsGroup.startsWithWord {group : List Char} (h : IsGroup group) :
  Text.startsWithWord group = true
  := by
  obtain ⟨hmin, -, hdigits⟩ := h
  obtain ⟨d, group, rfl⟩ := List.exists_cons_of_length_pos hmin
  exact Text.isWord_of_isDecimalDigit (hdigits d List.mem_cons_self)

theorem isAddress_iff {before : Option Char} {kept hidden after : List Char} :
  IsAddress before kept hidden after
    ↔ Text.endsInWord before = false ∧ Text.startsWithWord after = false ∧ kept = []
      ∧ ∃ group groups, hidden = group ++ dotted groups ∧ IsGroup group ∧ groups.length = 3
        ∧ ∀ g ∈ groups, IsGroup g
  := by
  have hboundaries : ∀ {group groups}, IsGroup group → (∀ g ∈ groups, IsGroup g) →
      ((Text.isBoundary before ((group ++ dotted groups) ++ after) = true
        ↔ Text.endsInWord before = false)
      ∧ (Text.isBoundary (group ++ dotted groups).getLast? after = true
        ↔ Text.startsWithWord after = false)) := by
    intro group groups hg hall
    constructor
    · apply isBoundary_of_startsWithWord
      exact startsWithWord_append (startsWithWord_append hg.startsWithWord _) _
    · obtain ⟨d, hlast, hd⟩ := getLast?_dotted hg hall
      simp [hlast, Text.isBoundary, Text.endsInWord, Text.isWord_of_isDecimalDigit hd]
  constructor
  · rintro ⟨hkept, hb, hb', group, groups, rfl, hg, hlength, hall⟩
    obtain ⟨hfront, hback⟩ := hboundaries hg hall
    exact ⟨hfront.mp hb, hback.mp hb', hkept, group, groups, rfl, hg, hlength, hall⟩
  · rintro ⟨hb, hb', hkept, group, groups, rfl, hg, hlength, hall⟩
    obtain ⟨hfront, hback⟩ := hboundaries hg hall
    exact ⟨hkept, hfront.mpr hb, hback.mpr hb', group, groups, rfl, hg, hlength, hall⟩

theorem reads_address :
  address.Reads IsAddress
  := by
  constructor
  case sound =>
    intro before s f h
    unfold address at h
    split at h
    · cases h
    · next hb =>
      obtain ⟨⟨n, rest⟩, hgroup, h⟩ := Option.bind_eq_some_iff.mp h
      obtain ⟨m, hgroups, h⟩ := Option.bind_eq_some_iff.mp h
      cases h
      obtain ⟨group, rfl, hg, rfl, -⟩ := readGroup_eq_some_iff.mp hgroup
      obtain ⟨groups, after, rfl, hlength, hall, rfl, hword⟩ := readGroups_eq_some_iff.mp hgroups
      refine ⟨[], group ++ dotted groups, after, by simp, by simp, isAddress_iff.mpr ?_⟩
      exact ⟨by simpa using hb, hword, rfl, group, groups, rfl, hg, hlength, hall⟩
  case complete =>
    rintro before s ⟨kept, hidden, after, rfl, h⟩
    obtain ⟨hb, hb', rfl, group, groups, rfl, hg, hlength, hall⟩ := isAddress_iff.mp h
    have hgroup : readGroup (group ++ (dotted groups ++ after))
        = some (group.length, dotted groups ++ after) :=
      readGroup_eq_some_iff.mpr ⟨group, rfl, hg, rfl, not_digit_of_head? hb'⟩
    have hgroups : readGroups 3 (dotted groups ++ after) = some (dotted groups).length :=
      readGroups_eq_some_iff.mpr ⟨groups, after, rfl, hlength, hall, rfl, hb'⟩
    simp [address, hb, hgroup, hgroups]

theorem delimited_address :
  IsAddress.Delimited
  where
  hidden_ne_nil := by
    rintro before kept hidden after ⟨-, -, -, group, groups, rfl, hg, -⟩ hnil
    have hmin := hg.1
    rw [(List.append_eq_nil_iff.mp hnil).1] at hmin
    cases hmin
  front h := by
    obtain ⟨hb, -, rfl, group, groups, rfl, hg, -⟩ := isAddress_iff.mp h
    exact ⟨hb, startsWithWord_append hg.startsWithWord _⟩
  moved h hb := isAddress_iff.mpr ⟨hb, (isAddress_iff.mp h).2⟩
  back h := .inr (isAddress_iff.mp h).2.1

/-! ### User names -/

/-- Whether a text is a word in any letter case. -/
def Spells (word s : List Char) : Prop :=
  List.Forall₂ (fun letter c => foldsTo letter c = true) word s

/-- The word `for` and blanks, or nothing. -/
def IsFor (s : List Char) : Prop :=
  s = [] ∨ ∃ word blanks, s = word ++ blanks ∧ Spells ['f', 'o', 'r'] word ∧ blanks ≠ []
    ∧ ∀ x ∈ blanks, Text.isBlank x = true

/-- The word `user`, and a colon or an equals sign between blanks, both optional. -/
def IsUser (s : List Char) : Prop :=
  ∃ word blanks mark blanks', s = word ++ (blanks ++ (mark ++ blanks'))
    ∧ Spells ['u', 's', 'e', 'r'] word ∧ (∀ x ∈ blanks, Text.isBlank x = true) ∧ mark ∈ [[], [':'], ['=']]
    ∧ ∀ x ∈ blanks', Text.isBlank x = true

/-- Whether `q` is a quote. -/
def IsQuote (q : Char) : Prop := q ∈ ['\x22', '\x27', '\x60']

/-- A text in quotes of one kind. -/
def IsQuoted (s : List Char) : Prop :=
  ∃ q inside, s = q :: (inside ++ [q]) ∧ IsQuote q ∧ q ∉ inside

/-- The word `user` at a word boundary, behind which a quoted text stands, or `for user`. -/
def IsUserName : Pattern := fun before kept hidden after =>
  Text.isBoundary before (kept ++ (hidden ++ after)) = true
    ∧ (∃ front user, kept = front ++ user ∧ IsFor front ∧ IsUser user) ∧ IsQuoted hidden

theorem quotedLength_eq_some_iff {s : List Char} {n : Nat} :
  quotedLength s = some n
    ↔ ∃ quoted after, s = quoted ++ after ∧ IsQuoted quoted ∧ n = quoted.length
  := by
  constructor
  · intro h
    cases s with
    | nil => cases h
    | cons q rest =>
      simp only [quotedLength] at h
      split at h
      · next hq =>
        split at h
        · next hlt =>
          cases h
          have hdrop : rest.dropWhile (· != q) ≠ [] := by
            intro hnil
            have hall := List.takeWhile_append_dropWhile (p := (· != q)) (l := rest)
            rw [hnil, List.append_nil] at hall
            rw [hall] at hlt
            exact Nat.lt_irrefl _ hlt
          obtain ⟨q', after, hdrop⟩ := List.exists_cons_of_ne_nil hdrop
          obtain ⟨hrest, hq'⟩ := eq_append_of_dropWhile hdrop
          obtain rfl : q' = q := by simpa using hq'
          refine ⟨q' :: (rest.takeWhile (· != q') ++ [q']), after, ?_, ⟨q', _, rfl, ?_, ?_⟩,
            by simp⟩
          · conv_lhs => rw [hrest]
            simp
          · simpa [IsQuote, or_assoc] using hq
          · intro hmem
            simpa using forall_mem_takeWhile _ _ _ hmem
        · cases h
      · cases h
  · rintro ⟨quoted, after, rfl, ⟨q, inside, rfl, hq, hnot⟩, rfl⟩
    have hq' : (q == '\x22' || q == '\x27' || q == '\x60') = true := by
      simpa [IsQuote, or_assoc] using hq
    have hinside : ∀ x ∈ inside, (x != q) = true := by
      intro x hx
      rw [bne_iff_ne]
      rintro rfl
      exact hnot hx
    have hs : q :: (inside ++ [q]) ++ after = q :: (inside ++ q :: after) := by simp
    rw [hs]
    simp only [quotedLength, hq', if_true,
      Url.takeWhile_append_cons hinside (by simp : (q != q) = false)]
    simp

theorem stripWord_eq_some_iff {word s rest : List Char} :
  stripWord word s = some rest ↔ ∃ w, s = w ++ rest ∧ Spells word w
  := by
  induction word generalizing s with
  | nil =>
    simp only [stripWord, Option.some.injEq]
    constructor
    · rintro rfl
      exact ⟨[], rfl, .nil⟩
    · rintro ⟨w, rfl, hw⟩
      cases hw
      rfl
  | cons letter word ih =>
    constructor
    · intro h
      cases s with
      | nil => cases h
      | cons c s =>
        simp only [stripWord] at h
        split at h
        · next hc =>
          obtain ⟨w, rfl, hw⟩ := ih.mp h
          exact ⟨c :: w, rfl, .cons hc hw⟩
        · cases h
    · rintro ⟨w, rfl, hw⟩
      cases hw with
      | cons hc hw =>
        simp only [List.cons_append, stripWord, hc, if_true]
        exact ih.mpr ⟨_, rfl, hw⟩

/-- Behind the first letter of a word there are only the letters of it. -/
theorem Spells.exists_cons {letter : Char} {word w : List Char} (h : Spells (letter :: word) w) :
  ∃ c w', w = c :: w' ∧ foldsTo letter c = true
  := by
  cases h with
  | cons hc _ => exact ⟨_, _, rfl, hc⟩

/-- Blanks end where a character stands that is none. -/
theorem trimStart_append {blanks s : List Char} (hblanks : ∀ x ∈ blanks, Text.isBlank x = true)
    (hs : ∀ x ∈ s.head?, Text.isBlank x = false) :
  Text.trimStart (blanks ++ s) = s
  := by
  rw [Text.trimStart, List.dropWhile_append_of_pos hblanks]
  cases s with
  | nil => rfl
  | cons c s => exact List.dropWhile_cons_of_neg (by simp [hs c rfl])

theorem IsQuoted.exists_cons {s : List Char} (h : IsQuoted s) :
  ∃ q s', s = q :: s' ∧ IsQuote q
  := by
  obtain ⟨q, inside, rfl, hq, -⟩ := h
  exact ⟨q, _, rfl, hq⟩

theorem IsQuote.not_isBlank {q : Char} (h : IsQuote q) :
  Text.isBlank q = false
  := by
  simp only [IsQuote, List.mem_cons, List.not_mem_nil, or_false] at h
  rcases h with rfl | rfl | rfl <;> decide

theorem IsQuote.not_isWord {q : Char} (h : IsQuote q) :
  Text.isWord q = false
  := by
  simp only [IsQuote, List.mem_cons, List.not_mem_nil, or_false] at h
  rcases h with rfl | rfl | rfl <;> decide

/-- No word ends at the end of a quoted text. -/
theorem IsQuoted.endsInWord {s : List Char} (h : IsQuoted s) :
  Text.endsInWord s.getLast? = false
  := by
  obtain ⟨q, inside, rfl, hq, -⟩ := h
  rw [← List.cons_append, List.getLast?_concat]
  exact hq.not_isWord

theorem exists_of_afterUser {s rest : List Char} (h : afterUser s = some rest) :
  ∃ user, s = user ++ rest ∧ IsUser user
  := by
  have hmark : ∀ s : List Char, ∃ mark ∈ [[], [':'], ['=']], s = mark ++ dropMark s := by
    intro s
    cases s with
    | nil => exact ⟨[], by simp, rfl⟩
    | cons c s =>
      simp only [dropMark]
      split
      · next hc =>
        refine ⟨[c], ?_, rfl⟩
        simpa using hc
      · exact ⟨[], by simp, rfl⟩
  obtain ⟨t, ht, rfl⟩ := Option.map_eq_some_iff.mp h
  obtain ⟨word, rfl, hword⟩ := stripWord_eq_some_iff.mp ht
  obtain ⟨mark, hmark, hrest⟩ := hmark (Text.trimStart t)
  refine ⟨_, ?_, word, t.takeWhile Text.isBlank, mark, (dropMark (Text.trimStart t)).takeWhile
    Text.isBlank, rfl, hword, forall_mem_takeWhile _ _, hmark, forall_mem_takeWhile _ _⟩
  have hsplit : ∀ s, s.takeWhile Text.isBlank ++ Text.trimStart s = s := fun s =>
    List.takeWhile_append_dropWhile
  simp only [List.append_assoc]
  rw [hsplit, ← hrest, hsplit]

theorem afterUser_append {user s : List Char} (hu : IsUser user) (hs : ∀ x ∈ s.head?, IsQuote x) :
  afterUser (user ++ s) = some s
  := by
  obtain ⟨word, blanks, mark, blanks', rfl, hword, hblanks, hmark, hblanks'⟩ := hu
  have hs' : ∀ x ∈ s.head?, Text.isBlank x = false := fun x hx => (hs x hx).not_isBlank
  have hstrip : stripWord ['u', 's', 'e', 'r'] (word ++ (blanks ++ (mark ++ (blanks' ++ s))))
      = some (blanks ++ (mark ++ (blanks' ++ s))) :=
    stripWord_eq_some_iff.mpr ⟨word, rfl, hword⟩
  have hblank : Text.isBlank ':' = false ∧ Text.isBlank '=' = false := by decide
  have hrest :
      Text.trimStart (dropMark (Text.trimStart (blanks ++ (mark ++ (blanks' ++ s))))) = s := by
    simp only [List.mem_cons, List.not_mem_nil, or_false] at hmark
    rcases hmark with rfl | rfl | rfl
    · -- Without a mark the two runs of blanks are one.
      have hdrop : dropMark s = s := by
        cases s with
        | nil => rfl
        | cons q s =>
          have hq := hs q rfl
          simp only [IsQuote, List.mem_cons, List.not_mem_nil, or_false] at hq
          rcases hq with rfl | rfl | rfl <;> rfl
      have hboth : ∀ x ∈ blanks ++ blanks', Text.isBlank x = true := by
        simpa [or_imp, forall_and] using ⟨hblanks, hblanks'⟩
      rw [List.nil_append, ← List.append_assoc, trimStart_append hboth hs', hdrop]
      have hnone : ∀ x ∈ ([] : List Char), Text.isBlank x = true := by simp
      exact trimStart_append hnone hs'
    · rw [trimStart_append hblanks (by simpa using hblank.1)]
      exact trimStart_append hblanks' hs'
    · rw [trimStart_append hblanks (by simpa using hblank.2)]
      exact trimStart_append hblanks' hs'
  simp only [List.append_assoc, afterUser, hstrip, Option.map_some, hrest]

theorem exists_of_afterFor {s rest : List Char} (h : afterFor s = some rest) :
  ∃ front, s = front ++ rest ∧ IsFor front
  := by
  unfold afterFor at h
  split at h
  · next t ht =>
    obtain ⟨word, rfl, hword⟩ := stripWord_eq_some_iff.mp ht
    split at h
    · cases h
    · next hne =>
      cases h
      refine ⟨word ++ t.takeWhile Text.isBlank, ?_, .inr ⟨word, _, rfl, hword, by simpa using hne,
        forall_mem_takeWhile _ _⟩⟩
      rw [List.append_assoc, Text.trimStart, List.takeWhile_append_dropWhile]
  · cases h

theorem afterFor_append {front s : List Char} (hf : IsFor front)
    (hs : ∃ u s', s = u :: s' ∧ foldsTo 'u' u = true) :
  (afterFor (front ++ s)).getD (front ++ s) = s
  := by
  obtain ⟨u, s, rfl, hu⟩ := hs
  have hu : u.toLower = 'u' := by simpa [foldsTo] using hu
  rcases hf with rfl | ⟨word, blanks, rfl, hword, hne, hblanks⟩
  · have hstrip : afterFor (u :: s) = none := by
      simp [afterFor, stripWord, foldsTo, hu]
    rw [List.nil_append, hstrip, Option.getD_none]
  · have hblank : Text.isBlank u = false := by
      apply Text.not_isBlank_of_isAlpha
      apply Text.isAlpha_of_toLower
      rw [hu]
      decide
    have hstrip : stripWord ['f', 'o', 'r'] (word ++ (blanks ++ u :: s))
        = some (blanks ++ u :: s) :=
      stripWord_eq_some_iff.mpr ⟨word, rfl, hword⟩
    simp only [List.append_assoc, afterFor, hstrip,
      Url.takeWhile_append_cons hblanks hblank, List.isEmpty_iff, hne, if_false, Option.getD_some]
    exact trimStart_append hblanks (by simpa using hblank)

theorem userName_eq_some {before : Option Char} {kept hidden after : List Char}
    (h : IsUserName before kept hidden after) :
  userName before (kept ++ (hidden ++ after)) = some ⟨kept.length, kept.length + hidden.length⟩
  := by
  obtain ⟨hb, ⟨front, user, rfl, hfront, huser⟩, hquoted⟩ := h
  obtain ⟨q, hidden', hhidden, hq⟩ := hquoted.exists_cons
  have hhead : ∃ u s', user ++ (hidden ++ after) = u :: s' ∧ foldsTo 'u' u = true := by
    obtain ⟨word, blanks, mark, blanks', rfl, hword, -⟩ := huser
    obtain ⟨u, word, rfl, hu⟩ := hword.exists_cons
    exact ⟨u, _, rfl, hu⟩
  have hfor := afterFor_append hfront hhead
  have huser : afterUser (user ++ (hidden ++ after)) = some (hidden ++ after) := by
    apply afterUser_append huser
    simpa [hhidden] using hq
  have hquoted : quotedLength (hidden ++ after) = some hidden.length :=
    quotedLength_eq_some_iff.mpr ⟨hidden, after, rfl, hquoted, rfl⟩
  have hkept : (front ++ (user ++ (hidden ++ after))).length - (hidden ++ after).length
      = (front ++ user).length := by
    rw [← List.append_assoc, List.length_append, Nat.add_sub_cancel]
  rw [List.append_assoc] at hb ⊢
  simp only [userName, hb, if_true, hfor, huser, hquoted, Option.bind_eq_bind, Option.bind_some,
    Option.pure_def, hkept]

theorem reads_userName :
  userName.Reads IsUserName
  := by
  constructor
  case sound =>
    intro before s f h
    unfold userName at h
    split at h
    · next hb =>
      obtain ⟨rest, hrest, h⟩ := Option.bind_eq_some_iff.mp h
      obtain ⟨n, hn, h⟩ := Option.bind_eq_some_iff.mp h
      cases h
      have hfor : ∃ front, s = front ++ (afterFor s).getD s ∧ IsFor front := by
        cases hf : afterFor s with
        | none => exact ⟨[], rfl, .inl rfl⟩
        | some t => exact exists_of_afterFor hf
      obtain ⟨front, hs, hfront⟩ := hfor
      obtain ⟨user, hs', huser⟩ := exists_of_afterUser hrest
      obtain ⟨quoted, after, rfl, hquoted, rfl⟩ := quotedLength_eq_some_iff.mp hn
      have hs : s = (front ++ user) ++ (quoted ++ after) := by rw [hs, hs', List.append_assoc]
      have hkept : s.length - (quoted ++ after).length = (front ++ user).length := by
        rw [hs, List.length_append, Nat.add_sub_cancel]
      refine ⟨front ++ user, quoted, after, hs, by rw [hkept], ?_,
        ⟨front, user, rfl, hfront, huser⟩, hquoted⟩
      rw [← hs, hb]
    · cases h
  case complete =>
    rintro before s ⟨kept, hidden, after, rfl, h⟩
    rw [userName_eq_some h]
    exact Option.some_ne_none _

/-- A word is at the start of what stays of a fragment. -/
theorem startsWithWord_of_isUser {front user : List Char} (hf : IsFor front) (hu : IsUser user) :
  Text.startsWithWord (front ++ user) = true
  := by
  rcases hf with rfl | ⟨word, blanks, rfl, hword, -⟩
  · obtain ⟨word, blanks, mark, blanks', rfl, hword, -⟩ := hu
    obtain ⟨u, word, rfl, hu⟩ := hword.exists_cons
    exact isWord_of_foldsTo (by decide) hu
  · obtain ⟨f, word, rfl, hf⟩ := hword.exists_cons
    exact isWord_of_foldsTo (by decide) hf

theorem isUserName_iff {before : Option Char} {kept hidden after : List Char} :
  IsUserName before kept hidden after
    ↔ Text.endsInWord before = false
      ∧ (∃ front user, kept = front ++ user ∧ IsFor front ∧ IsUser user) ∧ IsQuoted hidden
  := by
  apply and_congr_left
  rintro ⟨⟨front, user, rfl, hfront, huser⟩, -⟩
  apply isBoundary_of_startsWithWord
  exact startsWithWord_append (startsWithWord_of_isUser hfront huser) _

theorem delimited_userName :
  IsUserName.Delimited
  where
  hidden_ne_nil := by
    rintro before kept hidden after ⟨-, -, hquoted⟩ rfl
    obtain ⟨q, s, h, -⟩ := hquoted.exists_cons
    cases h
  front h := by
    obtain ⟨hb, ⟨front, user, rfl, hfront, huser⟩, -⟩ := isUserName_iff.mp h
    exact ⟨hb, startsWithWord_append (startsWithWord_of_isUser hfront huser) _⟩
  moved h hb := isUserName_iff.mpr ⟨hb, (isUserName_iff.mp h).2⟩
  back h := .inl h.2.2.endsInWord

end Storekeeper.Redaction

import Storekeeper.Proofs.Redaction.Cuts
import Storekeeper.Proofs.Settings.StoreSelection
import Storekeeper.Proofs.Text.Quoting

/-!
# What the settings show of a login

A `Login` is a URL with a user name and a password, of which the last at sign ends the password, as
it does for the parser of URLs.  The redaction takes the first at sign for the end, and looks for a
user name that is not empty.  So `showsUrl_masked_iff` says that the settings show user name and
password masked, and the rest of the URL as it is redacted by itself, exactly if there is a user name,
and no at sign in it or in the password.
-/

namespace Storekeeper.Settings

open Redaction

/-! ### Supported schemes -/

/-- Whether the name of a scheme is a supported one, in any letter case. -/
def IsSupported (scheme : List Char) : Prop :=
  String.ofList (scheme.map Char.toLower) ∈ supportedSchemes

instance (scheme : List Char) : Decidable (IsSupported scheme) :=
  inferInstanceAs (Decidable (String.ofList (scheme.map Char.toLower) ∈ supportedSchemes))

theorem IsSupported.exists_name {scheme : List Char} (h : IsSupported scheme) :
  ∃ name ∈ supportedSchemes, scheme.map Char.toLower = name.toList
  := ⟨_, h, by rw [String.toList_ofList]⟩

/-- A supported scheme is made of letters and the plus sign, without the first letters of `user` and
of `for`. -/
theorem IsSupported.char {scheme : List Char} (h : IsSupported scheme) {c : Char} (hc : c ∈ scheme) :
  (c.isAlpha = true ∨ c = '+') ∧ isInert c = true
  := by
  have hall : ∀ name ∈ supportedSchemes,
      name.toList.all (fun d => (d.isAlpha || d == '+') && d != 'u' && d != 'f') = true := by
    decide
  obtain ⟨name, hname, heq⟩ := h.exists_name
  have hmem : c.toLower ∈ name.toList := by
    rw [← heq]
    exact List.mem_map_of_mem hc
  have hlower := List.all_eq_true.mp (hall name hname) _ hmem
  simp only [Bool.and_eq_true, Bool.or_eq_true, beq_iff_eq, bne_iff_ne] at hlower
  obtain ⟨⟨hlower, hu⟩, hf⟩ := hlower
  have hletter : c.isAlpha = true ∨ c = '+' := by
    rcases hlower with hlower | hplus
    · exact .inl (Text.isAlpha_of_toLower hlower)
    · cases hupper : c.isUpper with
      | true => exact .inl (Bool.or_eq_true_iff.mpr (.inl hupper))
      | false =>
        right
        rw [← hplus, Url.toLower_eq_self_iff.mpr hupper]
  have hdigit : Text.isDecimalDigit c = false := by
    rcases hletter with hletter | rfl
    · exact Text.not_isDecimalDigit_of_isAlpha hletter
    · decide
  exact ⟨hletter, by simp [isInert, foldsTo, hdigit, hu, hf]⟩

theorem IsSupported.isScheme {scheme : List Char} (h : IsSupported scheme) :
  IsScheme (scheme ++ [':', '/', '/'])
  := by
  have hhead : ∀ name ∈ supportedSchemes, name.toList.head?.any Char.isAlpha = true := by decide
  obtain ⟨name, hname, heq⟩ := h.exists_name
  have hletter := hhead name hname
  rw [← heq] at hletter
  cases scheme with
  | nil => cases hletter
  | cons c scheme =>
    have hletter : c.toLower.isAlpha = true := hletter
    refine ⟨c, scheme, rfl, ?_, ?_⟩
    · simp [isFoldedLetter, Text.isAlpha_of_toLower hletter]
    · intro x hx
      rcases (h.char (List.mem_cons_of_mem c hx)).1 with hx | rfl
      · simp [isSchemeChar, isFoldedLetter, hx]
      · decide

/-- The last two passes of the redaction go on as they begin behind a supported scheme and a mark. -/
theorem IsSupported.userName_apply_address_apply {scheme : List Char} (h : IsSupported scheme)
    (mark : List Char) {d : Char} (hd : Text.isWord d = false)
    (hmark : (mark ++ [d]).all isInert = true) (y : List Char) :
  userName.apply (address.apply (scheme ++ (mark ++ d :: y)))
    = scheme ++ (mark ++ d :: userName.apply (address.apply y))
  := by
  have hinert : ∀ c ∈ (scheme ++ mark) ++ [d], isInert c = true := by
    intro c hc
    rw [List.append_assoc] at hc
    rcases List.mem_append.mp hc with hc | hc
    · exact (h.char hc).2
    · exact List.all_eq_true.mp hmark c hc
  simpa using Redaction.userName_apply_address_apply hd hinert y

/-! ### Logins -/

/-- Whether `c` may stand in the user name and the password of a login. -/
def isLoginChar (c : Char) : Bool := !Text.isBlank c && c != '/'

/-- A URL with a user name and a password, which hold no blanks and no slashes.  The first colon ends
the user name, and the last at sign the password. -/
structure Login where
  scheme : List Char
  user : List Char
  password : List Char
  /-- The host, and what stands behind it. -/
  rest : List Char
  supported : IsSupported scheme
  user_char : ∀ c ∈ user, (isLoginChar c && c != ':') = true
  password_char : ∀ c ∈ password, isLoginChar c = true
  at_not_mem : '@' ∉ rest

namespace Login

/-- The user name, a colon and the password. -/
def info (l : Login) : List Char := l.user ++ ':' :: l.password

/-- The characters of the URL. -/
def chars (l : Login) : List Char := l.scheme ++ [':', '/', '/'] ++ (l.info ++ '@' :: l.rest)

/-- The text of the URL. -/
def text (l : Login) : String := String.ofList l.chars

/-- The characters of the URL with user name and password masked, and the rest redacted. -/
def maskedChars (l : Login) : List Char :=
  l.scheme ++ [':', '/', '/'] ++ (mask ++ '@' :: sanitizeChars l.rest)

/-- The text of the URL with user name and password masked, and the rest redacted. -/
def masked (l : Login) : String := String.ofList l.maskedChars

/-- Whether the redaction can tell where the user name begins and where the password ends. -/
def IsPlain (l : Login) : Prop := l.user ≠ [] ∧ '@' ∉ l.user ∧ '@' ∉ l.password

variable {l : Login}

theorem isLoginChar_of_mem_info (l : Login) :
  ∀ c ∈ l.info, isLoginChar c = true
  := by
  rw [info, List.forall_mem_append, List.forall_mem_cons]
  refine ⟨?_, by decide, l.password_char⟩
  intro c hc
  exact (Bool.and_eq_true_iff.mp (l.user_char c hc)).1

theorem slash_not_mem_info (l : Login) :
  '/' ∉ l.info
  := fun hmem => by cases l.isLoginChar_of_mem_info '/' hmem

theorem colon_not_mem_user (l : Login) :
  ':' ∉ l.user
  := fun hmem => by cases l.user_char ':' hmem

/-- What stands in front of the at signs of the password is a user name and a password. -/
theorem isUserInfo {password rest : List Char} (hne : l.user ≠ []) (huser : '@' ∉ l.user)
    (hpassword : l.password = password ++ rest) (hat : '@' ∉ password) :
  IsUserInfo (l.user ++ ':' :: password)
  := by
  have hinfo : l.info = (l.user ++ ':' :: password) ++ rest := by simp [info, hpassword]
  have hat' : '@' ∉ l.user ++ ':' :: password := by simp [huser, hat]
  rw [isUserInfo_iff]
  refine ⟨?_, by simp, ?_⟩
  · intro c hc
    have hlogin := l.isLoginChar_of_mem_info c (by
      rw [hinfo]
      exact List.mem_append_left _ hc)
    rw [isPasswordChar, ← isLoginChar, hlogin, Bool.true_and, bne_iff_ne]
    rintro rfl
    exact hat' hc
  · obtain ⟨c, user, heq⟩ := List.exists_cons_of_ne_nil hne
    rw [heq]
    rintro hhead
    obtain rfl : c = ':' := by simpa using hhead
    apply l.colon_not_mem_user
    rw [heq]
    exact List.mem_cons_self

/-- The redaction masks what it takes for credentials, and goes on with what stands behind them. -/
theorem sanitizeChars_of_isUserInfo (l : Login) {info : List Char} (hinfo : IsUserInfo info)
    (rest : List Char) :
  sanitizeChars (l.scheme ++ [':', '/', '/'] ++ (info ++ '@' :: rest))
    = l.scheme ++ [':', '/', '/'] ++ (mask ++ '@' :: sanitizeChars rest)
  := by
  have hcut := l.supported.userName_apply_address_apply "://***".toList
    (by decide : Text.isWord '@' = false) (by decide) (credentials.apply rest)
  rw [sanitizeChars, credentials_apply l.supported.isScheme hinfo]
  simpa [mask, sanitizeChars] using hcut

/-- There are no credentials if the user name is empty, or has an at sign. -/
theorem not_occurs_credentials (h : ¬ (l.user ≠ [] ∧ '@' ∉ l.user)) :
  ¬ IsCredentials.Occurs l.chars
  := by
  apply Pattern.not_occurs_append
  case hx =>
    rintro x₁ x₂ hx hne ⟨scheme, hidden, after, heq, hf⟩
    obtain ⟨-, hscheme, ⟨user, password, rfl, hne', huser, -⟩, -⟩ := isCredentials_iff.mp hf
    have hfront := l.supported.isScheme
    rw [hx] at hfront
    obtain ⟨-, hrest⟩ := hfront.eq_of_append_eq hscheme hne heq
    -- Credentials would start behind the slashes, with the whole user name.
    have hcut : l.user ++ ':' :: (l.password ++ '@' :: l.rest)
        = user ++ ':' :: (password ++ after) := by
      simpa [info] using hrest
    have hcolon : ':' ∉ user := fun hmem => by cases huser _ hmem
    obtain ⟨huser', -⟩ := append_cons_inj hcut l.colon_not_mem_user hcolon
    rw [huser'] at h
    exact h ⟨hne', fun hmem => by cases huser _ hmem⟩
  case hy =>
    have hslash : '/' ∉ l.info ++ ['@'] := by simpa using l.slash_not_mem_info
    simpa using not_occurs_credentials_append hslash l.at_not_mem

/-- The text of such a login shows more than the masked text. -/
theorem sanitizeChars_ne_of_not_occurs (h : ¬ IsCredentials.Occurs l.chars) :
  sanitizeChars l.chars ≠ l.maskedChars
  := by
  have hrest : ¬ IsCredentials.Occurs l.rest :=
    not_occurs_credentials_append (x := []) List.not_mem_nil l.at_not_mem
  have hcut := l.supported.userName_apply_address_apply [':', '/']
    (by decide : Text.isWord '/' = false) (by decide) (l.info ++ '@' :: l.rest)
  -- The colon of the login is still there, and it is not in the mask.
  obtain ⟨z, hz⟩ := exists_address_apply_append_cons (by decide : Text.isDecimalDigit ':' = false)
    (by decide) (by decide) l.user (l.password ++ '@' :: l.rest)
  obtain ⟨z', hz'⟩ := exists_address_apply_append_cons (by decide : Text.isDecimalDigit '@' = false)
    (by decide) (by decide) l.password l.rest
  intro heq
  have hshown : userName.apply (z ++ ':' :: (z' ++ '@' :: address.apply l.rest))
      = "***@".toList ++ userName.apply (address.apply l.rest) := by
    rw [sanitizeChars_of_not_occurs h, maskedChars, sanitizeChars_of_not_occurs hrest] at heq
    have hchars : l.chars = l.scheme ++ ([':', '/'] ++ '/' :: (l.info ++ '@' :: l.rest)) := by
      simp [chars]
    have hinfo : l.info ++ '@' :: l.rest = l.user ++ ':' :: (l.password ++ '@' :: l.rest) := by
      simp [info]
    rw [hchars, hcut, hinfo, hz, hz'] at heq
    simpa [mask] using heq
  have hmark : "***@".toList.all (fun c => !(isUserMark c || Text.isWord c)) = true := by decide
  obtain ⟨r, hr, heq'⟩ := exists_of_userName_apply_eq_append
    (fun c hc => by simpa using List.all_eq_true.mp hmark c hc) hshown
  obtain ⟨w, hz, rfl⟩ := exists_of_append_eq hr.symm (by decide)
  have hw : w ++ ':' :: (z' ++ '@' :: address.apply l.rest)
      = (w ++ ':' :: z') ++ '@' :: address.apply l.rest := by simp
  rw [hw] at heq'
  exact userName_apply_append_ne (by decide) (by decide) (by simp [IsQuote]) _ _ heq'

/-- User name and password are masked, and nothing else, exactly if the login is plain. -/
theorem sanitizeChars_eq_iff (l : Login) :
  sanitizeChars l.chars = l.maskedChars ↔ l.IsPlain
  := by
  constructor
  · intro heq
    by_cases huser : l.user ≠ [] ∧ '@' ∉ l.user
    · refine ⟨huser.1, huser.2, ?_⟩
      intro hat
      obtain ⟨front, back, hpassword, hfront⟩ := List.eq_append_cons_of_mem hat
      have hinfo := isUserInfo huser.1 huser.2 hpassword hfront
      have hchars : l.chars = l.scheme ++ [':', '/', '/']
          ++ ((l.user ++ ':' :: front) ++ '@' :: (back ++ '@' :: l.rest)) := by
        simp [chars, info, hpassword]
      rw [hchars, sanitizeChars_of_isUserInfo l hinfo, maskedChars] at heq
      have hback : '/' ∉ back := by
        intro hmem
        apply l.slash_not_mem_info
        simp [info, hpassword, hmem]
      apply sanitizeChars_append_ne hback l.at_not_mem
      simpa using heq
    · exact absurd heq (sanitizeChars_ne_of_not_occurs (not_occurs_credentials huser))
  · rintro ⟨hne, huser, hpassword⟩
    have hinfo := isUserInfo hne huser (List.append_nil _).symm hpassword
    exact sanitizeChars_of_isUserInfo l hinfo l.rest

theorem sanitize_text_eq_iff (l : Login) :
  sanitize l.text = l.masked ↔ l.IsPlain
  := by
  rw [sanitize, text, String.toList_ofList, masked, String.ofList_inj]
  exact l.sanitizeChars_eq_iff

end Login

/-! ### What is shown -/

/-- Whether the settings show a text for their URL. -/
def ShowsUrl (s : Settings) (shown : String) : Prop :=
  ∃ others, s.describe = "DatabaseSettings \x7b url: " ++ Text.quoted shown ++ others

/-- The settings show their URL redacted, and nothing else for it. -/
theorem showsUrl_iff {s : Settings} {shown : String} :
  s.ShowsUrl shown ↔ shown = sanitize s.url
  := by
  obtain ⟨others, hothers⟩ : s.ShowsUrl (sanitize s.url) := by
    refine ⟨String.join ?_, ?_⟩
    case refine_2 =>
      rw [describe, String.join_cons, String.join_cons, ← String.append_assoc]
  constructor
  · rintro ⟨others', hothers'⟩
    rw [hothers, String.append_assoc, String.append_assoc, String.append_right_inj] at hothers'
    exact (Text.quoted_append_inj hothers').1.symm
  · rintro rfl
    exact ⟨others, hothers⟩

/-- Settings show a login with user name and password masked exactly if the login is plain. -/
theorem showsUrl_masked_iff (s : Settings) (l : Login) :
  { s with url := l.text }.ShowsUrl l.masked ↔ l.IsPlain
  := by
  rw [showsUrl_iff, eq_comm]
  exact l.sanitize_text_eq_iff

/-- An at sign in the password of a URL that is accepted gives away what stands behind it. -/
theorem not_forall_showsUrl_masked :
  ¬ ∀ (s : Settings) (l : Login), s.validate = .ok () → s.url = l.text → s.ShowsUrl l.masked
  := by
  intro h
  have hshown := h { url := "mongodb://app:se@cret@db.internal/app" } {
    scheme := "mongodb".toList
    user := "app".toList
    password := "se@cret".toList
    rest := "db.internal/app".toList
    supported := by decide
    user_char := List.all_eq_true.mp (by decide)
    password_char := List.all_eq_true.mp (by decide)
    at_not_mem := by decide } (by decide) (by decide)
  rw [showsUrl_iff] at hshown
  revert hshown
  decide

end Storekeeper.Settings

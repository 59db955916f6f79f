import Mathlib.Tactic.Use
import Storekeeper.Cli
import Storekeeper.Proofs.Redaction.Characters
import Storekeeper.Proofs.Settings.SeedList

/-!
# The store that settings select

The parser of URLs reads the scheme in any letter case, and passes over spaces, controls and line
ends in front of it and within it, while the store is selected by the first characters as they
stand.  So the two agree on all settings that are accepted but those whose URL has the scheme
`memory` written in another way: these select a MongoDB deployment, no client of which reads their
URL, and the program ends when it connects.
-/

namespace Storekeeper

namespace Url

/-- What stands in front of the first colon of a text. -/
def front (text : String) : List Char := text.toList.takeWhile (· != ':')

/-- A text without capitals, spaces and controls. -/
def IsPlain (s : List Char) : Prop := ∀ c ∈ s, 32 < c.toNat ∧ c.isUpper = false

instance (s : List Char) : Decidable (IsPlain s) :=
  List.decidableBAll (fun c : Char => 32 < c.toNat ∧ c.isUpper = false) s

/-- A text without the spaces and controls in front of it and the tabs and line ends within it. -/
def cleanStart (s : List Char) : List Char :=
  (s.dropWhile fun c => c.toNat ≤ 32).filter fun c => !(c == '\t' || c == '\n' || c == '\r')

/-! ### The scheme of a URL -/

section

variable {text : String} {url : Url} {s rest : List Char} {c : Char}

theorem sublist_cleanStart (s : List Char) :
  (cleanStart s).Sublist s
  := List.filter_sublist.trans (List.dropWhile_sublist _)

theorem cleanStart_eq_self (h : IsPlain s) :
  cleanStart s = s
  := by
  have hdrop : s.dropWhile (fun c => c.toNat ≤ 32) = s := by
    cases s with
    | nil => rfl
    | cons c s =>
      apply List.dropWhile_cons_of_neg
      simpa using (h c List.mem_cons_self).1
  rw [cleanStart, hdrop]
  apply List.filter_eq_self.mpr
  intro c hc
  have hvisible := (h c hc).1
  simp only [Bool.not_eq_true', Bool.or_eq_false_iff, beq_eq_false_iff_ne]
  refine ⟨⟨?_, ?_⟩, ?_⟩
  all_goals
    rintro rfl
    exact absurd hvisible (by decide)

/-- What is taken off the start of a text ends where a character stays. -/
theorem dropWhile_append_stop {p : Char → Bool} (hc : p c = false) (s rest : List Char) :
  (s ++ c :: rest).dropWhile p = s.dropWhile p ++ c :: rest
  := by
  induction s with
  | nil => exact List.dropWhile_cons_of_neg (by simp [hc])
  | cons d s ih =>
    rw [List.cons_append, List.dropWhile_cons, List.dropWhile_cons, ih]
    split
    · rfl
    · rfl

/-- A colon stays when a text is cleaned. -/
theorem clean_append_colon (s rest : List Char) :
  ∃ rest', clean (s ++ ':' :: rest) = cleanStart s ++ ':' :: rest'
  := by
  have hcolon : decide (':'.toNat ≤ 32) = false := by decide
  dsimp only [clean]
  rw [dropWhile_append_stop hcolon, List.reverse_append, List.reverse_cons, List.append_assoc,
    List.singleton_append, dropWhile_append_stop hcolon, List.reverse_append, List.reverse_cons,
    List.reverse_reverse, List.append_assoc, List.singleton_append, List.filter_append,
    List.filter_cons_of_pos (by decide)]
  exact ⟨_, rfl⟩

theorem mem_of_mem_clean (h : c ∈ clean s) :
  c ∈ s
  := by
  have hdropped := List.mem_reverse.mp (List.mem_filter.mp h).1
  have hstart := List.mem_reverse.mp ((List.dropWhile_sublist _).subset hdropped)
  exact (List.dropWhile_sublist _).subset hstart

/-- A scheme is read up to the first colon. -/
theorem exists_of_readScheme? {scheme : String} (h : readScheme? s = some (scheme, rest)) :
  ∃ name, s = name ++ ':' :: rest ∧ (∀ c ∈ name, isSchemeChar c = true)
    ∧ scheme = String.ofList (name.map Char.toLower)
  := by
  cases s with
  | nil => cases h
  | cons c s =>
    simp only [readScheme?] at h
    split at h
    · split at h
      · next hdrop =>
        cases h
        use (c :: s).takeWhile isSchemeChar
        refine ⟨?_, fun c hc => List.mem_takeWhile_imp hc, rfl⟩
        rw [← hdrop, List.takeWhile_append_dropWhile]
      · cases h
    · cases h

theorem visible_of_isSchemeChar (h : isSchemeChar c = true) :
  32 < c.toNat ∧ c ≠ ':'
  := by
  simp only [isSchemeChar, Char.isAlphanum, Bool.or_eq_true, beq_iff_eq] at h
  rcases h with (((h | h) | rfl) | rfl) | rfl
  · have hletter := Text.toNat_of_isAlpha h
    refine ⟨by omega, ?_⟩
    rintro rfl
    cases h
  · have hrange := Text.toNat_of_isDigit h
    refine ⟨by omega, ?_⟩
    rintro rfl
    cases h
  all_goals decide

/-- The URL has the scheme that is read from the cleaned text. -/
theorem readScheme?_of_parse? (h : parse? text = some url) :
  ∃ rest, readScheme? (clean text.toList) = some (url.scheme, rest)
  := by
  obtain ⟨⟨scheme, rest⟩, hread, h⟩ := Option.bind_eq_some_iff.mp h
  suffices hscheme : url.scheme = scheme by
    use rest
    rw [hread, hscheme]
  have hauthority : ∀ family s, withAuthority scheme family s = some url → url.scheme = scheme := by
    intro family s hs
    obtain ⟨⟨authority, after⟩, -, hs⟩ := Option.bind_eq_some_iff.mp hs
    cases hs
    rfl
  dsimp only at h
  split at h
  · apply hauthority _ _ h
  · unfold ofFile at h
    split at h
    · split at h
      · dsimp only at h
        split at h
        · cases h
          rfl
        · obtain ⟨host, -, rfl⟩ := Option.map_eq_some_iff.mp h
          rfl
      · cases h
        rfl
    · cases h
      rfl
  · split at h
    · apply hauthority _ _ h
    · cases h
      rfl
    · cases h
      rfl

theorem front_eq (h : text.toList = s ++ ':' :: rest) (hs : ':' ∉ s) :
  front text = s
  := by
  rw [front, h]
  apply takeWhile_append_cons _ rfl
  intro c hc
  apply bne_iff_ne.mpr
  rintro rfl
  exact hs hc

/-- The scheme of a URL is what stands in front of the first colon, cleaned and in small letters. -/
theorem scheme_eq (h : parse? text = some url) :
  (∃ rest, text.toList = front text ++ ':' :: rest)
    ∧ (∀ c ∈ cleanStart (front text), isSchemeChar c = true)
    ∧ url.scheme.toList = (cleanStart (front text)).map Char.toLower
  := by
  obtain ⟨rest, hread⟩ := readScheme?_of_parse? h
  obtain ⟨name, hclean, hname, hscheme⟩ := exists_of_readScheme? hread
  have hcolon : ':' ∈ text.toList := by
    apply mem_of_mem_clean
    rw [hclean]
    simp
  obtain ⟨s, after, htext, hs⟩ := List.eq_append_cons_of_mem hcolon
  have hkeep : ∀ {s : List Char}, ':' ∉ s → ∀ c ∈ s, (c != ':') = true := by
    intro s hs c hc
    apply bne_iff_ne.mpr
    rintro rfl
    exact hs hc
  -- Both the text in front and the name end at the first colon of the cleaned text.
  have hcleaned : cleanStart s = name := by
    obtain ⟨rest', hrest'⟩ := clean_append_colon s after
    have hleft := takeWhile_append_cons
      (hkeep fun hmem => hs ((sublist_cleanStart s).subset hmem)) (bne_self_eq_false ':') rest'
    have hright := takeWhile_append_cons
      (hkeep fun hmem => (visible_of_isSchemeChar (hname _ hmem)).2 rfl) (bne_self_eq_false ':') rest
    rw [← hleft, ← hrest', ← htext, hclean, hright]
  rw [front_eq htext hs, hcleaned, hscheme, String.toList_ofList]
  exact ⟨⟨after, htext⟩, hname, rfl⟩

theorem toLower_eq_self_iff :
  c.toLower = c ↔ c.isUpper = false
  := by
  unfold Char.toLower
  split
  · next h =>
    have hupper : c.isUpper = true := decide_eq_true h
    have hne : c.val + ('a'.val - 'A'.val) ≠ c.val := by
      intro heq
      simp at heq
    constructor
    · intro heq
      exact absurd (congrArg Char.val heq) hne
    · intro hnot
      cases hnot.symm.trans hupper
  · next h =>
    constructor
    · intro _
      exact decide_eq_false h
    · intro _
      rfl

/-- The scheme is written as it is read exactly if it is written without capitals, and nothing is
passed over. -/
theorem front_eq_scheme_iff (h : parse? text = some url) :
  front text = url.scheme.toList ↔ IsPlain (front text)
  := by
  obtain ⟨-, hchars, hscheme⟩ := scheme_eq h
  rw [hscheme]
  constructor
  · intro heq
    have hclean : cleanStart (front text) = front text := by
      apply (sublist_cleanStart _).eq_of_length
      conv_rhs => rw [heq, List.length_map]
    rw [hclean] at heq hchars
    intro c hc
    constructor
    · exact (visible_of_isSchemeChar (hchars c hc)).1
    · apply toLower_eq_self_iff.mp
      exact List.map_inj_left.mp (heq.symm.trans (List.map_id _).symm) c hc
  · intro hplain
    rw [cleanStart_eq_self hplain]
    have hlower : (front text).map Char.toLower = (front text).map id := by
      apply List.map_congr_left
      intro c hc
      exact toLower_eq_self_iff.mpr (hplain c hc).2
    rw [hlower, List.map_id]

/-- A scheme that is written plainly is read as it is written. -/
theorem scheme_of_front (h : parse? text = some url) {scheme : String}
    (hfront : front text = scheme.toList) (hplain : IsPlain scheme.toList) :
  url.scheme = scheme
  := by
  apply String.toList_inj.mp
  rw [← hfront]
  symm
  apply (front_eq_scheme_iff h).mpr
  rw [hfront]
  exact hplain

end

end Url

/-! ### Connection strings -/

namespace Mongo

open Url

theorem ConnectionString.eq_append_of_splitScheme {s scheme rest : List Char}
    (h : splitScheme s = some (scheme, rest)) :
  s = scheme ++ ':' :: '/' :: '/' :: rest
  := by
  fun_induction splitScheme s generalizing scheme with
  | case1 rest' =>
    cases h
    rfl
  | case2 c s hne ih =>
    obtain ⟨⟨scheme', rest'⟩, hsplit, heq⟩ := Option.map_eq_some_iff.mp h
    cases heq
    rw [ih hsplit]
    rfl
  | case3 => cases h

/-- A text that is a URL of another scheme is no connection string. -/
theorem Client.connectError?_of_scheme {text : String} {url : Url} (h : parse? text = some url)
    (hscheme : url.scheme ≠ "mongodb" ∧ url.scheme ≠ "mongodb+srv") :
  ∃ reason, connectError? text = some (Fault.invalidArgument reason).toError
  := by
  suffices hparse : ∃ reason, ConnectionString.parse text = .error reason by
    obtain ⟨reason, hreason⟩ := hparse
    use reason
    rw [connectError?, hreason]
  rw [ConnectionString.parse, ConnectionString.parseChars]
  cases hsplit : ConnectionString.splitScheme text.toList with
  | none => exact ⟨_, rfl⟩
  | some parts =>
    obtain ⟨scheme, rest⟩ := parts
    have htext := ConnectionString.eq_append_of_splitScheme hsplit
    have hne : ∀ name : String, ':' ∉ name.toList → IsPlain name.toList → url.scheme ≠ name →
        scheme ≠ name.toList := by
      rintro name hcolon hplain hname rfl
      exact hname (scheme_of_front h (front_eq htext hcolon) hplain)
    have hfirst := hne "mongodb" (by decide) (by decide) hscheme.1
    have hsecond := hne "mongodb+srv" (by decide) (by decide) hscheme.2
    simp only [ConnectionString.parseScheme, hfirst, hsecond, if_false]
    exact ⟨_, rfl⟩

end Mongo

/-! ### The store -/

namespace Settings

/-- The store in memory is selected exactly by the URLs whose scheme is `memory`. -/
def SelectsByScheme (s : Settings) : Prop :=
  ∀ url, Url.parse? s.url = some url → (s.usesMemoryStore = true ↔ url.scheme = "memory")

/-- The store in memory is selected by URLs whose scheme is `memory` written plainly. -/
theorem usesMemoryStore_iff {s : Settings} {url : Url} (h : Url.parse? s.url = some url) :
  s.usesMemoryStore = true ↔ url.scheme = "memory" ∧ Url.IsPlain (Url.front s.url)
  := by
  have hcolon : ':' ∉ "memory".toList := by decide
  have hplain : Url.IsPlain "memory".toList := by decide
  rw [usesMemoryStore, List.isPrefixOf_iff_prefix]
  constructor
  · rintro ⟨rest, hrest⟩
    have hfront : Url.front s.url = "memory".toList := Url.front_eq hrest.symm hcolon
    constructor
    · exact Url.scheme_of_front h hfront hplain
    · rw [hfront]
      exact hplain
  · rintro ⟨hscheme, hfront⟩
    obtain ⟨⟨rest, hrest⟩, -⟩ := Url.scheme_eq h
    use rest
    rw [hrest, (Url.front_eq_scheme_iff h).mpr hfront, hscheme]
    rfl

/-- Settings that are accepted have a URL of a supported scheme. -/
theorem exists_url_of_validate {s : Settings} (h : s.validate = .ok ()) :
  ∃ url, Url.parse? s.url = some url ∧ url.scheme ∈ supportedSchemes
  := (validate_eq_ok_iff.mp h).1

end Settings

namespace Cli

/-- The program ends when it connects a MongoDB deployment whose connection string is none. -/
theorem startMongo_of_scheme {s : Settings} (h : s.validate = .ok ()) {url : Url}
    (hurl : Url.parse? s.url = some url)
    (hscheme : url.scheme ≠ "mongodb" ∧ url.scheme ≠ "mongodb+srv") :
  startMongo s = failed startContext (.connection 1)
  := by
  obtain ⟨reason, herror⟩ := Mongo.Client.connectError?_of_scheme hurl hscheme
  rw [startMongo, h]
  dsimp only
  rw [herror]
  rfl

end Cli

namespace Settings

/-- For settings that are accepted, the store in memory is selected exactly by the URLs of the scheme
`memory` unless this scheme is written with capitals, or with characters that the parser passes over.
So the program starts the store that the scheme names, or it was to start the store in memory and
ends when it connects. -/
theorem selectsByScheme_iff (s : Settings) (h : s.validate = .ok ()) :
  ∃ url, Url.parse? s.url = some url
    ∧ url.scheme ∈ supportedSchemes
    ∧ (s.SelectsByScheme ↔ (url.scheme = "memory" → Url.IsPlain (Url.front s.url)))
    ∧ (s.usesMemoryStore = true → url.scheme = "memory")
    ∧ ∀ get chance, ofLookup get = .ok s →
        (s.SelectsByScheme → Cli.run get chance
          = if url.scheme = "memory" then Cli.startMemory s chance else Cli.startMongo s)
        ∧ (¬ s.SelectsByScheme → Cli.run get chance = Cli.failed Cli.startContext (.connection 1))
  := by
  obtain ⟨url, hurl, hsupported⟩ := exists_url_of_validate h
  have hmemory := usesMemoryStore_iff hurl
  have hselects : s.SelectsByScheme ↔ (s.usesMemoryStore = true ↔ url.scheme = "memory") := by
    constructor
    · intro hs
      exact hs url hurl
    · intro hs url' hurl'
      cases hurl.symm.trans hurl'
      exact hs
  use url, hurl, hsupported
  refine ⟨?_, ?_, ?_⟩
  · rw [hselects, hmemory, and_iff_left_iff_imp]
  · intro hs
    exact (hmemory.mp hs).1
  · intro get chance hget
    constructor
    · intro hs
      simp only [Cli.run, hget, hselects.mp hs]
    · intro hs
      rw [hselects, hmemory, and_iff_left_iff_imp, Classical.not_imp] at hs
      obtain ⟨hscheme, hplain⟩ := hs
      have hnot : s.usesMemoryStore = false := by
        rw [← Bool.not_eq_true, hmemory]
        exact fun hs => hplain hs.2
      simp only [Cli.run, hget, hnot, Bool.false_eq_true, if_false]
      apply Cli.startMongo_of_scheme h hurl
      rw [hscheme]
      decide

theorem selectsByScheme_local :
  ({ url := "memory://local/app" } : Settings).validate = .ok ()
    ∧ ({ url := "memory://local/app" } : Settings).SelectsByScheme
  := by
  have h : ({ url := "memory://local/app" } : Settings).validate = .ok () := by decide
  use h
  obtain ⟨url, -, -, hiff, -⟩ := selectsByScheme_iff _ h
  apply hiff.mpr
  intro _
  decide

/-- The same URL with its scheme in capitals is accepted as well. -/
theorem not_forall_selectsByScheme :
  ¬ ∀ s : Settings, s.validate = .ok () → s.SelectsByScheme
  := by
  intro h
  have hselects := h { url := "MEMORY://local/app" } (by decide)
  have hurl : Url.parse? "MEMORY://local/app"
      = some ⟨"memory", some ⟨none, .name "local".toList, none⟩, "/app".toList⟩ := by decide
  have hmemory := (hselects _ hurl).mpr rfl
  revert hmemory
  decide

end Settings

end Storekeeper

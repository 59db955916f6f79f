import Mathlib.Data.List.Basic
import Mathlib.Data.List.TakeWhile
import Storekeeper.Text.Numeral
import Storekeeper.Url.Basic

/-!
# Reading URLs with an authority

What the parser of URLs makes of `mongodb://`, an authority with a host and a port, and a path of
one segment, as long as each part is made of characters that mean nothing to the parts around it:
the parts come out as they stand.  Behind the port of the first host the authority has to end, and
`readAuthority_host` says that it cannot be read if it does not.
-/

namespace Storekeeper

/-- A number is made of digits. -/
theorem Text.isDigit_of_readDigits {s : List Char} {n : Nat} (h : readDigits s = some n) :
  ∀ c ∈ s, c.isDigit = true
  := by
  unfold readDigits at h
  split at h
  · cases h
  · next hdigits =>
    rw [Bool.not_eq_true, Bool.or_eq_false_iff, Bool.not_eq_false', List.all_eq_true] at hdigits
    exact hdigits.2

namespace Url

section

variable {α : Type} {p : α → Bool} {s : List α} {c : α}

/-- A text is read up to the first character that ends it. -/
theorem takeWhile_append_cons (hs : ∀ a ∈ s, p a = true) (hc : p c = false) (rest : List α) :
  (s ++ c :: rest).takeWhile p = s
  := by
  rw [List.takeWhile_append_of_pos hs, List.takeWhile_cons_of_neg (by simp [hc]), List.append_nil]

theorem dropWhile_append_cons (hs : ∀ a ∈ s, p a = true) (hc : p c = false) (rest : List α) :
  (s ++ c :: rest).dropWhile p = c :: rest
  := by
  rw [List.dropWhile_append_of_pos hs, List.dropWhile_cons_of_neg (by simp [hc])]

end

/-- Nothing is coded in a text without characters that have to be. -/
theorem escape_eq_self {escapes : Char → Bool} {s : List Char} (h : ∀ c ∈ s, escapes c = false) :
  escape escapes s = s
  := by
  induction s with
  | nil => rfl
  | cons c s ih =>
    obtain ⟨hc, hs⟩ := List.forall_mem_cons.mp h
    rw [escape, List.flatMap_cons, if_neg (by simp [hc])]
    exact congrArg (c :: ·) (ih hs)

/-- Nothing is cleaned off a text of visible characters. -/
theorem clean_eq_self {s : List Char} (h : ∀ c ∈ s, 32 < c.toNat) :
  clean s = s
  := by
  have hdrop : ∀ s : List Char, (∀ c ∈ s, 32 < c.toNat) →
      s.dropWhile (fun c => decide (c.toNat ≤ 32)) = s := by
    intro s hs
    cases s with
    | nil => rfl
    | cons c s =>
      apply List.dropWhile_cons_of_neg
      have hc := hs c List.mem_cons_self
      simpa using hc
  have hreverse : ∀ c ∈ s.reverse, 32 < c.toNat := by simpa using h
  dsimp only [clean]
  rw [hdrop s h, hdrop s.reverse hreverse, List.reverse_reverse]
  apply List.filter_eq_self.mpr
  intro c hc
  have hvisible := h c hc
  simp only [Bool.not_eq_true', Bool.or_eq_false_iff, beq_eq_false_iff_ne]
  refine ⟨⟨?_, ?_⟩, ?_⟩
  all_goals
    rintro rfl
    exact absurd hvisible (by decide)

/-- Without an at sign nothing stands in front of the host. -/
theorem splitUserInfo_of_notMem {s : List Char} (h : '@' ∉ s) :
  splitUserInfo s = (none, s)
  := by
  have hkeep : ∀ c ∈ s.reverse, (c != '@') = true := by
    intro c hc
    apply bne_iff_ne.mpr
    rintro rfl
    exact h (List.mem_reverse.mp hc)
  have hcontains : s.contains '@' = false := by simpa using h
  unfold splitUserInfo
  rw [List.takeWhile_eq_self_iff.mpr hkeep, List.reverse_reverse, hcontains]
  rfl

/-- What stands in front of the host is the text before the last at sign. -/
theorem splitUserInfo_append {s : List Char} (h : '@' ∉ s) (before : List Char) :
  splitUserInfo (before ++ '@' :: s) = (some before, s)
  := by
  have hkeep : ∀ c ∈ s.reverse, (c != '@') = true := by
    intro c hc
    apply bne_iff_ne.mpr
    rintro rfl
    exact h (List.mem_reverse.mp hc)
  have hhost : (before ++ '@' :: s).reverse.takeWhile (· != '@') = s.reverse := by
    rw [List.reverse_append, List.reverse_cons, List.append_assoc]
    apply takeWhile_append_cons hkeep rfl
  have hcontains : (before ++ '@' :: s).contains '@' = true := by simp
  have hlength : (before ++ '@' :: s).length - s.length - 1 = before.length := by
    simp only [List.length_append, List.length_cons]
    omega
  unfold splitUserInfo
  rw [hhost, List.reverse_reverse, hcontains, if_pos rfl, hlength, List.take_left']
  rfl

/-- A host ends at the first colon. -/
theorem splitHost_append {host : List Char} (h : ∀ c ∈ host, c ≠ ':' ∧ c ≠ '[') (rest : List Char) :
  splitHost false (host ++ ':' :: rest) = (host, ':' :: rest)
  := by
  induction host with
  | nil => rfl
  | cons c host ih =>
    obtain ⟨⟨hcolon, hbracket⟩, hhost⟩ := List.forall_mem_cons.mp h
    rw [List.cons_append, splitHost, if_neg (by simp [hcolon]), if_neg (by simp [hbracket]),
      ite_self, ih hhost]

/-- The text behind a colon is a port with nothing behind it, or cannot be read. -/
theorem readPort_append {port : List Char} {n : Nat} (h : Text.readDigits port = some n)
    (hn : n ≤ 65535) {rest : List Char}
    (hrest : ∀ c ∈ rest.head?, c.isDigit = false ∧ c ≠ '\\') :
  readPort (':' :: (port ++ rest)) = if rest.isEmpty then some (some n, []) else none
  := by
  have hdigits := Text.isDigit_of_readDigits h
  unfold Text.readDigits at h
  split at h
  · cases h
  · next hport =>
    rw [Bool.not_eq_true, Bool.or_eq_false_iff] at hport
    have hne : port.isEmpty = false := hport.1
    have hvalue : port.foldl (fun n d => 10 * n + (d.toNat - 48)) 0 = n := Option.some.inj h
    have htake : (port ++ rest).takeWhile Char.isDigit = port := by
      cases rest with
      | nil => rw [List.append_nil, List.takeWhile_eq_self_iff.mpr hdigits]
      | cons c rest => apply takeWhile_append_cons hdigits (hrest c rfl).1
    have hdrop : (port ++ rest).dropWhile Char.isDigit = rest := by
      cases rest with
      | nil => rw [List.append_nil, List.dropWhile_eq_nil_iff.mpr hdigits]
      | cons c rest => apply dropWhile_append_cons hdigits (hrest c rfl).1
    simp only [readPort, htake, hdrop, hvalue, if_neg (Nat.not_lt.mpr hn), hne]
    cases rest with
    | nil => rfl
    | cons c rest =>
      apply if_neg
      simp [(hrest c rfl).2]

theorem addSegments_of_notMem {isSlash : Char → Bool} {s : List Char}
    (h : ∀ c ∈ s, isSlash c = false) (path segment : List Char) :
  addSegments isSlash path segment s
    = addSegment path (escape pathEscapes (segment.reverse ++ s)) false
  := by
  induction s generalizing segment with
  | nil => rw [addSegments, List.append_nil]
  | cons c s ih =>
    obtain ⟨hc, hs⟩ := List.forall_mem_cons.mp h
    rw [addSegments, if_neg (by simp [hc]), ih hs, List.reverse_cons, List.append_assoc,
      List.singleton_append]

/-- A segment without dots in which no character is coded, not even before it is read. -/
theorem readPath_segment {isSlash : Char → Bool} {s : List Char}
    (hslash : ∀ c ∈ s, isSlash c = false) (hescapes : ∀ c ∈ s, pathEscapes c = false)
    (hdots : ∀ c ∈ s, c ≠ '.' ∧ c ≠ '%') :
  readPath isSlash ['/'] s = '/' :: s
  := by
  have hsingle : isSingleDot s = false := by
    cases s with
    | nil => rfl
    | cons c s =>
      have hc := hdots c List.mem_cons_self
      simp [isSingleDot, hc.1, hc.2]
  have hdouble : isDoubleDot s = false := by
    cases s with
    | nil => rfl
    | cons c s =>
      have hc := hdots c List.mem_cons_self
      simp [isDoubleDot, hc.1, hc.2]
  rw [readPath, addSegments_of_notMem hslash, List.reverse_nil, List.nil_append,
    escape_eq_self hescapes, addSegment, hdouble, hsingle]
  simp

/-! ### URLs with a host and a port -/

/-- A name without delimiters and without characters that have to be coded is a host. -/
theorem Host.ofOpaque?_eq_some {s : List Char}
    (h : ∀ c ∈ s, isDelimiter c = false ∧ opaqueEscapes c = false) :
  Host.ofOpaque? s = some (.name s)
  := by
  have hbracket : (s.head? == some '[') = false := by
    cases s with
    | nil => rfl
    | cons c s =>
      have hc := (h c List.mem_cons_self).1
      simp only [List.head?_cons]
      apply beq_eq_false_iff_ne.mpr
      rintro ⟨⟩
      cases hc
  have hdelimiter : s.any isDelimiter = false := by
    apply List.any_eq_false.mpr
    intro c hc
    simp [(h c hc).1]
  rw [Host.ofOpaque?, hbracket, hdelimiter, escape_eq_self fun c hc => (h c hc).2]
  rfl

variable {host port rest : List Char} {n : Nat}

/-- Behind the first host and its port nothing may follow. -/
theorem readAuthority_host {s : List Char} {userInfo : Option (List Char)}
    (hs : splitUserInfo s = (userInfo, host ++ ':' :: (port ++ rest))) (hne : host ≠ [])
    (hhost : ∀ c ∈ host, isDelimiter c = false ∧ opaqueEscapes c = false)
    (hport : Text.readDigits port = some n) (hn : n ≤ 65535)
    (hrest : ∀ c ∈ rest.head?, c.isDigit = false ∧ c ≠ '\\') (last : Bool) :
  readAuthority .other last s
    = if rest.isEmpty then some (⟨userInfo, .name host, some n⟩, []) else none
  := by
  have hsplit : splitHost false (host ++ ':' :: (port ++ rest))
      = (host, ':' :: (port ++ rest)) := by
    apply splitHost_append
    intro c hc
    have hdelimiter := (hhost c hc).1
    constructor
    · rintro rfl
      cases hdelimiter
    · rintro rfl
      cases hdelimiter
  have hname : Host.name host ≠ .name [] := by simpa using hne
  have hfull : (host ++ ':' :: (port ++ rest)).isEmpty = false := by simp
  have hfamily : Family.other ≠ .web := by decide
  simp only [readAuthority, hs, hsplit, Host.ofOpaque?_eq_some hhost,
    readPort_append hport hn hrest, hfull, hfamily, hname, Bool.false_eq_true, false_and, and_false,
    if_false, Option.bind_eq_bind, Option.bind_some]
  cases rest.isEmpty with
  | true => rfl
  | false => rfl

/-- The authority ends at the first slash. -/
theorem withAuthority_append {authority : List Char}
    (h : ∀ c ∈ authority, Family.other.endsAuthority c = false) (scheme : String)
    (tail : List Char) :
  withAuthority scheme .other (authority ++ '/' :: tail)
    = (readAuthority .other false authority).map fun r =>
        ⟨scheme, some r.1, pathAfterAuthority .other (r.2 ++ '/' :: tail)⟩
  := by
  have hends : ∀ c ∈ authority, (!Family.other.endsAuthority c) = true := by
    intro c hc
    rw [h c hc]
    rfl
  have hslash : (!Family.other.endsAuthority '/') = false := by decide
  simp only [withAuthority, takeWhile_append_cons hends hslash, dropWhile_append_cons hends hslash,
    List.isEmpty_cons]
  cases readAuthority .other false authority with
  | none => rfl
  | some r => rfl

/-- A database is read as the path, with options or without. -/
theorem pathAfterAuthority_segment {s : List Char} (hplain : ∀ c ∈ s,
    c ≠ '/' ∧ c ≠ '.' ∧ c ≠ '%' ∧ c ≠ '?' ∧ c ≠ '#' ∧ pathEscapes c = false) {tail : List Char}
    (htail : ∀ c ∈ tail.head?, c = '?') :
  pathAfterAuthority .other ('/' :: (s ++ tail)) = '/' :: s
  := by
  have hkeep : ∀ c ∈ '/' :: s, (c != '?' && c != '#') = true := by
    intro c hc
    rcases List.mem_cons.mp hc with rfl | hc
    · decide
    · simp [(hplain c hc).2.2.2.1, (hplain c hc).2.2.2.2.1]
  have hbefore : beforeQuery ('/' :: (s ++ tail)) = '/' :: s := by
    rw [beforeQuery, ← List.cons_append]
    cases tail with
    | nil => rw [List.append_nil, List.takeWhile_eq_self_iff.mpr hkeep]
    | cons c tail =>
      obtain rfl : c = '?' := htail c rfl
      apply takeWhile_append_cons hkeep
      decide
  have hslash : Family.other.isSlash '/' = true := by decide
  simp only [pathAfterAuthority, hbefore, hslash, if_true]
  apply readPath_segment
  · intro c hc
    simp [Family.isSlash, (hplain c hc).1]
  · intro c hc
    exact (hplain c hc).2.2.2.2.2
  · intro c hc
    exact ⟨(hplain c hc).2.1, (hplain c hc).2.2.1⟩

theorem parse?_mongodb {s : List Char} (h : ∀ c ∈ s, 32 < c.toNat) :
  parse? (String.ofList ("mongodb://".toList ++ s)) = withAuthority "mongodb" .other s
  := by
  have hclean : clean ("mongodb://".toList ++ s) = "mongodb://".toList ++ s := by
    apply clean_eq_self
    intro c hc
    rcases List.mem_append.mp hc with hc | hc
    · have hvisible : ("mongodb://".toList.all fun c => 32 < c.toNat) = true := by decide
      exact of_decide_eq_true (List.all_eq_true.mp hvisible c hc)
    · exact h c hc
  rw [parse?, String.toList_ofList, hclean]
  rfl

end Url

end Storekeeper

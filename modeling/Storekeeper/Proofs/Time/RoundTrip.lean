import Mathlib.Algebra.GroupWithZero.Nat
import Mathlib.Tactic.ByContra
import Storekeeper.Proofs.Text.Spelling
import Storekeeper.Time.Reading

/-!
# Instants written and read back

An instant is written as a row of numbers with a mark between each two of them.  Each number has the
width that is read of it, or ends before a character that is no digit, so it is read back as it was
and what follows is left; the same holds for the year, the fraction of the second and the leap
second.  `readInstant_chars` puts them together: what is written of an instant is read as that
instant.
-/

namespace Storekeeper

open Instant (padded yearText fractionText)

namespace Time

/-! ### The parts of a date -/

theorem monthLength_le (y : Int) (month : Nat) :
  monthLength y month ≤ 31
  := by
  unfold monthLength
  split
  · exact Nat.zero_le 31
  · cases hlength : (monthLengths y)[month - 1]? with
    | none => exact Nat.zero_le 31
    | some length =>
      have hmem := List.mem_of_getElem? hlength
      simp only [monthLengths, List.mem_cons, List.not_mem_nil, or_false] at hmem
      rw [Option.getD_some]
      split at hmem <;> omega

/-- There are twelve months. -/
theorem monthLength_of_lt (y : Int) {month : Nat} (h : 12 < month) :
  monthLength y month = 0
  := by
  have hbeyond : (monthLengths y).length ≤ month - 1 := by
    simp only [monthLengths, List.length_cons, List.length_nil]
    omega
  rw [monthLength_of_pos y (by omega), List.getElem?_eq_none hbeyond]
  rfl

theorem Date.month_mem {d : Date} (h : d.isValid = true) :
  1 ≤ d.month ∧ d.month ≤ 12
  := by
  rw [isValid_iff] at h
  constructor
  · by_contra hnone
    have hzero : monthLength d.year d.month = 0 := if_pos (by omega)
    omega
  · by_contra hbeyond
    have hzero := monthLength_of_lt d.year (Nat.lt_of_not_le hbeyond)
    omega

theorem Date.day_mem {d : Date} (h : d.isValid = true) :
  1 ≤ d.day ∧ d.day ≤ 31
  := by
  rw [isValid_iff] at h
  have hlength := monthLength_le d.year d.month
  omega

/-- The years of instants have few digits. -/
theorem natAbs_year_lt (t : Instant) :
  (Date.ofDay t.day).year.natAbs < Nat.pow 2 31
  := by
  have hday := t.day_mem
  have hfirst : firstDay = -96465292 := by decide
  have hlast : lastDay = 95026236 := by decide
  have hepoch : epoch = 719528 := rfl
  have hyear : (Date.ofDay t.day).year = yearOf (t.day + epoch) := rfl
  have hbounds := daysBeforeYear_yearOf (t.day + epoch)
  have hnear := daysBeforeYear_near (yearOf (t.day + epoch))
  have hnext := daysBeforeYear_near (yearOf (t.day + epoch) + 1)
  have hpow : Nat.pow 2 31 = 2147483648 := by decide
  omega

/-! ### Numbers -/

variable {rest : List Char} {n : Nat}

/-- What follows does not go on with a number. -/
def EndsNumber (rest : List Char) : Prop := ∀ c ∈ rest.head?, c.isDigit = false

theorem endsNumber_cons {c : Char} (h : c.isDigit = false) (rest : List Char) :
  EndsNumber (c :: rest)
  := by
  intro c' hc'
  rw [List.head?_cons, Option.mem_some_iff] at hc'
  rwa [← hc']

theorem EndsNumber.takeWhile (h : EndsNumber rest) :
  rest.takeWhile Char.isDigit = []
  := by
  cases rest with
  | nil => rfl
  | cons c rest => rw [List.takeWhile_cons, h c rfl, if_neg Bool.false_ne_true]

theorem EndsNumber.dropWhile (h : EndsNumber rest) :
  rest.dropWhile Char.isDigit = rest
  := by
  cases rest with
  | nil => rfl
  | cons c rest => rw [List.dropWhile_cons, h c rfl, if_neg Bool.false_ne_true]

theorem isDigit_of_mem_padded {width : Nat} {c : Char} (h : c ∈ padded width n) :
  c.isDigit = true
  := Text.isDigit_of_mem_numeral h

theorem exists_padded_eq_cons (width n : Nat) :
  ∃ c ds, padded width n = c :: ds ∧ c.isDigit = true
  := by
  have hne : padded width n ≠ [] :=
    List.append_ne_nil_of_right_ne_nil _ Nat.toDigits_ne_nil
  obtain ⟨c, ds, hds⟩ := List.exists_cons_of_ne_nil hne
  have hmem : c ∈ padded width n := hds ▸ List.mem_cons_self
  exact ⟨c, ds, hds, isDigit_of_mem_padded hmem⟩

theorem length_padded {width : Nat} (hpos : 0 < width) (h : n < 10 ^ width) :
  (padded width n).length = width
  := by
  have hlength := (Nat.length_toDigits_le_iff (by decide) hpos).mpr h
  simp only [padded, List.length_append, List.length_replicate]
  omega

/-- A number is read back if it is no longer than what may be read. -/
theorem readDigits_padded {width : Nat} {limit : Option Nat}
    (hlimit : ∀ w ∈ limit, (padded width n).length ≤ w) (hrest : EndsNumber rest) :
  readDigits limit (padded width n ++ rest) = .ok (n, rest)
  := by
  have hall : (padded width n ++ rest).takeWhile Char.isDigit = padded width n := by
    rw [List.takeWhile_append_of_pos fun c hc => isDigit_of_mem_padded hc, hrest.takeWhile,
      List.append_nil]
  have hvalue : Text.digitsValue 0 (padded width n) = n := Text.digitsValue_numeral _ n
  obtain ⟨c, ds, hds, hc⟩ := exists_padded_eq_cons width n
  rw [hds] at hall hvalue hlimit ⊢
  rw [List.cons_append] at hall ⊢
  cases limit with
  | none =>
    simp only [readDigits, hc, if_true, hall, hvalue]
    rw [← List.cons_append, List.drop_left]
  | some w =>
    simp only [readDigits, hc, if_true, hall, List.take_of_length_le (hlimit w rfl), hvalue]
    rw [← List.cons_append, List.drop_left]

theorem readDigits_none (width : Nat) (hrest : EndsNumber rest) :
  readDigits none (padded width n ++ rest) = .ok (n, rest)
  := readDigits_padded (fun _ hw => nomatch hw) hrest

theorem readDigits_some {width limit : Nat} (hpos : 0 < width) (hn : n < 10 ^ width)
    (hlimit : width ≤ limit) (hrest : EndsNumber rest) :
  readDigits (some limit) (padded width n ++ rest) = .ok (n, rest)
  := by
  apply readDigits_padded _ hrest
  intro w hw
  rwa [← Option.mem_some_iff.mp hw, length_padded hpos hn]

/-- Nothing is trimmed off a text without a blank in front. -/
theorem trimStart_cons {c : Char} (h : Text.isBlank c = false) (s : List Char) :
  Text.trimStart (c :: s) = c :: s
  := by
  rw [Text.trimStart, List.dropWhile_cons, h, if_neg Bool.false_ne_true]

theorem trimStart_padded (width n : Nat) (rest : List Char) :
  Text.trimStart (padded width n ++ rest) = padded width n ++ rest
  := by
  obtain ⟨c, ds, hds, hc⟩ := exists_padded_eq_cons width n
  rw [hds, List.cons_append, trimStart_cons (Text.not_isBlank_of_isDigit hc)]

/-- A number of two digits is read back if it is among those that are allowed. -/
theorem readPart_padded {least greatest : Nat} (hn : least ≤ n ∧ n ≤ greatest)
    (hgreatest : greatest < 100) (hrest : EndsNumber rest) :
  readPart least greatest (padded 2 n ++ rest) = .ok (n, rest)
  := by
  rw [readPart, trimStart_padded, readDigits_some (by decide) (by omega) (Nat.le_refl 2) hrest]
  exact if_pos hn

theorem readMark_cons (mark : Char) (h : Text.isBlank mark = false) (rest : List Char) :
  readMark mark (mark :: rest) = .ok ((), rest)
  := by
  simp [readMark, trimStart_cons h]

/-! ### Dates -/

theorem readYear_yearText {y : Int} (hy : y.natAbs < Nat.pow 2 31) (hrest : EndsNumber rest) :
  readYear (yearText y ++ rest) = .ok (y, rest)
  := by
  unfold yearText
  split
  · next hplain =>
    have hdigit : ∀ c s, padded 4 y.toNat ++ rest = c :: s → c.isDigit = true := by
      intro c s hcons
      obtain ⟨c', ds, hds, hc'⟩ := exists_padded_eq_cons 4 y.toNat
      rw [hds] at hcons
      cases hcons
      exact hc'
    have hread : readDigits (some 4) (padded 4 y.toNat ++ rest) = .ok (y.toNat, rest) :=
      readDigits_some (by decide) (by omega) (Nat.le_refl 4) hrest
    have hyear : (y.toNat : Int) = y := Int.toNat_of_nonneg hplain.1
    unfold readYear
    rw [trimStart_padded]
    -- a sign is no digit, so the first two ways to read on are not taken
    split
    · next hsign => cases hdigit _ _ hsign
    · next hsign => cases hdigit _ _ hsign
    · rw [hread, ← hyear]
      rfl
  · have hread : readDigits none (padded 4 y.natAbs ++ rest) = .ok (y.natAbs, rest) :=
      readDigits_none 4 hrest
    split
    · next hneg =>
      have hyear : -(y.natAbs : Int) = y := by omega
      rw [List.cons_append, readYear, trimStart_cons (by decide)]
      simp only [hread, bind, Except.bind, if_pos hy, hyear]
      rfl
    · next hpos =>
      have hyear : (y.natAbs : Int) = y := by omega
      rw [List.cons_append, readYear, trimStart_cons (by decide)]
      simp only [hread, bind, Except.bind, if_pos hy, hyear]
      rfl

/-- A date that exists is read back. -/
theorem readDate_text {d : Date} (hvalid : d.isValid = true) (hyear : d.year.natAbs < Nat.pow 2 31)
    (hrest : EndsNumber rest) :
  readDate (yearText d.year ++ '-' :: (padded 2 d.month ++ '-' :: (padded 2 d.day ++ rest)))
    = .ok (d, rest)
  := by
  have hmonth := Date.month_mem hvalid
  have hday := Date.day_mem hvalid
  have hmark : ∀ s, EndsNumber ('-' :: s) := fun s => endsNumber_cons (by decide) s
  simp only [readDate, readYear_yearText hyear (hmark _), readMark_cons '-' (by decide),
    readPart_padded hmonth (by decide) (hmark _), readPart_padded hday (by decide) hrest, bind,
    Except.bind]
  rfl

/-! ### Times -/

theorem readFraction_padded {width : Nat} (hpos : 0 < width) (hwidth : width ≤ 9)
    (hn : n < 10 ^ width) (hrest : EndsNumber rest) :
  readFraction ('.' :: (padded width n ++ rest)) = .ok (n * Nat.pow 10 (9 - width), rest)
  := by
  have hdigits : (padded width n ++ rest).length - rest.length = width := by
    rw [List.length_append, length_padded hpos hn, Nat.add_sub_cancel]
  simp only [readFraction, readDigits_some hpos hn hwidth hrest, bind, Except.bind, hdigits,
    hrest.dropWhile]
  rfl

theorem readFraction_of_ne {c : Char} (hc : c ≠ '.') (rest : List Char) :
  readFraction (c :: rest) = .ok (0, c :: rest)
  := by
  unfold readFraction
  split
  · next hdot => exact absurd (List.head_eq_of_cons_eq hdot) hc
  · rfl

/-- A fraction is read back, in however many groups of digits it is written. -/
theorem readFraction_fractionText {nano : Nat} (h : nano < 1000000000) {c : Char}
    (hc : c.isDigit = false) (hdot : c ≠ '.') (rest : List Char) :
  readFraction (fractionText nano ++ c :: rest) = .ok (nano, c :: rest)
  := by
  have hrest := endsNumber_cons hc rest
  unfold fractionText
  split
  · next hzero =>
    rw [hzero]
    exact readFraction_of_ne hdot rest
  · split
    · next hmillis =>
      have hvalue : nano / 1000000 * Nat.pow 10 (9 - 3) = nano :=
        Nat.div_mul_cancel (Nat.dvd_of_mod_eq_zero hmillis)
      rw [List.cons_append, readFraction_padded (by decide) (by decide) (by omega) hrest, hvalue]
    · split
      · next hmicros =>
        have hvalue : nano / 1000 * Nat.pow 10 (9 - 6) = nano :=
          Nat.div_mul_cancel (Nat.dvd_of_mod_eq_zero hmicros)
        rw [List.cons_append, readFraction_padded (by decide) (by decide) (by omega) hrest, hvalue]
      · have hvalue : nano * Nat.pow 10 (9 - 9) = nano := Nat.mul_one nano
        rw [List.cons_append, readFraction_padded (by decide) (by decide) (by omega) hrest, hvalue]

theorem endsNumber_fractionText {c : Char} (hc : c.isDigit = false) (nano : Nat)
    (rest : List Char) :
  EndsNumber (fractionText nano ++ c :: rest)
  := by
  unfold fractionText
  split
  · exact endsNumber_cons hc rest
  · split
    · exact endsNumber_cons (by decide) _
    · split
      · exact endsNumber_cons (by decide) _
      · exact endsNumber_cons (by decide) _

/-- The time of an instant is read back, the leap second as the sixtieth second. -/
theorem readTime_text (t : Instant) {c : Char} (hc : c.isDigit = false) (hdot : c ≠ '.')
    (hblank : Text.isBlank c = false) (rest : List Char) :
  readTime (padded 2 (t.second / 3600) ++ ':' :: (padded 2 (t.second / 60 % 60)
      ++ ':' :: (padded 2 (t.second % 60 + t.nano / 1000000000)
        ++ (fractionText (t.nano % 1000000000) ++ c :: rest))))
    = .ok ((t.second, t.nano), c :: rest)
  := by
  have hday := t.second_lt
  have hnano := t.nano_lt
  have hhour : 0 ≤ t.second / 3600 ∧ t.second / 3600 ≤ 23 := by omega
  have hminute : 0 ≤ t.second / 60 % 60 ∧ t.second / 60 % 60 ≤ 59 := by omega
  have hsecond : 0 ≤ t.second % 60 + t.nano / 1000000000
      ∧ t.second % 60 + t.nano / 1000000000 ≤ 60 := by omega
  have hmark : ∀ s, EndsNumber (':' :: s) := fun s => endsNumber_cons (by decide) s
  have hfraction : t.nano % 1000000000 < 1000000000 := by omega
  simp only [readTime, readPart_padded hhour (by decide) (hmark _),
    readPart_padded hminute (by decide) (hmark _),
    readPart_padded hsecond (by decide) (endsNumber_fractionText hc _ rest),
    readMark_cons ':' (by decide), readFraction_fractionText hfraction hc hdot rest,
    trimStart_cons hblank, bind, Except.bind]
  split
  · next hleap =>
    have hstart : t.second / 3600 * 3600 + t.second / 60 % 60 * 60 + 59 = t.second := by omega
    have hwhole : t.nano % 1000000000 + 1000000000 = t.nano := by omega
    rw [hstart, hwhole]
    rfl
  · next hplain =>
    have hstart : t.second / 3600 * 3600 + t.second / 60 % 60 * 60
        + (t.second % 60 + t.nano / 1000000000) = t.second := by omega
    have hwhole : t.nano % 1000000000 = t.nano := by omega
    rw [hstart, hwhole]
    rfl

/-! ### Instants -/

/-- What is written of an instant is read as that instant. -/
theorem readInstant_chars (t : Instant) :
  readInstant t.chars = .ok t
  := by
  have hvalid := isValid_ofDay t.day
  have hsecond := t.second_lt
  have hmark : ∀ s, EndsNumber ('T' :: s) := fun s => endsNumber_cons (by decide) s
  have hdate := fun s => readDate_text hvalid (natAbs_year_lt t) (hmark s)
  have hseparator : ∀ s, readSeparator ('T' :: s) = .ok ((), s) := fun _ => rfl
  have htime := readTime_text t (c := 'Z') (by decide) (by decide) (by decide) []
  have hoffset : readOffset ['Z'] = .ok (0, []) := by decide
  have hchars : t.chars = yearText (Date.ofDay t.day).year ++ '-' ::
      (padded 2 (Date.ofDay t.day).month ++ '-' :: (padded 2 (Date.ofDay t.day).day ++ 'T' ::
        (padded 2 (t.second / 3600) ++ ':' :: (padded 2 (t.second / 60 % 60)
          ++ ':' :: (padded 2 (t.second % 60 + t.nano / 1000000000)
            ++ (fractionText (t.nano % 1000000000) ++ ['Z'])))))) := by
    simp only [Instant.chars, List.append_assoc, List.cons_append]
  have hfirst : decide (t.day < firstDay) = false := decide_eq_false (Int.not_lt.mpr t.day_mem.1)
  have hlast : decide (lastDay < t.day) = false := decide_eq_false (Int.not_lt.mpr t.day_mem.2)
  have hwhole : (t.second : Int) / 86400 = 0 := by omega
  have hutc : ((t.second : Int) % 86400).toNat = t.second := by omega
  rw [hchars, readInstant]
  simp only [hdate, hseparator, htime, hoffset, hvalid, dayNumber_ofDay, hfirst, hlast,
    Int.sub_zero, hwhole, Int.add_zero, hutc, Instant.ofParts?_self, bind, Except.bind]
  rfl

end Time

end Storekeeper

/-!
# The calendar

Days are counted from the first of January 1970, and years run on without end in both
directions, with a leap year every fourth year except for the centuries that are no multiple
of 400.  `dayNumber` counts the days up to a date and `Date.ofDay` is the date of a day;
`dayNumber_ofDay` says that they agree and `isValid_ofDay` that the date exists.
-/

namespace Storekeeper.Time

/-- A date. -/
structure Date where
  year : Int
  month : Nat
  day : Nat
deriving DecidableEq, Repr

/-- Whether a year has 366 days. -/
def isLeapYear (y : Int) : Bool := y % 4 == 0 && (y % 100 != 0 || y % 400 == 0)

/-- The number of days from the first of January of the year 0 to that of the year `y`. -/
def daysBeforeYear (y : Int) : Int := 365 * y + (y + 3) / 4 - (y + 99) / 100 + (y + 399) / 400

/-- The lengths of the months of a year. -/
def monthLengths (y : Int) : List Nat :=
  [31, if isLeapYear y then 29 else 28, 31, 30, 31, 30, 31, 31, 30, 31, 30, 31]

/-- The length of a month, which is zero for a number that is no month. -/
def monthLength (y : Int) (month : Nat) : Nat :=
  if month = 0 then 0 else ((monthLengths y)[month - 1]?).getD 0

/-- The sum of some lengths. -/
def total : List Nat → Nat
  | [] => 0
  | length :: rest => length + total rest

/-- The number of days of the year before a month. -/
def daysBeforeMonth (y : Int) (month : Nat) : Nat := total ((monthLengths y).take (month - 1))

/-- The days from the first of January of the year 0 to that of 1970. -/
def epoch : Int := 719528

/-- The number of a date's day. -/
def dayNumber (d : Date) : Int :=
  daysBeforeYear d.year - epoch + daysBeforeMonth d.year d.month + (d.day : Int) - 1

/-- Whether a date exists. -/
def Date.isValid (d : Date) : Bool := 1 ≤ d.day && d.day ≤ monthLength d.year d.month

/-- The year of the day that is `n` days after the first of January of the year 0. -/
def yearOf (n : Int) : Int :=
  let y := n * 400 / 146097
  if n < daysBeforeYear y then y - 1 else if daysBeforeYear (y + 1) ≤ n then y + 1 else y

/-- The month and the day of the month of a day of the year, given the lengths of the months from
`month` on. -/
def splitDays (month : Nat) : List Nat → Nat → Nat × Nat
  | [], n => (month, n + 1)
  | length :: rest, n =>
    if n < length then (month, n + 1) else splitDays (month + 1) rest (n - length)

/-- The date of a day. -/
def Date.ofDay (n : Int) : Date :=
  let n := n + epoch
  let y := yearOf n
  let (month, day) := splitDays 1 (monthLengths y) (n - daysBeforeYear y).toNat
  ⟨y, month, day⟩

/-! ### Days and dates agree -/

/-- A year has 146097 / 400 days on average. -/
theorem daysBeforeYear_near (y : Int) :
  146097 * y - 396 ≤ 400 * daysBeforeYear y ∧ 400 * daysBeforeYear y ≤ 146097 * y + 699
  := by
  unfold daysBeforeYear
  omega

theorem daysBeforeYear_yearOf (n : Int) :
  daysBeforeYear (yearOf n) ≤ n ∧ n < daysBeforeYear (yearOf n + 1)
  := by
  have hprev := daysBeforeYear_near (n * 400 / 146097 - 1)
  have hnext := daysBeforeYear_near (n * 400 / 146097 + 1 + 1)
  by_cases h₁ : n < daysBeforeYear (n * 400 / 146097)
  · rw [show yearOf n = n * 400 / 146097 - 1 by simp only [yearOf, h₁, ↓reduceIte],
      Int.sub_add_cancel]
    omega
  · by_cases h₂ : daysBeforeYear (n * 400 / 146097 + 1) ≤ n
    · rw [show yearOf n = n * 400 / 146097 + 1 by simp only [yearOf, h₁, h₂, ↓reduceIte]]
      omega
    · rw [show yearOf n = n * 400 / 146097 by simp only [yearOf, h₁, h₂, ↓reduceIte]]
      omega

theorem total_monthLengths (y : Int) :
  (total (monthLengths y) : Int) = daysBeforeYear (y + 1) - daysBeforeYear y
  := by
  by_cases h : isLeapYear y <;> simp [monthLengths, total, h, daysBeforeYear] <;>
    simp [isLeapYear] at h <;> omega

/-- The days before the month and the day of the month make up the day of the year. -/
theorem total_take_splitDays {lengths : List Nat} {n : Nat} (month : Nat) (h : n < total lengths) :
  month ≤ (splitDays month lengths n).1
    ∧ total (lengths.take ((splitDays month lengths n).1 - month)) + (splitDays month lengths n).2
      = n + 1
  := by
  induction lengths generalizing month n with
  | nil => cases h
  | cons length rest ih =>
    rw [splitDays]
    split
    · simp [total]
    · have h' : n - length < total rest := by
        rw [total] at h
        omega
      obtain ⟨h₁, h₂⟩ := ih (month + 1) h'
      refine ⟨by omega, ?_⟩
      have hm : (splitDays (month + 1) rest (n - length)).1 - month
          = (splitDays (month + 1) rest (n - length)).1 - (month + 1) + 1 := by omega
      rw [hm, List.take_succ_cons, total]
      omega

/-- The month that is found has the day that is found. -/
theorem splitDays_mem {lengths : List Nat} {n : Nat} (month : Nat) (h : n < total lengths) :
  1 ≤ (splitDays month lengths n).2
    ∧ (splitDays month lengths n).2 ≤ (lengths[(splitDays month lengths n).1 - month]?).getD 0
  := by
  induction lengths generalizing month n with
  | nil => cases h
  | cons length rest ih =>
    rw [splitDays]
    split
    · next hlt =>
      rw [Nat.sub_self]
      exact ⟨Nat.succ_pos n, hlt⟩
    · have h' : n - length < total rest := by
        rw [total] at h
        omega
      have hlater := (total_take_splitDays (month + 1) h').1
      have hm : (splitDays (month + 1) rest (n - length)).1 - month
          = (splitDays (month + 1) rest (n - length)).1 - (month + 1) + 1 := by omega
      rw [hm, List.getElem?_cons_succ]
      exact ih (month + 1) h'

/-- A day is one of the days of its year. -/
theorem dayOfYear_lt (n : Int) :
  (n - daysBeforeYear (yearOf n)).toNat < total (monthLengths (yearOf n))
  := by
  have hyear := daysBeforeYear_yearOf n
  have hsum := total_monthLengths (yearOf n)
  omega

/-- The date of a day has that day's number. -/
theorem dayNumber_ofDay (n : Int) :
  dayNumber (Date.ofDay n) = n
  := by
  have hyear := daysBeforeYear_yearOf (n + epoch)
  obtain ⟨_, hdays⟩ := total_take_splitDays 1 (dayOfYear_lt (n + epoch))
  simp only [dayNumber, Date.ofDay, daysBeforeMonth]
  omega

theorem Date.isValid_iff {d : Date} :
  d.isValid = true ↔ 1 ≤ d.day ∧ d.day ≤ monthLength d.year d.month
  := by
  simp [isValid]

theorem monthLength_of_pos (y : Int) {month : Nat} (h : 1 ≤ month) :
  monthLength y month = ((monthLengths y)[month - 1]?).getD 0
  := if_neg (Nat.ne_of_gt h)

/-- The date of a day exists. -/
theorem isValid_ofDay (n : Int) :
  (Date.ofDay n).isValid = true
  := by
  have hmonth : 1 ≤ (Date.ofDay n).month :=
    (total_take_splitDays 1 (dayOfYear_lt (n + epoch))).1
  rw [Date.isValid_iff, monthLength_of_pos _ hmonth]
  exact splitDays_mem 1 (dayOfYear_lt (n + epoch))

end Storekeeper.Time

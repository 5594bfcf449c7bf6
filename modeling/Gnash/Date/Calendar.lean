import Mathlib.Algebra.Group.Int

/-!
# The proleptic-Gregorian calendar

The calendar that the dates of `Date.cpp` stand for, stated without any of its code: the leap
year rule, the days from 1 January 1970 to the first day of a year and of a month, and a civil
date as a value that carries its own range. The functions of `Date.cpp` are compared with it in
`Gnash.Date.Decompose` and `Gnash.Date.Compose`.

## Main definitions

* `Gnash.Date.daysBeforeYear`, `Gnash.Date.daysBeforeMonth`, `Gnash.Date.monthLength`.
* `Gnash.Date.CivilDate` and `Gnash.Date.CivilDate.dayNumber`.

## Main results

* `Gnash.Date.daysBeforeYear_succ` — consecutive years are a year's length apart.
* `Gnash.Date.CivilDate.eq_of_dayNumber_eq` — a day number names one date.
-/

namespace Gnash.Date

/-- Whether the proleptic-Gregorian year `Y` is a leap year. -/
def isLeap (Y : Int) : Bool := Y % 400 == 0 || (Y % 4 == 0 && Y % 100 != 0)

/-- The number of days of the year `Y`. -/
def yearLength (Y : Int) : Int := if isLeap Y then 366 else 365

/-- The number of days from 1 January 1970 to 1 January of the year `Y`, negative before 1970:
365 days a year and one more for each leap year in between. -/
def daysBeforeYear (Y : Int) : Int :=
  365 * (Y - 1970) + ((Y - 1) / 4 - (Y - 1) / 100 + (Y - 1) / 400) - 477

theorem isLeap_iff (Y : Int) : isLeap Y = true ↔ Y % 400 = 0 ∨ (Y % 4 = 0 ∧ Y % 100 ≠ 0) := by
  simp [isLeap]

@[simp] theorem daysBeforeYear_1970 : daysBeforeYear 1970 = 0 := rfl

theorem daysBeforeYear_succ (Y : Int) : daysBeforeYear (Y + 1) = daysBeforeYear Y + yearLength Y := by
  unfold daysBeforeYear yearLength
  rw [Int.add_sub_cancel]
  split
  · next h => rw [isLeap_iff] at h; omega
  · next h => rw [isLeap_iff] at h; omega

theorem daysBeforeYear_add_400 (Y k : Int) :
    daysBeforeYear (Y + 400 * k) = daysBeforeYear Y + 146097 * k := by
  unfold daysBeforeYear; omega

theorem daysBeforeYear_mono {Y Y' : Int} (h : Y ≤ Y') : daysBeforeYear Y ≤ daysBeforeYear Y' := by
  unfold daysBeforeYear; omega

theorem yearLength_ge (Y : Int) : 365 ≤ yearLength Y := by
  unfold yearLength; split <;> decide

/-- The length of the month `m` (0 is January) of a leap year or of another year. -/
def monthLength (leap : Bool) : Nat → Int
  | 1 => if leap then 29 else 28
  | 3 | 5 | 8 | 10 => 30
  | _ => 31

/-- The days of the months before month `m` of a year. -/
def daysBeforeMonth (leap : Bool) : Nat → Int
  | 0 => 0
  | m + 1 => daysBeforeMonth leap m + monthLength leap m

theorem daysBeforeMonth_succ (leap : Bool) (m : Nat) :
    daysBeforeMonth leap (m + 1) = daysBeforeMonth leap m + monthLength leap m := rfl

theorem monthLength_pos (leap : Bool) (m : Nat) : 0 < monthLength leap m := by
  unfold monthLength; split <;> (try split) <;> decide

/-- The twelve months fill the year. -/
theorem daysBeforeMonth_twelve (Y : Int) : daysBeforeMonth (isLeap Y) 12 = yearLength Y := by
  unfold yearLength; cases isLeap Y <;> rfl

theorem daysBeforeMonth_lt_of_lt (leap : Bool) {m m' : Nat} (h : m < m') :
    daysBeforeMonth leap m + monthLength leap m ≤ daysBeforeMonth leap m' := by
  induction m' with
  | zero => omega
  | succ m' ih =>
    have := monthLength_pos leap m'
    rcases Nat.lt_succ_iff_lt_or_eq.mp h with h | rfl
    · have := ih h; simp only [daysBeforeMonth]; omega
    · exact Int.le_refl _

theorem daysBeforeMonth_nonneg (leap : Bool) (m : Nat) : 0 ≤ daysBeforeMonth leap m := by
  induction m with
  | zero => exact Int.le_refl 0
  | succ m ih => have := monthLength_pos leap m; simp only [daysBeforeMonth]; omega

/-- A date of the proleptic-Gregorian calendar: a year, a month from 0 (January) to 11, and a day
of that month. -/
structure CivilDate where
  year : Int
  month : Nat
  day : Int
  month_lt : month < 12
  one_le_day : 1 ≤ day
  day_le : day ≤ monthLength (isLeap year) month

/-- The number of days from 1 January 1970 to the date. -/
def CivilDate.dayNumber (c : CivilDate) : Int :=
  daysBeforeYear c.year + daysBeforeMonth (isLeap c.year) c.month + c.day - 1

/-- The day number of a date lies in its year. -/
theorem CivilDate.dayNumber_mem_year (c : CivilDate) :
    daysBeforeYear c.year ≤ c.dayNumber ∧ c.dayNumber < daysBeforeYear (c.year + 1) := by
  have h12 := daysBeforeMonth_lt_of_lt (isLeap c.year) c.month_lt
  have := daysBeforeMonth_twelve c.year
  have := daysBeforeYear_succ c.year
  have := c.one_le_day
  have := c.day_le
  have := daysBeforeMonth_nonneg (isLeap c.year) c.month
  unfold CivilDate.dayNumber; omega

/-- Two dates with the same day number are the same date. -/
theorem CivilDate.eq_of_dayNumber_eq {c c' : CivilDate} (h : c.dayNumber = c'.dayNumber) :
    c.year = c'.year ∧ c.month = c'.month ∧ c.day = c'.day := by
  have hc := c.dayNumber_mem_year
  have hc' := c'.dayNumber_mem_year
  have hy : c.year = c'.year := by
    rcases Int.lt_trichotomy c.year c'.year with hlt | heq | hgt
    · have := daysBeforeYear_mono (show c.year + 1 ≤ c'.year by omega); omega
    · exact heq
    · have := daysBeforeYear_mono (show c'.year + 1 ≤ c.year by omega); omega
  refine ⟨hy, ?_⟩
  obtain ⟨y, m, d, hm, hd1, hd2⟩ := c
  obtain ⟨y', m', d', hm', hd1', hd2'⟩ := c'
  simp only at hy ⊢
  subst hy
  unfold CivilDate.dayNumber at h
  simp only at h hd2 hd2'
  rcases Nat.lt_trichotomy m m' with hlt | rfl | hgt
  · have := daysBeforeMonth_lt_of_lt (isLeap y) hlt; omega
  · exact ⟨rfl, by omega⟩
  · have := daysBeforeMonth_lt_of_lt (isLeap y) hgt; omega

end Gnash.Date

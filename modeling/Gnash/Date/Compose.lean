import Gnash.Date.Decompose
import Mathlib.Tactic.SplitIfs

/-!
# `makeTimeValue` builds a time value back

`makeTimeValue` carries the whole years of the month into the year, counts the days to
1 January of the year with `COUNT_LEAP_YEARS`, adds the months with `daysInMonth` and the day of
the month, and sums the day count and the time of day in `double`s. Every step but one is what
the calendar says: the month is brought into `0 .. 11` by the Euclidean division
(`Gnash.Date.normalizeMonth_eq`), the month loop adds `daysBeforeMonth`, and the `double` sums
are exact below `2 ^ 53`. The leap years are miscounted: `yearStartDay` is off by
`Gnash.Date.leapCountError`, one day short from 2069 to 2100, 2169 to 2200, and so on, and one
day over from 1801 to 1872, 1701 to 1772 and 1501 to 1672 (and every 400 years before), right
from 1873 to 2068.

So `makeTimeValue (fillGnashTime t)` is `t` moved by that error, and `fillGnashTime` gives back a
broken-down time given to `makeTimeValue` exactly in the years where the error is zero.

## Main definitions

* `Gnash.Date.leapCountError`.

## Main results

* `Gnash.Date.yearStartDay_eq_daysBeforeYear_add_error` — the day count of `COUNT_LEAP_YEARS`
  and its error, at most one day.
* `Gnash.Date.makeTimeValue_eq_of_days` — `makeTimeValue` is the exact sum of the day count and
  the time of day.
* `Gnash.Date.makeTimeValue_fillGnashTime`, `Gnash.Date.fillGnashTime_makeTimeValue` — the two
  round trips, up to the error.

Source: `src/server/asobj/Date.cpp`, lines 126-145 and 1277-1326.
-/

namespace Gnash.Date

/-! ### The month and the year -/

/-- The first lines of `makeTimeValue` are the Euclidean division of the month by 12. -/
theorem normalizeMonth_eq (year month : Int) :
    normalizeMonth year month = (year + month / 12, month % 12) := by
  unfold normalizeMonth
  dsimp only
  rcases Int.le_total 0 month with h | h
  · have := tdiv_tmod_of_nonneg h (b := 12) (by decide)
    rw [if_neg (by omega)]
    ext <;> simp only <;> omega
  · have := tdiv_tmod_of_nonpos h (b := 12) (by decide)
    split <;> (ext <;> simp only <;> omega)

/-- The loop of `makeTimeValue` over the months before `n` adds their lengths. -/
theorem foldl_daysInMonth (leap : Bool) (day : Int) {n : Nat} (hn : n ≤ 12) :
    (List.range n).foldl (fun day i => day + daysInMonth leap i) day =
      day + daysBeforeMonth leap n := by
  induction n with
  | zero => exact (Int.add_zero day).symm
  | succ n ih =>
    rw [List.range_succ, List.foldl_append, ih (by omega), List.foldl_cons, List.foldl_nil,
      daysInMonth_eq leap n (by omega), daysBeforeMonth_succ, Int.add_assoc]

theorem addMonthDays_eq (leap : Bool) {month : Int} (h0 : 0 ≤ month) (h12 : month < 12)
    (day : Int) : addMonthDays leap month day = day + daysBeforeMonth leap month.toNat :=
  foldl_daysInMonth leap day (by omega)

/-- How many days the day count of `makeTimeValue` is off at 1 January of the year `Y`. From
1970 on it is one day short in the years `Y` with `(Y - 1) % 100 ≥ 68` and `(Y - 1) % 400 < 368`
(2069 to 2100, 2169 to 2200, 2269 to 2300, and so every 400 years). Before 1970 it is one day
over in the years up to 1900 unless `(Y - 1) % 100 ≥ 72` and `(Y - 1) % 400 < 372` (1501 to 1672,
1701 to 1772, 1801 to 1872, and so every 400 years). -/
def leapCountError (Y : Int) : Int :=
  if 1970 ≤ Y then (if 68 ≤ (Y - 1) % 100 ∧ (Y - 1) % 400 < 368 then -1 else 0)
  else (if Y ≤ 1900 then 1 else 0) - (if 72 ≤ (Y - 1) % 100 then 1 else 0) +
    (if 372 ≤ (Y - 1) % 400 then 1 else 0)

/-- The day count of `COUNT_LEAP_YEARS` is the calendar's, up to `leapCountError`. -/
theorem yearStartDay_eq (year : Int) :
    yearStartDay year = daysBeforeYear (year + 1900) + leapCountError (year + 1900) := by
  unfold yearStartDay countLeapYears leapCountError daysBeforeYear
  split
  · rw [if_neg (show ¬1970 ≤ year + 1900 by omega), tdiv_of_nonpos (by omega) (by decide),
      tdiv_of_nonpos (by omega) (by decide), tdiv_of_nonpos (by omega) (by decide)]
    split_ifs <;> omega
  · rw [if_pos (show 1970 ≤ year + 1900 by omega), Int.tdiv_eq_ediv (by omega) (by decide),
      Int.tdiv_eq_ediv (by omega) (by decide), Int.tdiv_eq_ediv (by omega) (by decide)]
    split_ifs <;> omega

/-- The years in which the day count of `makeTimeValue` is right include 1873 to 2068. -/
theorem leapCountError_eq_zero {Y : Int} (h₁ : 1873 ≤ Y) (h₂ : Y < 2069) : leapCountError Y = 0 := by
  unfold leapCountError
  split <;> split <;> (try split) <;> (try split) <;> omega

theorem leapCountError_bounds (Y : Int) : -1 ≤ leapCountError Y ∧ leapCountError Y ≤ 1 := by
  unfold leapCountError
  split <;> split <;> (try split) <;> (try split) <;> omega

/-- A sum of `double`s whose exact value is at most `2 ^ 53` in magnitude is exact. -/
theorem roundToDouble_eq {x : Int} (h₁ : -2 ^ 53 ≤ x) (h₂ : x ≤ 2 ^ 53) : roundToDouble x = x :=
  roundToDouble_of_natAbs_le (by omega)

/-- The days from 1 January 1970 to the date of a broken-down time, as `makeTimeValue` counts
them: the month carried into the year, the error of `COUNT_LEAP_YEARS` included. -/
def dayCount (gt : GnashTime) : Int :=
  let Y := gt.year + gt.month / 12 + 1900
  daysBeforeYear Y + leapCountError Y + daysBeforeMonth (isLeap Y) (gt.month % 12).toNat +
    (gt.monthday - 1)

/-- `makeTimeValue` sums `dayCount` and the time of day in `double`s. -/
theorem makeTimeValue_eq_dayCount (gt : GnashTime) :
    makeTimeValue gt = roundToDouble (roundToDouble (roundToDouble (roundToDouble
      (dayCount gt * 86400000 + gt.hour * 3600000) + gt.minute * 60000) + gt.second * 1000) +
        gt.millisecond) := by
  unfold makeTimeValue dayCount
  rw [normalizeMonth_eq]
  dsimp only
  rw [addMonthDays_eq _ (Int.emod_nonneg _ (by decide)) (Int.emod_lt_of_pos _ (by decide)),
    yearStartDay_eq, isLeapYear_eq]

/-- `makeTimeValue` is the exact sum of the day count and the time of day, when the day count is
within `103000000` days of 1970 and the fields of the time of day within `10 ^ 7`: none of the
`double` sums is then rounded. -/
theorem makeTimeValue_eq_of_days (gt : GnashTime) (hd : -103000000 ≤ dayCount gt)
    (hd' : dayCount gt ≤ 103000000) (hh : -10 ^ 7 ≤ gt.hour ∧ gt.hour ≤ 10 ^ 7)
    (hm : -10 ^ 7 ≤ gt.minute ∧ gt.minute ≤ 10 ^ 7)
    (hs : -10 ^ 7 ≤ gt.second ∧ gt.second ≤ 10 ^ 7)
    (hms : -10 ^ 7 ≤ gt.millisecond ∧ gt.millisecond ≤ 10 ^ 7) :
    makeTimeValue gt = dayCount gt * 86400000 + gt.hour * 3600000 + gt.minute * 60000 +
      gt.second * 1000 + gt.millisecond := by
  rw [makeTimeValue_eq_dayCount]
  generalize dayCount gt = d at *
  rw [roundToDouble_eq (x := d * 86400000 + gt.hour * 3600000) (by omega) (by omega),
    roundToDouble_eq (x := d * 86400000 + gt.hour * 3600000 + gt.minute * 60000) (by omega)
      (by omega),
    roundToDouble_eq (x := d * 86400000 + gt.hour * 3600000 + gt.minute * 60000 + gt.second * 1000)
      (by omega) (by omega),
    roundToDouble_eq (by omega) (by omega)]

theorem daysBeforeMonth_bounds (leap : Bool) {m : Nat} (h : m < 12) :
    0 ≤ daysBeforeMonth leap m ∧ daysBeforeMonth leap m ≤ 366 := by
  have := daysBeforeMonth_lt_of_lt leap h
  have := monthLength_pos leap m
  have : daysBeforeMonth leap 12 ≤ 366 := by cases leap <;> decide
  exact ⟨daysBeforeMonth_nonneg leap m, by omega⟩

/-- For a month in `0 .. 11` nothing is carried into the year. -/
theorem dayCount_of_month_lt {gt : GnashTime} (h₀ : 0 ≤ gt.month) (h₁ : gt.month < 12) :
    dayCount gt = daysBeforeYear (gt.year + 1900) + leapCountError (gt.year + 1900) +
      daysBeforeMonth (isLeap (gt.year + 1900)) gt.month.toNat + (gt.monthday - 1) := by
  unfold dayCount
  rw [Int.ediv_eq_zero_of_lt h₀ h₁, Int.emod_eq_of_lt h₀ h₁, Int.add_zero]

theorem monthLength_bounds (leap : Bool) (m : Nat) : 28 ≤ monthLength leap m ∧ monthLength leap m ≤ 31 := by
  unfold monthLength; split <;> (try split) <;> decide

/-- `makeTimeValue` carries the days of the month past the month's length into the next month of
the year: a day `d` of month `m` is day `d - monthLength m` of month `m + 1`. -/
theorem makeTimeValue_carry_day (gt : GnashTime) (hm : 0 ≤ gt.month ∧ gt.month < 11) :
    makeTimeValue gt = makeTimeValue { gt with
      month := gt.month + 1
      monthday := gt.monthday - monthLength (isLeap (gt.year + 1900)) gt.month.toNat } := by
  have : dayCount gt = dayCount { gt with
      month := gt.month + 1
      monthday := gt.monthday - monthLength (isLeap (gt.year + 1900)) gt.month.toNat } := by
    rw [dayCount_of_month_lt hm.1 (by omega), dayCount_of_month_lt (by dsimp only; omega)
      (by dsimp only; omega)]
    dsimp only
    rw [show (gt.month + 1).toNat = gt.month.toNat + 1 by omega, daysBeforeMonth_succ]
    omega
  rw [makeTimeValue_eq_dayCount, makeTimeValue_eq_dayCount, this]

/-! ### Round trips -/

/-- On the ranges of its fields that keep the day count within `10 ^ 8` days of 1970,
`makeTimeValue` is the day count of the calendar, carried months and days included, moved by the
error of `COUNT_LEAP_YEARS`, plus the time of day. -/
theorem makeTimeValue_eq_calendar (gt : GnashTime)
    (hy : -200000 ≤ gt.year ∧ gt.year ≤ 200000) (hmo : -240000 ≤ gt.month ∧ gt.month ≤ 240000)
    (hd : -10 ^ 7 ≤ gt.monthday ∧ gt.monthday ≤ 10 ^ 7) (hh : -10 ^ 7 ≤ gt.hour ∧ gt.hour ≤ 10 ^ 7)
    (hm : -10 ^ 7 ≤ gt.minute ∧ gt.minute ≤ 10 ^ 7) (hs : -10 ^ 7 ≤ gt.second ∧ gt.second ≤ 10 ^ 7)
    (hms : -10 ^ 7 ≤ gt.millisecond ∧ gt.millisecond ≤ 10 ^ 7) :
    let Y := gt.year + gt.month / 12 + 1900
    makeTimeValue gt = (daysBeforeYear Y + leapCountError Y +
      daysBeforeMonth (isLeap Y) (gt.month % 12).toNat + gt.monthday - 1) * 86400000 +
        gt.hour * 3600000 + gt.minute * 60000 + gt.second * 1000 + gt.millisecond := by
  intro Y
  have := leapCountError_bounds Y
  have := daysBeforeMonth_bounds (isLeap Y) (m := (gt.month % 12).toNat) (by omega)
  have : -81100000 ≤ daysBeforeYear Y ∧ daysBeforeYear Y ≤ 81100000 := by
    unfold daysBeforeYear; omega
  have hdc : dayCount gt = daysBeforeYear Y + leapCountError Y +
      daysBeforeMonth (isLeap Y) (gt.month % 12).toNat + (gt.monthday - 1) := rfl
  rw [makeTimeValue_eq_of_days gt (by omega) (by omega) hh hm hs hms, hdc, Int.add_sub_assoc]

/-- 35 January 1970 is 4 February. -/
theorem makeTimeValue_35_january : makeTimeValue ⟨0, 0, 0, 0, 35, 0, 0, 70⟩ = 34 * 86400000 := by
  rw [makeTimeValue_eq_calendar _ (by decide) (by decide) (by decide) (by decide) (by decide)
    (by decide) (by decide)]
  decide

/-- `makeTimeValue` at 1 January 2069 is a day short of the calendar's time value. -/
theorem makeTimeValue_2069 :
    makeTimeValue ⟨0, 0, 0, 0, 1, 0, 0, 169⟩ = (daysBeforeYear 2069 - 1) * 86400000 := by
  decide

/-- Breaking a time value down and building it back moves it by the error of `COUNT_LEAP_YEARS`
at its year: not at all from 1873 to 2068, a day at most elsewhere. -/
theorem makeTimeValue_fillGnashTime (t : Int) (h₁ : -8640000000000000 ≤ t)
    (h₂ : t ≤ 8640000000000000) :
    makeTimeValue (fillGnashTime t) =
      t + leapCountError ((fillGnashTime t).year + 1900) * 86400000 := by
  have hb := fillGnashTime_isBrokenDown t
  generalize fillGnashTime t = g at *
  have := leapCountError_bounds (g.year + 1900)
  have hdc := dayCount_of_month_lt hb.month_nonneg hb.month_lt
  have := hb.date
  have := hb.time
  have := hb.hour_nonneg; have := hb.minute_nonneg; have := hb.second_nonneg
  have := hb.millisecond_nonneg
  have := hb.hour_lt; have := hb.minute_lt; have := hb.second_lt; have := hb.millisecond_lt
  rw [makeTimeValue_eq_of_days g (by omega) (by omega) (by omega) (by omega) (by omega) (by omega)]
  omega

theorem makeTimeValue_fillGnashTime_leap_day :
    makeTimeValue (fillGnashTime 951782400000) = 951782400000 := by
  rw [makeTimeValue_fillGnashTime _ (by decide) (by decide)]
  decide

theorem makeTimeValue_fillGnashTime_2069 :
    makeTimeValue (fillGnashTime 3124224000000) = 3124224000000 - 86400000 := by
  decide

/-- A broken-down time whose fields are in range, with its year within 200000 years of 1900. -/
structure IsCanonical (gt : GnashTime) : Prop where
  millisecond : 0 ≤ gt.millisecond ∧ gt.millisecond ≤ 999
  second : 0 ≤ gt.second ∧ gt.second ≤ 59
  minute : 0 ≤ gt.minute ∧ gt.minute ≤ 59
  hour : 0 ≤ gt.hour ∧ gt.hour ≤ 23
  month : 0 ≤ gt.month ∧ gt.month ≤ 11
  monthday : 1 ≤ gt.monthday ∧ gt.monthday ≤ daysInMonth (isLeapYear gt.year) gt.month.toNat
  year : -200000 ≤ gt.year ∧ gt.year ≤ 200000

instance (gt : GnashTime) : Decidable (IsCanonical gt) :=
  decidable_of_iff (_ ∧ _ ∧ _ ∧ _ ∧ _ ∧ _ ∧ _)
    ⟨fun ⟨a, b, c, d, e, f, g⟩ => ⟨a, b, c, d, e, f, g⟩,
      fun ⟨a, b, c, d, e, f, g⟩ => ⟨a, b, c, d, e, f, g⟩⟩

/-- The time value `makeTimeValue` builds from a broken-down time with its fields in range, in a
year where `COUNT_LEAP_YEARS` is right, has that broken-down time. -/
theorem isBrokenDown_makeTimeValue (gt : GnashTime) (hc : IsCanonical gt)
    (he : leapCountError (gt.year + 1900) = 0) :
    IsBrokenDown (makeTimeValue gt) { gt with weekday := (makeTimeValue gt / 86400000 + 4) % 7 } := by
  obtain ⟨hms, hs, hm, hh, hmo, hd, hy⟩ := hc
  rw [isLeapYear_eq, daysInMonth_eq _ _ (by omega)] at hd
  have hdc := dayCount_of_month_lt hmo.1 (by omega)
  have := daysBeforeMonth_bounds (isLeap (gt.year + 1900)) (m := gt.month.toNat) (by omega)
  have : monthLength (isLeap (gt.year + 1900)) gt.month.toNat ≤ 31 := by
    unfold monthLength; split <;> (try split) <;> decide
  have : -73100000 ≤ daysBeforeYear (gt.year + 1900) ∧ daysBeforeYear (gt.year + 1900) ≤ 73100000 := by
    unfold daysBeforeYear; omega
  have hv := makeTimeValue_eq_of_days gt (by omega) (by omega) (by omega) (by omega) (by omega)
    (by omega)
  have hq : makeTimeValue gt / 86400000 = dayCount gt := by omega
  have hr : makeTimeValue gt % 86400000 =
      gt.hour * 3600000 + gt.minute * 60000 + gt.second * 1000 + gt.millisecond := by omega
  exact { date := by dsimp only; omega
          month_nonneg := hmo.1, month_lt := by dsimp only; omega
          monthday_pos := hd.1, monthday_le := hd.2, time := hr.symm
          hour_nonneg := hh.1, hour_lt := by dsimp only; omega
          minute_nonneg := hm.1, minute_lt := by dsimp only; omega
          second_nonneg := hs.1, second_lt := by dsimp only; omega
          millisecond_nonneg := hms.1, millisecond_lt := by dsimp only; omega
          weekday := rfl }

/-- A broken-down time with its fields in range, given to `makeTimeValue` and broken down again,
comes back with the day of the week filled in, in every year where `COUNT_LEAP_YEARS` is right. -/
theorem fillGnashTime_makeTimeValue (gt : GnashTime) (hc : IsCanonical gt)
    (he : leapCountError (gt.year + 1900) = 0) :
    fillGnashTime (makeTimeValue gt) =
      { gt with weekday := (makeTimeValue gt / 86400000 + 4) % 7 } :=
  fillGnashTime_eq_of_isBrokenDown (isBrokenDown_makeTimeValue gt hc he)

theorem fillGnashTime_makeTimeValue_leap_day :
    fillGnashTime (makeTimeValue ⟨250, 15, 30, 12, 29, 0, 1, 100⟩) = ⟨250, 15, 30, 12, 29, 2, 1, 100⟩ := by
  rw [fillGnashTime_makeTimeValue _ (by decide) (by decide)]
  decide

theorem fillGnashTime_makeTimeValue_2069 :
    fillGnashTime (makeTimeValue ⟨0, 0, 0, 0, 1, 2, 0, 169⟩) = ⟨0, 0, 0, 0, 31, 1, 11, 168⟩ := by
  decide

end Gnash.Date

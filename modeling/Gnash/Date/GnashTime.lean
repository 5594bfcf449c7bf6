import Gnash.Date.Calendar

/-!
# Broken-down times of `Date.cpp`

The ActionScript `Date` class of `Date.cpp` keeps a date as a time value, the milliseconds since
1 January 1970 in a `double`, and works on it through a broken-down time, `GnashTime`:
`fillGnashTime` breaks a time value down, `makeTimeValue` builds it back. This module translates
both, with the tables and macros they read: `daysInMonth`, `IS_LEAP_YEAR` and
`COUNT_LEAP_YEARS`, and `getYearBruteForce`. Integers stand for the `int32_t` fields and for the
integer time values the `double` holds; the `double` sums of `makeTimeValue` are rounded to the
nearest `double`.

## Main definitions

* `Gnash.Date.GnashTime`, `Gnash.Date.makeTimeValue`, `Gnash.Date.fillGnashTime`.
* `Gnash.Date.getYearBruteForce` and its two loops `Gnash.Date.yearsForward`,
  `Gnash.Date.yearsBackward`, each allowed as many passes as there are days; the same loops as
  they run, with no bound on their passes, `Gnash.Date.YearsForwardRuns`,
  `Gnash.Date.YearsBackwardRuns` and `Gnash.Date.GetYearBruteForceRuns`.

## Main results

* `Gnash.Date.isLeapYear_eq` — `IS_LEAP_YEAR` is the Gregorian rule.
* `Gnash.Date.tdiv_tmod_of_nonneg`, `Gnash.Date.tdiv_tmod_of_nonpos` — the division and remainder
  of C.

Source: `src/server/asobj/Date.cpp`.
-/

namespace Gnash.Date

/-- The broken-down time of `Date.cpp`, each field an `int32_t`. -/
structure GnashTime where
  millisecond : Int
  second : Int
  minute : Int
  hour : Int
  monthday : Int
  weekday : Int
  month : Int
  year : Int
  deriving DecidableEq, Repr

/-- `daysInMonth[leap][i]`. -/
def daysInMonth (leap : Bool) (i : Nat) : Int :=
  (if leap then [31, 29, 31, 30, 31, 30, 31, 31, 30, 31, 30, 31]
    else [31, 28, 31, 30, 31, 30, 31, 31, 30, 31, 30, 31]).getD i 0

/-- `IS_LEAP_YEAR(n)` for `n` years since 1900, with the remainder of C. -/
def isLeapYear (n : Int) : Bool :=
  (n + 1900).tmod 400 == 0 || ((n + 1900).tmod 4 == 0 && (n + 1900).tmod 100 != 0)

/-- `COUNT_LEAP_YEARS(n)`, with the truncating division of C. -/
def countLeapYears (n : Int) : Int :=
  (n - 70).tdiv 4 - (n - 70).tdiv 100 + (n - 70).tdiv 400

theorem tmod_eq_zero_iff (a b : Int) : a.tmod b = 0 ↔ a % b = 0 := by
  rw [← Int.dvd_iff_tmod_eq_zero, Int.dvd_iff_emod_eq_zero]

theorem tmod_beq_zero (a b : Int) : (a.tmod b == 0) = (a % b == 0) :=
  Bool.eq_iff_iff.mpr (by rw [beq_iff_eq, beq_iff_eq, tmod_eq_zero_iff])

/-- C's division of a number that is not positive rounds toward zero. -/
theorem tdiv_of_nonpos {a b : Int} (ha : a ≤ 0) (hb : 0 ≤ b) : a.tdiv b = -((-a) / b) := by
  rw [← Int.tdiv_eq_ediv (by omega) hb, ← Int.neg_tdiv, Int.neg_neg]

/-- C's division of a nonnegative number by a positive one, and its remainder. -/
theorem tdiv_tmod_of_nonneg {a b : Int} (ha : 0 ≤ a) (hb : 0 < b) :
    b * a.tdiv b + a.tmod b = a ∧ 0 ≤ a.tmod b ∧ a.tmod b < b ∧ 0 ≤ a.tdiv b :=
  ⟨by rw [Int.tdiv_eq_ediv ha (by omega), Int.tmod_eq_emod ha (by omega)]; exact Int.ediv_add_emod a b,
    Int.tmod_nonneg b ha, Int.tmod_lt_of_pos a hb, Int.tdiv_nonneg ha (by omega)⟩

/-- C's division of a number that is not positive by a positive one, and its remainder, which
is not positive either. -/
theorem tdiv_tmod_of_nonpos {a b : Int} (ha : a ≤ 0) (hb : 0 < b) :
    b * a.tdiv b + a.tmod b = a ∧ -b < a.tmod b ∧ a.tmod b ≤ 0 ∧ a.tdiv b ≤ 0 := by
  have e := Int.tmod_add_tdiv a b
  have := Int.ediv_add_emod (-a) b
  have := Int.emod_nonneg (-a) (show b ≠ 0 by omega)
  have := Int.emod_lt_of_pos (-a) hb
  have := Int.ediv_nonneg (show 0 ≤ -a by omega) (show 0 ≤ b by omega)
  rw [tdiv_of_nonpos ha (by omega)] at e ⊢
  rw [Int.mul_neg] at e ⊢
  omega

/-- `IS_LEAP_YEAR` is the Gregorian rule: C's remainder is zero exactly when the other one is. -/
@[simp] theorem isLeapYear_eq (n : Int) : isLeapYear n = isLeap (n + 1900) := by
  simp only [isLeapYear, isLeap, bne, tmod_beq_zero]

/-- The table `daysInMonth` holds the lengths of the Gregorian months. -/
theorem daysInMonth_eq : ∀ (leap : Bool) (i : Nat), i < 12 → daysInMonth leap i = monthLength leap i := by
  decide

/-! ### `makeTimeValue` -/

/-- The integer value of the `double` nearest to the integer `x`, ties to even. Integers up to
`2 ^ 53` in magnitude are doubles; above, doubles are `2 ^ e` apart, `e` the excess of the
binary exponent over 52. -/
def roundToDouble (x : Int) : Int :=
  let n := x.natAbs
  if n ≤ 2 ^ 53 then x else
    let e := Nat.log2 n - 52
    let q := n / 2 ^ e
    let r := n % 2 ^ e
    let q := if 2 * r > 2 ^ e ∨ (2 * r = 2 ^ e ∧ q % 2 = 1) then q + 1 else q
    if x < 0 then -((q * 2 ^ e : Nat) : Int) else ((q * 2 ^ e : Nat) : Int)

theorem roundToDouble_of_natAbs_le {x : Int} (h : x.natAbs ≤ 2 ^ 53) : roundToDouble x = x := by
  unfold roundToDouble
  exact if_pos h

/-- The days of the months before month `month` of a year, as the loop of `makeTimeValue` adds
them up from `day`. -/
def addMonthDays (leap : Bool) (month : Int) (day : Int) : Int :=
  (List.range month.toNat).foldl (fun day i => day + daysInMonth leap i) day

/-- The first lines of `makeTimeValue`: the whole years of the month are carried into the year
with C's division and remainder, and a negative remainder takes a year. -/
def normalizeMonth (year month : Int) : Int × Int :=
  let year := year + month.tdiv 12
  let month := month.tmod 12
  if month < 0 then (year - 1, month + 12) else (year, month)

/-- The day count of `makeTimeValue` at 1 January of the year `year` (since 1900), by
`COUNT_LEAP_YEARS`, with an extra leap year for the year 0 (1900). -/
def yearStartDay (year : Int) : Int :=
  if year < 70 then countLeapYears (year - 2) + (year - 70) * 365 + if year ≤ 0 then 1 else 0
  else countLeapYears (year + 1) + (year - 70) * 365

/-- `makeTimeValue`: the time value of a broken-down time. The month is brought into `0 .. 11`,
the years carried into the year; the day count (an `int32_t`) is the days to 1 January of the
year by `COUNT_LEAP_YEARS`, then the months and the day of the month; the time value is the
`double` sum of the day count and the time of day, each product exact, each sum rounded.

The source takes the `GnashTime` by reference and normalises its year and month in place; no
caller reads them afterwards, so only the value is returned. -/
def makeTimeValue (t : GnashTime) : Int :=
  let (year, month) := normalizeMonth t.year t.month
  let day := yearStartDay year
  let day := addMonthDays (isLeapYear year) month day
  let day := day + (t.monthday - 1)
  roundToDouble (roundToDouble (roundToDouble (roundToDouble
    (day * 86400000 + t.hour * 3600000) + t.minute * 60000) + t.second * 1000) + t.millisecond)

/-! ### `fillGnashTime` -/

/-- The number of days of the year `year` (a full year) by `IS_LEAP_YEAR`. -/
def yearDays (year : Int) : Int := if isLeapYear (year - 1900) then 366 else 365

@[simp] theorem yearDays_eq (year : Int) : yearDays year = yearLength year := by
  simp [yearDays, yearLength, Int.sub_add_cancel]

/-- The `for (;;)` loop of `getYearBruteForce` for `days >= 0`: whole years are taken off `days`
while it is at least the length of `year`. Each pass takes at least 365 days, so `fuel`, the
number of passes allowed, is never used up from `days.toNat` on. -/
def yearsForward : Nat → Int → Int → Int × Int
  | 0, year, days => (year, days)
  | fuel + 1, year, days =>
    if days < yearDays year then (year, days)
    else yearsForward fuel (year + 1) (days - yearDays year)

/-- The `do ... while (days < 0)` loop of `getYearBruteForce` for `days < 0`: years are added
back to `days`, the year before first, until it is no longer negative. -/
def yearsBackward : Nat → Int → Int → Int × Int
  | 0, year, days => (year, days)
  | fuel + 1, year, days =>
    if days + yearDays (year - 1) < 0 then yearsBackward fuel (year - 1) (days + yearDays (year - 1))
    else (year - 1, days + yearDays (year - 1))

/-- `getYearBruteForce`: the year (since 1900) of the day `days` after 1 January 1970, and the
day of that year. Blocks of 400 years are taken first, with the truncating division and
remainder of C. -/
def getYearBruteForce (days : Int) : Int × Int :=
  let year := 1970 + days.tdiv 146097 * 400
  let days := days.tmod 146097
  let r := if days ≥ 0 then yearsForward days.toNat year days else yearsBackward (-days).toNat year days
  (r.1 - 1900, r.2)

/-- The `for (;;)` loop of `getYearBruteForce` as it runs, with no bound on its passes:
`YearsForwardRuns year days r` says that the loop started on `year` and `days` stops, on `r`. -/
inductive YearsForwardRuns : Int → Int → Int × Int → Prop
  /-- `if (days < (isleap ? 366 : 365)) break;` -/
  | stop {year days : Int} (h : days < yearDays year) : YearsForwardRuns year days (year, days)
  /-- `year++; days -= isleap ? 366 : 365;`, and the next pass. -/
  | next {year days : Int} {r : Int × Int} (h : ¬days < yearDays year)
      (rest : YearsForwardRuns (year + 1) (days - yearDays year) r) : YearsForwardRuns year days r

/-- The `do ... while (days < 0)` loop of `getYearBruteForce` as it runs, with no bound on its
passes. -/
inductive YearsBackwardRuns : Int → Int → Int × Int → Prop
  /-- `--year; days += isleap ? 366 : 365;` leaves `days` nonnegative, and the loop exits. -/
  | stop {year days : Int} (h : ¬days + yearDays (year - 1) < 0) :
      YearsBackwardRuns year days (year - 1, days + yearDays (year - 1))
  /-- `--year; days += isleap ? 366 : 365;` leaves `days` negative, and the loop goes on. -/
  | next {year days : Int} {r : Int × Int} (h : days + yearDays (year - 1) < 0)
      (rest : YearsBackwardRuns (year - 1) (days + yearDays (year - 1)) r) :
      YearsBackwardRuns year days r

/-- `getYearBruteForce` as it runs: the jump over 400-year blocks, then the loop for the sign of
the remainder, which stops on `r'`; `r` is the year since 1900 and the day of that year. -/
def GetYearBruteForceRuns (days : Int) (r : Int × Int) : Prop :=
  let year := 1970 + days.tdiv 146097 * 400
  let days := days.tmod 146097
  ∃ r', (if days ≥ 0 then YearsForwardRuns year days r' else YearsBackwardRuns year days r') ∧
    r = (r'.1 - 1900, r'.2)

/-- The loop of `fillGnashTime` that finds the month of the day `days` of a year, from month `i`
on: it stops at the first month longer than what is left of `days`. When no month is, the month
stays 0 and `days` has lost all twelve. -/
def findMonth (leap : Bool) (i : Nat) (days : Int) : Nat → Int × Int
  | 0 => (0, days)
  | n + 1 =>
    if days - daysInMonth leap i < 0 then (i, days)
    else findMonth leap (i + 1) (days - daysInMonth leap i) n

/-- One borrow of the `time < 0` branch of `fillGnashTime`, `if (x < 0) { x += c; y--; }`: a
field below zero takes `c` from the next larger field. -/
def borrow (negative : Bool) (c x y : Int) : Int × Int :=
  if negative ∧ x < 0 then (x + c, y - 1) else (x, y)

@[simp] theorem borrow_false (c x y : Int) : borrow false c x y = (x, y) := rfl

/-- `fillGnashTime` on an integer time value. The source divides the `double` time by 1000 and
takes remainders and quotients of it; on an integer time value of magnitude up to `8.64e15`, the
range of ActionScript dates, these are the truncating integer operations below, the rounding of
the divisions never crossing an integer. For a negative time the fields are brought back into
range by borrowing, down to the day count. The day count is an `int32_t` in the source, which
overflows, with `days + 4`, only far outside that range (from about `1.855e17`); the model does
not follow it there. -/
def fillGnashTime (time : Int) : GnashTime :=
  let millisecond := time.tmod 1000
  let seconds := time.tdiv 1000
  let remainder := seconds.tmod 86400
  let days := seconds.tdiv 86400
  let second := remainder.tmod 60
  let remainder := remainder.tdiv 60
  let minute := remainder.tmod 60
  let remainder := remainder.tdiv 60
  let hour := remainder.tmod 24
  let negative := decide (time < 0)
  let (millisecond, second) := borrow negative 1000 millisecond second
  let (second, minute) := borrow negative 60 second minute
  let (minute, hour) := borrow negative 60 minute hour
  let (hour, days) := borrow negative 24 hour days
  let weekday := if days ≥ -4 then (days + 4).tmod 7 else 6 - (-5 - days).tmod 7
  let (year, days) := getYearBruteForce days
  let (month, days) := findMonth (isLeapYear year) 0 days 12
  { millisecond, second, minute, hour, monthday := days + 1, weekday, month, year }

end Gnash.Date

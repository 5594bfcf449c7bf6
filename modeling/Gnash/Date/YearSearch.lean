import Gnash.Date.Decompose

/-!
# The year by bisection: `getYearMathematical`

`Date.cpp` holds a second way to find the year of a day count, `getYearMathematical`, the
algorithm of swfdec. It brackets the year between the day count over 366 and over 365 days a
year, and bisects with `daysSinceUTCForYear`, the days from 1970 to the start of a year. Its
call in `fillGnashTime` is commented out, beside a note that it "appears to get the year wrong
for midnight on January 1 of some years". On whole day counts, the argument of that call, it
does not: for every day count it returns the year of the brute-force loop that replaced it
(`Gnash.Date.getYearMathematical_eq`), and the bisection stops within as many passes as the
bracket is wide.

## Main definitions

* `Gnash.Date.daysSinceUTCForYear`, `Gnash.Date.yearsBisect`, `Gnash.Date.getYearMathematical`.

## Main results

* `Gnash.Date.yearsBisect_eq` — the bisection keeps the year in its bracket and finds it.
* `Gnash.Date.getYearMathematical_eq` — the bisection and `getYearBruteForce` find the same year.

Source: `src/server/asobj/Date.cpp`, lines 1354-1397.
-/

namespace Gnash.Date

/-! ### The model -/

/-- `daysSinceUTCForYear(year)` for a whole year: the days from 1 January 1970 to 1 January of
`year`. A quotient of whole numbers by at most 400 is whole or at least `1 / 400` from the
nearest integer, far more than a `double` of that size can be off, so the floors of the `double`
quotients are the floor divisions of the integers. -/
def daysSinceUTCForYear (year : Int) : Int :=
  365 * (year - 1970) + (year - 1969) / 4 - (year - 1901) / 100 + (year - 1601) / 400

/-- The `while (low < high)` loop of `getYearMathematical`, allowed `fuel` passes: the pivot is
the mean of the bracket truncated as C does; a pivot whose year holds `days` is returned, and
otherwise the bracket keeps the side that can hold it. -/
def yearsBisect : Nat → Int → Int → Int → Int
  | 0, low, _, _ => low
  | fuel + 1, low, high, days =>
    if low < high then
      let pivot := (low + high).tdiv 2
      if daysSinceUTCForYear pivot ≤ days then
        if daysSinceUTCForYear (pivot + 1) > days then pivot
        else yearsBisect fuel (pivot + 1) high days
      else yearsBisect fuel low (pivot - 1) days
    else low

/-- `getYearMathematical(days)` for a whole day count, the argument of its call: the year is
bracketed by the day count over 366 and over 365 days a year, rounded outward, and found by
`yearsBisect`, allowed as many passes as the bracket is wide. -/
def getYearMathematical (days : Int) : Int :=
  let low := (if days ≥ 0 then days / 366 else days / 365) + 1970
  let high := (if days ≥ 0 then -(-days / 365) else -(-days / 366)) + 1970
  yearsBisect (high - low).toNat low high days

/-! ### The bisection finds the year -/

theorem daysSinceUTCForYear_eq (year : Int) : daysSinceUTCForYear year = daysBeforeYear year := by
  unfold daysSinceUTCForYear daysBeforeYear
  omega

/-- A year starting no later than a day it does not end before is at most the year of that
day. -/
theorem le_of_daysBeforeYear_le {Y p days : Int} (hY : days < daysBeforeYear (Y + 1))
    (hp : daysBeforeYear p ≤ days) : p ≤ Y :=
  Int.not_lt.mp fun h => by
    have := daysBeforeYear_mono (show Y + 1 ≤ p by omega)
    omega

/-- A year ending after a day is at least the year of that day. -/
theorem le_of_lt_daysBeforeYear {Y p days : Int} (hY : daysBeforeYear Y ≤ days)
    (hp : days < daysBeforeYear (p + 1)) : Y ≤ p :=
  Int.not_lt.mp fun h => by
    have := daysBeforeYear_mono (show p + 1 ≤ Y by omega)
    omega

/-- The truncated mean of a bracket with `low < high` lies in it. -/
theorem tdiv_two_mem {low high : Int} (h : low < high) :
    low ≤ (low + high).tdiv 2 ∧ (low + high).tdiv 2 ≤ high := by
  rcases Int.le_total 0 (low + high) with h₀ | h₀
  · have := tdiv_tmod_of_nonneg h₀ (b := 2) (by decide)
    omega
  · have := tdiv_tmod_of_nonpos h₀ (b := 2) (by decide)
    omega

/-- The year `Y` of `days` stays in the bracket of `yearsBisect`, each pass narrowing it, and the
loop returns `Y` once it is allowed as many passes as the bracket is wide. -/
theorem yearsBisect_eq {Y days : Int} (hY : daysBeforeYear Y ≤ days)
    (hY' : days < daysBeforeYear (Y + 1)) :
    ∀ (fuel : Nat) (low high : Int), (high - low).toNat ≤ fuel → low ≤ Y → Y ≤ high →
      yearsBisect fuel low high days = Y := by
  intro fuel
  induction fuel with
  | zero =>
    intro low high hw hl hh
    show low = Y
    omega
  | succ fuel ih =>
    intro low high hw hl hh
    rw [yearsBisect]
    split
    · next hlt =>
      have hp := tdiv_two_mem hlt
      generalize (low + high).tdiv 2 = p at hp ⊢
      dsimp only
      rw [daysSinceUTCForYear_eq, daysSinceUTCForYear_eq]
      split
      · next hle =>
        have := le_of_daysBeforeYear_le hY' hle
        split
        · next hgt =>
          have := le_of_lt_daysBeforeYear hY hgt
          omega
        · next hgt =>
          -- the year after the pivot starts no later than `days`
          have := le_of_daysBeforeYear_le hY' (Int.not_lt.mp hgt)
          exact ih _ _ (by omega) (by omega) hh
      · next hgt =>
        -- the pivot starts after `days`
        have := le_of_lt_daysBeforeYear (p := p - 1) hY (by rw [Int.sub_add_cancel]; omega)
        exact ih _ _ (by omega) hl this
    · next hge =>
      omega

theorem daysBeforeYear_bounds_of_ge {Y : Int} (h : 1970 ≤ Y) :
    365 * (Y - 1970) ≤ daysBeforeYear Y ∧ daysBeforeYear Y ≤ 366 * (Y - 1970) := by
  unfold daysBeforeYear
  omega

theorem daysBeforeYear_bounds_of_le {Y : Int} (h : Y ≤ 1970) :
    366 * (Y - 1970) ≤ daysBeforeYear Y ∧ daysBeforeYear Y ≤ 365 * (Y - 1970) := by
  unfold daysBeforeYear
  omega

/-- The swfdec bisection and the brute-force loop of `fillGnashTime` find the same year for every
whole day count `days`, after 1970 as before it: the year of `days` lies in the bracket that
`getYearMathematical` starts from, and `yearsBisect` finds it there. -/
theorem getYearMathematical_eq (days : Int) :
    getYearMathematical days = (getYearBruteForce days).1 + 1900 := by
  obtain ⟨hd, hd₀, hdl⟩ :=
    getYearBruteForce_spec (y := (getYearBruteForce days).1) (d := (getYearBruteForce days).2) rfl
  generalize (getYearBruteForce days).1 + 1900 = Y at hd hdl ⊢
  have hY : daysBeforeYear Y ≤ days := by omega
  have hY' : days < daysBeforeYear (Y + 1) := by rw [daysBeforeYear_succ]; omega
  unfold getYearMathematical
  dsimp only
  by_cases hs : days ≥ 0
  · -- from 1970 on a year has 365 or 366 days
    have h70 : 1970 ≤ Y := le_of_daysBeforeYear_le hY' (by rw [daysBeforeYear_1970]; exact hs)
    have := (daysBeforeYear_bounds_of_ge h70).1
    have := (daysBeforeYear_bounds_of_ge (Y := Y + 1) (by omega)).2
    simp only [if_pos hs]
    exact yearsBisect_eq hY hY' _ _ _ (Nat.le_refl _) (by omega) (by omega)
  · have h69 : Y ≤ 1969 := le_of_lt_daysBeforeYear hY (by
      show days < daysBeforeYear 1970
      rw [daysBeforeYear_1970]
      omega)
    have := (daysBeforeYear_bounds_of_le (Y := Y) (by omega)).1
    have := (daysBeforeYear_bounds_of_le (Y := Y + 1) (by omega)).2
    simp only [if_neg hs]
    exact yearsBisect_eq hY hY' _ _ _ (Nat.le_refl _) (by omega) (by omega)

/-- Midnight on 1 January 2070 and the day before 1 January 1900. -/
example : getYearMathematical 36525 = 2070 ∧ getYearMathematical (-25568) = 1899 := by decide

end Gnash.Date

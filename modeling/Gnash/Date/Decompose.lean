import Gnash.Date.GnashTime

/-!
# `fillGnashTime` breaks a time value down

`fillGnashTime` cuts an integer time value into a day count and a time of day with the
truncating division of C, borrows for a negative time value, finds the year with
`getYearBruteForce` and the month with a scan of `daysInMonth`. What it should return is
`Gnash.Date.IsBrokenDown`: the date of the day `t / 86400000` (rounded down) after
1 January 1970 in the proleptic-Gregorian calendar, the time of day of what is left, and the day
of the week. A broken-down time of a time value is unique (`Gnash.Date.IsBrokenDown.unique`),
and `fillGnashTime` returns it for every integer time value.

## Main definitions

* `Gnash.Date.IsBrokenDown`.

## Main results

* `Gnash.Date.getYearBruteForce_correct` — `getYearBruteForce` stops on every day count, and
  every run of it returns the year and the day of the year of that day count.
* `Gnash.Date.yearLoops_stop_within_400` — after the jump over 400-year blocks each loop stops
  within 400 passes.
* `Gnash.Date.fillGnashTime_isBrokenDown`.
* `Gnash.Date.IsBrokenDown.unique`, and so `Gnash.Date.fillGnashTime_eq_of_isBrokenDown`.

Source: `src/server/asobj/Date.cpp`, lines 1421-1507.
-/

namespace Gnash.Date

/-! ### The year and month loops -/

/-- Every run of the forward loop from a nonnegative day keeps the day it stands for and stops
inside a year. -/
theorem YearsForwardRuns.spec {year days : Int} {r : Int × Int} (h : YearsForwardRuns year days r) :
    0 ≤ days → daysBeforeYear r.1 + r.2 = daysBeforeYear year + days ∧ 0 ≤ r.2 ∧
      r.2 < yearLength r.1 := by
  induction h with
  | stop h =>
    intro h0
    rw [yearDays_eq] at h
    exact ⟨rfl, h0, h⟩
  | @next year days r h _ ih =>
    intro h0
    rw [yearDays_eq] at h ih
    have := daysBeforeYear_succ year
    obtain ⟨e, hr⟩ := ih (by omega)
    exact ⟨by omega, hr⟩

/-- Every run of the backward loop from a negative day keeps the day it stands for and stops
inside a year. -/
theorem YearsBackwardRuns.spec {year days : Int} {r : Int × Int}
    (h : YearsBackwardRuns year days r) :
    days < 0 → daysBeforeYear r.1 + r.2 = daysBeforeYear year + days ∧ 0 ≤ r.2 ∧
      r.2 < yearLength r.1 := by
  have hsucc (year : Int) : daysBeforeYear year = daysBeforeYear (year - 1) + yearLength (year - 1) := by
    rw [← daysBeforeYear_succ, Int.sub_add_cancel]
  induction h with
  | @stop year days h =>
    intro h0
    rw [yearDays_eq] at h ⊢
    have := hsucc year
    dsimp only
    omega
  | @next year days r h _ ih =>
    intro _
    rw [yearDays_eq] at h ih
    have := hsucc year
    obtain ⟨e, hr⟩ := ih h
    exact ⟨by omega, hr⟩

/-- The fuelled forward loop, allowed as many passes as there are days, is a run of the loop:
each pass takes at least 365 days, so the loop stops by its own test. -/
theorem yearsForward_runs (fuel : Nat) : ∀ (year : Int) {days : Int}, 0 ≤ days → days.toNat ≤ fuel →
    YearsForwardRuns year days (yearsForward fuel year days) := by
  induction fuel with
  | zero =>
    intro year days _ hf
    have := yearLength_ge year
    exact .stop (by rw [yearDays_eq]; omega)
  | succ fuel ih =>
    intro year days _ hf
    rw [yearsForward]
    split
    · next h => exact .stop h
    · next h =>
      have := yearLength_ge year
      exact .next h (ih _ (by omega) (by rw [yearDays_eq] at h ⊢; omega))

/-- The fuelled backward loop, allowed as many passes as there are days below zero, is a run of
the loop. -/
theorem yearsBackward_runs (fuel : Nat) : ∀ (year : Int) {days : Int}, days < 0 → (-days).toNat ≤ fuel →
    YearsBackwardRuns year days (yearsBackward fuel year days) := by
  induction fuel with
  | zero => intro year days h0 hf; omega
  | succ fuel ih =>
    intro year days _ hf
    rw [yearsBackward]
    split
    · next h =>
      have := yearLength_ge (year - 1)
      exact .next h (ih _ h (by rw [yearDays_eq] at h ⊢; omega))
    · next h => exact .stop h

/-- The fuelled `getYearBruteForce` is a run of the source function, so that function stops. -/
theorem getYearBruteForce_runs (days : Int) : GetYearBruteForceRuns days (getYearBruteForce days) := by
  unfold GetYearBruteForceRuns getYearBruteForce
  dsimp only
  by_cases h : days.tmod 146097 ≥ 0
  · simp only [if_pos h]
    exact ⟨_, yearsForward_runs _ _ h (Nat.le_refl _), rfl⟩
  · simp only [if_neg h]
    exact ⟨_, yearsBackward_runs _ _ (by omega) (Nat.le_refl _), rfl⟩

/-- Every run of `getYearBruteForce` returns the year (since 1900) of the day `days` after
1 January 1970, and the day of that year: the 400-year blocks taken with the truncating division
hold `146097` days each, and the loop for the sign of the remainder finds the year within the
block or the one before it. -/
theorem GetYearBruteForceRuns.spec {days y d : Int} (h : GetYearBruteForceRuns days (y, d)) :
    daysBeforeYear (y + 1900) + d = days ∧ 0 ≤ d ∧ d < yearLength (y + 1900) := by
  obtain ⟨⟨y', d'⟩, hrun, he⟩ := h
  obtain ⟨rfl, rfl⟩ := Prod.mk.inj he
  have hsplit := Int.tmod_add_tdiv days 146097
  have hblock := daysBeforeYear_add_400 1970 (days.tdiv 146097)
  rw [daysBeforeYear_1970, Int.mul_comm] at hblock
  rw [Int.sub_add_cancel]
  split at hrun
  · next hpos => have := hrun.spec hpos; omega
  · next hneg => have := hrun.spec (by omega); omega

/-- `getYearBruteForce` stops on every day count, and each run of it returns the year `y` (since
1900) and the day `d` of that year of the day `days` after 1 January 1970: `d` lies in the year,
and the days from 1 January 1970 to 1 January of `y` (`daysBeforeYear`, 0 in 1970 and growing by
the length of each year) and `d` make `days`, before 1970 as after it. -/
theorem getYearBruteForce_correct (days : Int) :
    GetYearBruteForceRuns days (getYearBruteForce days) ∧
      ∀ y d, GetYearBruteForceRuns days (y, d) →
        daysBeforeYear (y + 1900) + d = days ∧ 0 ≤ d ∧ d < yearLength (y + 1900) :=
  ⟨getYearBruteForce_runs days, fun _ _ h => h.spec⟩

/-! ### How many passes the year loops make -/

theorem YearsForwardRuns.le_year {year days : Int} {r : Int × Int}
    (h : YearsForwardRuns year days r) : year ≤ r.1 := by
  induction h with
  | stop => exact Int.le_refl _
  | next _ _ ih => omega

theorem YearsBackwardRuns.year_lt {year days : Int} {r : Int × Int}
    (h : YearsBackwardRuns year days r) : r.1 < year := by
  induction h with
  | stop => dsimp only; omega
  | next _ _ ih => omega

/-- A pass of the forward loop moves the year by one, so the fuelled loop gives the result of a
run once it is allowed as many passes as the run moves the year. -/
theorem YearsForwardRuns.yearsForward_eq {year days : Int} {r : Int × Int}
    (h : YearsForwardRuns year days r) : ∀ fuel : Nat, r.1 - year ≤ fuel →
      yearsForward fuel year days = r := by
  induction h with
  | stop h =>
    intro fuel _
    cases fuel with
    | zero => rfl
    | succ fuel => rw [yearsForward, if_pos h]
  | @next year days r h rest ih =>
    intro fuel hf
    have := rest.le_year
    obtain ⟨fuel, rfl⟩ : ∃ k, fuel = k + 1 := ⟨fuel - 1, by omega⟩
    rw [yearsForward, if_neg h]
    exact ih fuel (by omega)

/-- A pass of the backward loop moves the year back by one, so the fuelled loop gives the result
of a run once it is allowed as many passes as the run moves the year. -/
theorem YearsBackwardRuns.yearsBackward_eq {year days : Int} {r : Int × Int}
    (h : YearsBackwardRuns year days r) : ∀ fuel : Nat, year - r.1 ≤ fuel →
      yearsBackward fuel year days = r := by
  induction h with
  | @stop year days h =>
    intro fuel hf
    obtain ⟨fuel, rfl⟩ : ∃ k, fuel = k + 1 := ⟨fuel - 1, by dsimp only at hf; omega⟩
    rw [yearsBackward, if_neg h]
  | @next year days r h rest ih =>
    intro fuel hf
    have := rest.year_lt
    obtain ⟨fuel, rfl⟩ : ∃ k, fuel = k + 1 := ⟨fuel - 1, by omega⟩
    rw [yearsBackward, if_pos h]
    exact ih fuel (by omega)

/-- From a day within the first 146097 of a 400-year block the forward loop stays in the block. -/
theorem YearsForwardRuns.year_lt_add_400 {year days : Int} {r : Int × Int}
    (h : YearsForwardRuns year days r) (h₀ : 0 ≤ days) (h₁ : days < 146097) :
    r.1 < year + 400 := by
  obtain ⟨e, hd, -⟩ := h.spec h₀
  have := daysBeforeYear_add_400 year 1
  refine Int.lt_of_not_ge fun hc => ?_
  have := daysBeforeYear_mono (show year + 400 * 1 ≤ r.1 by omega)
  omega

/-- From a day within the last 146097 before a 400-year block the backward loop stays in the
block before it. -/
theorem YearsBackwardRuns.sub_400_le_year {year days : Int} {r : Int × Int}
    (h : YearsBackwardRuns year days r) (h₀ : -146097 < days) (h₁ : days < 0) :
    year - 400 ≤ r.1 := by
  obtain ⟨e, -, hl⟩ := h.spec h₁
  have := daysBeforeYear_add_400 (year - 400) 1
  rw [show year - 400 + 400 * 1 = year by omega] at this
  refine Int.not_lt.mp fun hc => ?_
  have := daysBeforeYear_mono (show r.1 + 1 ≤ year - 400 by omega)
  have := daysBeforeYear_succ r.1
  omega

/-- The jump over 400-year blocks bounds the passes of the loops of `getYearBruteForce`: from a
remainder within a block, which C's `days % 146097` is, each loop stops within 400 passes, and
with only 400 passes allowed it returns what it returns with a pass for each day. -/
theorem yearLoops_stop_within_400 :
    (∀ year days : Int, 0 ≤ days → days < 146097 →
      yearsForward 400 year days = yearsForward days.toNat year days) ∧
    (∀ year days : Int, -146097 < days → days < 0 →
      yearsBackward 400 year days = yearsBackward (-days).toNat year days) := by
  constructor
  · intro year days h₀ h₁
    have h := yearsForward_runs days.toNat year h₀ (Nat.le_refl _)
    have := h.year_lt_add_400 h₀ h₁
    exact h.yearsForward_eq 400 (by omega)
  · intro year days h₀ h₁
    have h := yearsBackward_runs (-days).toNat year h₁ (Nat.le_refl _)
    have := h.sub_400_le_year h₀ h₁
    exact h.yearsBackward_eq 400 (by omega)

/-- The forward loop keeps the day it stands for and stops inside a year. -/
theorem yearsForward_spec (fuel : Nat) : ∀ {year days y d : Int}, 0 ≤ days → days.toNat ≤ fuel →
    yearsForward fuel year days = (y, d) →
      daysBeforeYear y + d = daysBeforeYear year + days ∧ 0 ≤ d ∧ d < yearLength y := by
  intro year days y d h0 hf h
  simpa only [h] using (yearsForward_runs fuel year h0 hf).spec h0

/-- The backward loop keeps the day it stands for and stops inside a year. -/
theorem yearsBackward_spec (fuel : Nat) : ∀ {year days y d : Int}, days < 0 → (-days).toNat ≤ fuel →
    yearsBackward fuel year days = (y, d) →
      daysBeforeYear y + d = daysBeforeYear year + days ∧ 0 ≤ d ∧ d < yearLength y := by
  intro year days y d h0 hf h
  simpa only [h] using (yearsBackward_runs fuel year h0 hf).spec h0

/-- `getYearBruteForce` returns the year (since 1900) of the day `days` after 1 January 1970,
and the day of that year. -/
theorem getYearBruteForce_spec {days y d : Int} (h : getYearBruteForce days = (y, d)) :
    daysBeforeYear (y + 1900) + d = days ∧ 0 ≤ d ∧ d < yearLength (y + 1900) :=
  (h ▸ getYearBruteForce_runs days).spec

/-- The month loop of `fillGnashTime` finds the month of a day of the year, and the day of that
month. -/
theorem findMonth_spec (leap : Bool) (n : Nat) : ∀ {i : Nat} {days m d : Int}, i + n = 12 →
    0 ≤ days → daysBeforeMonth leap i + days < daysBeforeMonth leap 12 →
    findMonth leap i days n = (m, d) →
    ∃ k : Nat, m = k ∧ k < 12 ∧ daysBeforeMonth leap k + d = daysBeforeMonth leap i + days ∧
      0 ≤ d ∧ d < monthLength leap k := by
  induction n with
  | zero => intro i days m d hi h0 hlt _; subst hi; omega
  | succ n ih =>
    intro i days m d hi h0 hlt h
    rw [findMonth, daysInMonth_eq leap i (by omega)] at h
    split at h
    · cases h; exact ⟨i, rfl, by omega, rfl, h0, by omega⟩
    · obtain ⟨k, hk, hk12, heq, hd⟩ :=
        ih (i := i + 1) (by omega) (by omega) (by rw [daysBeforeMonth_succ]; omega) h
      exact ⟨k, hk, hk12, by rw [heq, daysBeforeMonth_succ]; omega, hd⟩

/-- The date `fillGnashTime` finds for a day count: the year by `getYearBruteForce`, then the
month and the day of the month by the month loop. -/
theorem findDate_spec {d y dy m md : Int} (hy : getYearBruteForce d = (y, dy))
    (hm : findMonth (isLeapYear y) 0 dy 12 = (m, md)) :
    daysBeforeYear (y + 1900) + daysBeforeMonth (isLeap (y + 1900)) m.toNat + (md + 1) - 1 = d ∧
      0 ≤ m ∧ m < 12 ∧ 1 ≤ md + 1 ∧ md + 1 ≤ monthLength (isLeap (y + 1900)) m.toNat := by
  obtain ⟨hyd, hy0, hylt⟩ := getYearBruteForce_spec hy
  rw [isLeapYear_eq] at hm
  have h12 := daysBeforeMonth_twelve (y + 1900)
  obtain ⟨k, rfl, hk, hkd, hmd0, hmdlt⟩ := findMonth_spec _ 12 (i := 0) rfl hy0 (by
    rw [h12]; show (0 : Int) + dy < _; omega) hm
  simp only [Int.toNat_ofNat]
  have : daysBeforeMonth (isLeap (y + 1900)) 0 = 0 := rfl
  omega

/-! ### The time of day -/

/-- A borrow of the `time < 0` branch brings a field from `-c .. 0` into `0 .. c - 1`, keeping
the value of the two fields. -/
theorem borrow_true {c x y x' y' : Int} (hx : -c ≤ x) (hx' : x ≤ 0) (hc : 0 < c)
    (h : borrow true c x y = (x', y')) : 0 ≤ x' ∧ x' < c ∧ x' + c * y' = x + c * y := by
  unfold borrow at h
  by_cases hx0 : x < 0
  · rw [if_pos ⟨rfl, hx0⟩] at h
    cases h; rw [Int.mul_sub, Int.mul_one]; omega
  · rw [if_neg fun h' => hx0 h'.2] at h
    cases h; omega

/-- The weekday formula of `fillGnashTime` is the Euclidean remainder, 1 January 1970 being a
Thursday. -/
theorem weekday_eq (d : Int) :
    (if d ≥ -4 then (d + 4).tmod 7 else 6 - (-5 - d).tmod 7) = (d + 4) % 7 := by
  split
  · have := tdiv_tmod_of_nonneg (a := d + 4) (b := 7) (by omega) (by decide); omega
  · have := tdiv_tmod_of_nonneg (a := -5 - d) (b := 7) (by omega) (by decide); omega

/-- The fields the truncating divisions of `fillGnashTime` cut a time value into, before the
borrows: a day count and a time of day whose fields all have the sign of the time value. -/
theorem timeFields_spec (t : Int) :
    let q := t.tdiv 1000
    let rem := q.tmod 86400
    let r₁ := rem.tdiv 60
    let ms₀ := t.tmod 1000
    let sec₀ := rem.tmod 60
    let m₀ := r₁.tmod 60
    let h₀ := (r₁.tdiv 60).tmod 24
    t = 86400000 * q.tdiv 86400 + 3600000 * h₀ + 60000 * m₀ + 1000 * sec₀ + ms₀ ∧
    (0 ≤ t → 0 ≤ ms₀ ∧ ms₀ < 1000 ∧ 0 ≤ sec₀ ∧ sec₀ < 60 ∧ 0 ≤ m₀ ∧ m₀ < 60 ∧ 0 ≤ h₀ ∧ h₀ < 24) ∧
    (t < 0 → -1000 < ms₀ ∧ ms₀ ≤ 0 ∧ -60 < sec₀ ∧ sec₀ ≤ 0 ∧ -60 < m₀ ∧ m₀ ≤ 0 ∧
      -24 < h₀ ∧ h₀ ≤ 0) := by
  dsimp only
  by_cases ht : 0 ≤ t
  · have s₁ := tdiv_tmod_of_nonneg ht (b := 1000) (by decide)
    have s₂ := tdiv_tmod_of_nonneg s₁.2.2.2 (b := 86400) (by decide)
    have s₃ := tdiv_tmod_of_nonneg s₂.2.1 (b := 60) (by decide)
    have s₄ := tdiv_tmod_of_nonneg s₃.2.2.2 (b := 60) (by decide)
    have s₅ := tdiv_tmod_of_nonneg s₄.2.2.2 (b := 24) (by decide)
    exact ⟨by omega, fun _ => by omega, fun h => absurd ht (by omega)⟩
  · have s₁ := tdiv_tmod_of_nonpos (a := t) (by omega) (b := 1000) (by decide)
    have s₂ := tdiv_tmod_of_nonpos s₁.2.2.2 (b := 86400) (by decide)
    have s₃ := tdiv_tmod_of_nonpos s₂.2.2.1 (b := 60) (by decide)
    have s₄ := tdiv_tmod_of_nonpos s₃.2.2.2 (b := 60) (by decide)
    have s₅ := tdiv_tmod_of_nonpos s₄.2.2.2 (b := 24) (by decide)
    exact ⟨by omega, fun h => absurd h ht, fun _ => by omega⟩

/-- The four borrows of `fillGnashTime` bring a time of day whose fields have the sign of the
time value into range, the day count taking the last borrow. -/
theorem borrows_spec {t d₀ h₀ m₀ sec₀ ms₀ ms sec₁ sec m₁ mi h₁ hr d : Int}
    (ht : t = 86400000 * d₀ + 3600000 * h₀ + 60000 * m₀ + 1000 * sec₀ + ms₀)
    (hpos : 0 ≤ t → 0 ≤ ms₀ ∧ ms₀ < 1000 ∧ 0 ≤ sec₀ ∧ sec₀ < 60 ∧ 0 ≤ m₀ ∧ m₀ < 60 ∧
      0 ≤ h₀ ∧ h₀ < 24)
    (hneg : t < 0 → -1000 < ms₀ ∧ ms₀ ≤ 0 ∧ -60 < sec₀ ∧ sec₀ ≤ 0 ∧ -60 < m₀ ∧ m₀ ≤ 0 ∧
      -24 < h₀ ∧ h₀ ≤ 0)
    (hb₁ : borrow (decide (t < 0)) 1000 ms₀ sec₀ = (ms, sec₁))
    (hb₂ : borrow (decide (t < 0)) 60 sec₁ m₀ = (sec, m₁))
    (hb₃ : borrow (decide (t < 0)) 60 m₁ h₀ = (mi, h₁))
    (hb₄ : borrow (decide (t < 0)) 24 h₁ d₀ = (hr, d)) :
    t = 86400000 * d + (3600000 * hr + 60000 * mi + 1000 * sec + ms) ∧
      0 ≤ ms ∧ ms < 1000 ∧ 0 ≤ sec ∧ sec < 60 ∧ 0 ≤ mi ∧ mi < 60 ∧ 0 ≤ hr ∧ hr < 24 := by
  by_cases hlt : t < 0
  · rw [decide_eq_true hlt] at hb₁ hb₂ hb₃ hb₄
    have := hneg hlt
    clear hpos hneg
    have := borrow_true (by omega) (by omega) (by decide) hb₁
    have := borrow_true (by omega) (by omega) (by decide) hb₂
    have := borrow_true (by omega) (by omega) (by decide) hb₃
    have := borrow_true (by omega) (by omega) (by decide) hb₄
    omega
  · rw [decide_eq_false hlt] at hb₁ hb₂ hb₃ hb₄
    simp only [borrow_false, Prod.mk.injEq] at hb₁ hb₂ hb₃ hb₄
    obtain ⟨rfl, rfl⟩ := hb₁
    obtain ⟨rfl, rfl⟩ := hb₂
    obtain ⟨rfl, rfl⟩ := hb₃
    obtain ⟨rfl, rfl⟩ := hb₄
    have := hpos (by omega)
    clear hpos hneg
    omega

/-! ### Broken-down times -/

/-- `g` is the broken-down time of the time value `t` in the proleptic-Gregorian calendar: the
date of the day `t / 86400000` (rounded down) after 1 January 1970 and the time of day of what
is left, every field in its range, and the day of the week, 0 being Sunday. -/
structure IsBrokenDown (t : Int) (g : GnashTime) : Prop where
  date : daysBeforeYear (g.year + 1900) + daysBeforeMonth (isLeap (g.year + 1900)) g.month.toNat +
    g.monthday - 1 = t / 86400000
  month_nonneg : 0 ≤ g.month
  month_lt : g.month < 12
  monthday_pos : 1 ≤ g.monthday
  monthday_le : g.monthday ≤ monthLength (isLeap (g.year + 1900)) g.month.toNat
  time : g.hour * 3600000 + g.minute * 60000 + g.second * 1000 + g.millisecond = t % 86400000
  hour_nonneg : 0 ≤ g.hour
  hour_lt : g.hour < 24
  minute_nonneg : 0 ≤ g.minute
  minute_lt : g.minute < 60
  second_nonneg : 0 ≤ g.second
  second_lt : g.second < 60
  millisecond_nonneg : 0 ≤ g.millisecond
  millisecond_lt : g.millisecond < 1000
  weekday : g.weekday = (t / 86400000 + 4) % 7

/-- The calendar date of a broken-down time. -/
def IsBrokenDown.civilDate {t : Int} {g : GnashTime} (h : IsBrokenDown t g) : CivilDate :=
  ⟨g.year + 1900, g.month.toNat, g.monthday, by have := h.month_lt; omega, h.monthday_pos,
    h.monthday_le⟩

theorem IsBrokenDown.dayNumber_civilDate {t : Int} {g : GnashTime} (h : IsBrokenDown t g) :
    h.civilDate.dayNumber = t / 86400000 :=
  h.date

/-- A time value has one broken-down time. -/
theorem IsBrokenDown.unique {t : Int} {g g' : GnashTime} (h : IsBrokenDown t g)
    (h' : IsBrokenDown t g') : g = g' := by
  obtain ⟨hy, hm, hd⟩ := CivilDate.eq_of_dayNumber_eq
    (h.dayNumber_civilDate.trans h'.dayNumber_civilDate.symm)
  simp only [IsBrokenDown.civilDate] at hy hm hd
  have ht := h.time.trans h'.time.symm
  have := h.hour_lt; have := h.minute_lt; have := h.second_lt; have := h.millisecond_lt
  have := h'.hour_lt; have := h'.minute_lt; have := h'.second_lt; have := h'.millisecond_lt
  have := h.hour_nonneg; have := h.minute_nonneg; have := h.second_nonneg
  have := h.millisecond_nonneg
  have := h'.hour_nonneg; have := h'.minute_nonneg; have := h'.second_nonneg
  have := h'.millisecond_nonneg
  have := h.month_nonneg; have := h'.month_nonneg
  have hw := h.weekday.trans h'.weekday.symm
  cases g; cases g'
  simp only [GnashTime.mk.injEq] at *
  -- the time of day in milliseconds has one reading in hours, minutes, seconds and milliseconds
  refine ⟨?_, ?_, ?_, ?_, hd, hw, by omega, by omega⟩ <;> omega

/-- `fillGnashTime` breaks an integer time value down into its proleptic-Gregorian date and
time of day. -/
theorem fillGnashTime_isBrokenDown (t : Int) : IsBrokenDown t (fillGnashTime t) := by
  obtain ⟨ht, hpos, hneg⟩ := timeFields_spec t
  unfold fillGnashTime
  dsimp only
  generalize hb₁ : borrow _ 1000 _ _ = b₁; obtain ⟨ms, sec₁⟩ := b₁
  generalize hb₂ : borrow _ 60 sec₁ _ = b₂; obtain ⟨sec, m₁⟩ := b₂
  generalize hb₃ : borrow _ 60 m₁ _ = b₃; obtain ⟨mi, h₁⟩ := b₃
  generalize hb₄ : borrow _ 24 h₁ _ = b₄; obtain ⟨hr, d⟩ := b₄
  generalize hy : getYearBruteForce d = yd; obtain ⟨y, dy⟩ := yd
  generalize hm : findMonth _ 0 dy 12 = mm; obtain ⟨m, md⟩ := mm
  obtain ⟨htime, hms, hms', hsec, hsec', hmi, hmi', hhr, hhr'⟩ :=
    borrows_spec ht hpos hneg hb₁ hb₂ hb₃ hb₄
  have hd : t / 86400000 = d := by omega
  subst hd
  dsimp only
  obtain ⟨hdate, hm0, hm12, hmd, hmd'⟩ := findDate_spec hy hm
  rw [weekday_eq]
  exact ⟨hdate, hm0, hm12, hmd, hmd', by dsimp only; omega, hhr, hhr', hmi, hmi', hsec, hsec', hms, hms', rfl⟩

/-- Replacing the milliseconds of `t` since its last whole second (counted down) by `m` replaces
the millisecond of its broken-down time. -/
theorem IsBrokenDown.setMillisecond {t m : Int} {g : GnashTime} (h : IsBrokenDown t g)
    (hm : 0 ≤ m ∧ m ≤ 999) : IsBrokenDown (t - t % 1000 + m) { g with millisecond := m } := by
  have := h.time; have := h.millisecond_nonneg; have := h.millisecond_lt
  have hd : (t - t % 1000 + m) / 86400000 = t / 86400000 := by omega
  exact { h with
    date := by rw [hd]; exact h.date
    time := by dsimp only; omega
    millisecond_nonneg := hm.1
    millisecond_lt := by dsimp only; omega
    weekday := by rw [hd]; exact h.weekday }

/-- `fillGnashTime` returns the broken-down time of the time value, whatever else has it. -/
theorem fillGnashTime_eq_of_isBrokenDown {t : Int} {g : GnashTime} (h : IsBrokenDown t g) :
    fillGnashTime t = g :=
  (fillGnashTime_isBrokenDown t).unique h

/-- `fillGnashTime t` is the proleptic-Gregorian date of the day `t / 86400000` (rounded down)
after 1 January 1970, the time of day of the rest and the day of the week, for a negative time
value as for a positive one. -/
theorem fillGnashTime_calendar (t : Int) :
    (∃ c : CivilDate, c.dayNumber = t / 86400000 ∧ c.year = (fillGnashTime t).year + 1900 ∧
      (c.month : Int) = (fillGnashTime t).month ∧ c.day = (fillGnashTime t).monthday) ∧
    (fillGnashTime t).hour * 3600000 + (fillGnashTime t).minute * 60000 +
      (fillGnashTime t).second * 1000 + (fillGnashTime t).millisecond =
        t - t / 86400000 * 86400000 ∧
    0 ≤ (fillGnashTime t).hour ∧ (fillGnashTime t).hour ≤ 23 ∧
    0 ≤ (fillGnashTime t).minute ∧ (fillGnashTime t).minute ≤ 59 ∧
    0 ≤ (fillGnashTime t).second ∧ (fillGnashTime t).second ≤ 59 ∧
    0 ≤ (fillGnashTime t).millisecond ∧ (fillGnashTime t).millisecond ≤ 999 ∧
    (fillGnashTime t).weekday = (t / 86400000 + 4) % 7 := by
  have h := fillGnashTime_isBrokenDown t
  refine ⟨⟨h.civilDate, h.dayNumber_civilDate, rfl, Int.toNat_of_nonneg h.month_nonneg, rfl⟩,
    by rw [h.time]; omega, h.hour_nonneg, by have := h.hour_lt; omega, h.minute_nonneg,
    by have := h.minute_lt; omega, h.second_nonneg, by have := h.second_lt; omega,
    h.millisecond_nonneg, by have := h.millisecond_lt; omega, h.weekday⟩

example : fillGnashTime (-1) = ⟨999, 59, 59, 23, 31, 3, 11, 69⟩ := by decide

end Gnash.Date

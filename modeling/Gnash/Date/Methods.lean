import Gnash.Date.Compose
import Mathlib.Tactic.SplitIfs

/-!
# The methods of `Date`

The ActionScript methods of `Date.cpp` on the value of a `Date`, a `double`: the constructor
`date_new`, `Date.UTC` (`date_utc`), the setters that break the value down with
`fillGnashTime`, set some fields from their arguments and build the value back with
`makeTimeValue`, the setter of the milliseconds, which works on the value directly, and the
getters. Every method first rejects NaN and infinite arguments with `rogue_date_args`.

An argument is the number `as_value::to_number` returns (`Gnash.Date.Number`): a finite `double`,
`mantissa * 2 ^ exponent`, an infinity or NaN. The methods make an `int` of it in two ways: the
cast `(int) to_number()` truncates it (`Number.toInt`), and `to_int()` truncates it and wraps the
result to 32 bits (`Number.toInt32`); the two agree on the numbers whose truncation is an `int`.
The setters and getters break a finite value down as the integer it is truncated to: every value
that `makeTimeValue`, the setter of the milliseconds and `Date.UTC` give is an integer. The
results about them take the value in the range of ActionScript dates, `|t| ≤ 8.64e15`, where
`fillGnashTime` follows the source. The local and UTC forms of each setter and getter
are the same function of the source (`gnashTimeToDate` and `dateToGnashTime` ignore `utc`), so
each is modelled once.

The constructor and `Date.UTC` build the same broken-down time from arguments that are `int`s,
so they agree there except where the constructor replaces a time value of `-1`, the last
millisecond of 1969, by 0 (`Gnash.Date.dateNew_eq_dateUtc`). The setter of the milliseconds keeps the date for a
nonnegative value, but for a negative value that is not a whole second it sets the millisecond
of the next second (`Gnash.Date.dateSetmilliseconds_fillGnashTime`). The other setters change
the fields they set and keep the others, in the years where `COUNT_LEAP_YEARS` is right
(`Gnash.Date.setFields_fillGnashTime`); a day the new year or month does not have carries into
the next month, so that `setYear` moves 29 February to 1 March of a year without it, as the
comment of `date_setyear` says (`Gnash.Date.dateSetyear_carry`).

## Main definitions

* `Gnash.Date.Number`, `Gnash.Date.rogueDateArgs`.
* `Gnash.Date.dateNew`, `Gnash.Date.dateUtc`.
* `Gnash.Date.setFields` and its members `Gnash.Date.dateSetfullyear`, ...,
  `Gnash.Date.dateSetseconds`; `Gnash.Date.dateSetmonth`, `Gnash.Date.dateSetmilliseconds`.
* `Gnash.Date.dateGet` and its members.

## Main results

* `Gnash.Date.rogueDateArgs_neZero_eq_false` — the arguments pass `rogue_date_args` exactly when
  the ones it looks at are finite.
* `Gnash.Date.dateSetmonth_eq_setFields` — the checks `_date_setmonth` adds are never reached.
* `Gnash.Date.dateSetyear_carry` — `setYear` on a day the month does not have in the new year.

Source: `src/server/asobj/Date.cpp`, lines 354-1181.
-/

namespace Gnash.Date

/-! ### Numbers -/

/-- A finite `double`, `mantissa * 2 ^ exponent`. -/
structure Double where
  mantissa : Int
  exponent : Int
  deriving DecidableEq, Repr

namespace Double

/-- The integer `n` as a `double`. -/
def ofInt (n : Int) : Double := ⟨n, 0⟩

/-- `x / d` rounded toward zero, for a positive integer `d`. -/
def truncDiv (x : Double) (d : Int) : Int :=
  if 0 ≤ x.exponent then (x.mantissa * ((2 ^ x.exponent.toNat : Nat) : Int)).tdiv d
  else x.mantissa.tdiv (d * ((2 ^ (-x.exponent).toNat : Nat) : Int))

/-- The cast of a `double` to `int`: truncation toward zero. -/
def truncate (x : Double) : Int := x.truncDiv 1

@[simp] theorem truncDiv_ofInt (n d : Int) : (ofInt n).truncDiv d = n.tdiv d := by
  simp [truncDiv, ofInt]

@[simp] theorem truncate_ofInt (n : Int) : (ofInt n).truncate = n := by
  simp [truncate]

end Double

/-- A number as `as_value::to_number` returns it. -/
inductive Number where
  | finite (x : Double)
  | infinity (positive : Bool)
  | nan
  deriving DecidableEq, Repr

namespace Number

/-- The integer `n` as a number. -/
def ofInt (n : Int) : Number := finite (Double.ofInt n)

def isFinite : Number → Bool
  | finite _ => true
  | _ => false

/-- `x != 0.0`, which NaN is. -/
def neZero : Number → Bool
  | finite x => x.mantissa != 0
  | _ => true

/-- The cast `(int) to_number()` of a finite number: the truncation toward zero. C leaves the cast
of a number outside the `int` range undefined; the truncation is kept there. No method casts an
infinity or NaN: each has rejected them with `rogue_date_args`. -/
def toInt : Number → Int
  | finite x => x.truncate
  | _ => 0

@[simp] theorem toInt_ofInt (n : Int) : (ofInt n).toInt = n := by
  simp [ofInt, toInt]

/-- `as_value::to_int()` of a finite number, ActionScript's conversion to a 32-bit integer: the
truncation toward zero, wrapped to 32 bits (`as_value.cpp` is not among the sources). -/
def toInt32 : Number → Int
  | finite x => (x.truncate + 2147483648) % 4294967296 - 2147483648
  | _ => 0

/-- On a finite number whose truncation is an `int`, `to_int()` is the cast. -/
theorem toInt32_eq_toInt {a : Number} (hf : a.isFinite) (h₁ : -2147483648 ≤ a.toInt)
    (h₂ : a.toInt < 2147483648) : a.toInt32 = a.toInt := by
  cases a with
  | finite x => simp only [toInt32, toInt] at h₁ h₂ ⊢; omega
  | _ => cases hf

theorem toInt32_ofInt {n : Int} (h₁ : -2147483648 ≤ n) (h₂ : n < 2147483648) :
    (ofInt n).toInt32 = n := by
  simp only [ofInt, toInt32, Double.truncate_ofInt]; omega

end Number

/-- `rogue_date_args(fn, maxargs)` on the first `maxargs` arguments: NaN if one is NaN or if both
infinities are there, the infinity if one kind is, and `0.0` if they are all finite. -/
def rogueDateArgs (args : List Number) (maxargs : Nat) : Number :=
  let args := args.take maxargs
  if args.contains .nan then .nan
  else
    let plusinf := args.contains (.infinity true)
    let minusinf := args.contains (.infinity false)
    if plusinf && minusinf then .nan
    else if plusinf then .infinity true
    else if minusinf then .infinity false
    else .ofInt 0

theorem forall_isFinite_iff (l : List Number) :
    (∀ a ∈ l, a.isFinite) ↔ .nan ∉ l ∧ .infinity true ∉ l ∧ .infinity false ∉ l := by
  constructor
  · intro h
    exact ⟨fun hm => absurd (h _ hm) (by decide), fun hm => absurd (h _ hm) (by decide),
      fun hm => absurd (h _ hm) (by decide)⟩
  · rintro ⟨hn, ht, hf⟩ (_ | ⟨_ | _⟩ | _) hm
    · rfl
    · exact absurd hm hf
    · exact absurd hm ht
    · exact absurd hm hn

/-- The arguments pass `rogue_date_args` exactly when the ones it looks at are finite. -/
theorem rogueDateArgs_neZero_eq_false (args : List Number) (maxargs : Nat) :
    (rogueDateArgs args maxargs).neZero = false ↔ ∀ a ∈ args.take maxargs, a.isFinite := by
  rw [forall_isFinite_iff]
  unfold rogueDateArgs
  simp only [List.contains, List.elem_eq_mem]
  split_ifs <;> simp_all [Number.neZero, Number.ofInt, Double.ofInt]

/-- The argument `i` cast to `int` if there is one, `d` otherwise. -/
def argOr (args : List Number) (i : Nat) (d : Int) : Int :=
  if i < args.length then (args.getD i .nan).toInt else d

/-- The argument `i` converted by `to_int()` if there is one, `d` otherwise. -/
def argOrInt32 (args : List Number) (i : Nat) (d : Int) : Int :=
  if i < args.length then (args.getD i .nan).toInt32 else d

/-- On arguments whose first `n` are finite `int`s, the two conversions agree on each of them. -/
theorem toInt32_getD_eq {args : List Number} {n i : Nat}
    (h : ∀ a ∈ args.take n, a.isFinite ∧ -2147483648 ≤ a.toInt ∧ a.toInt < 2147483648)
    (hi : i < n) (hl : i < args.length) :
    (args.getD i .nan).toInt32 = (args.getD i .nan).toInt := by
  have hm : args.getD i .nan ∈ args.take n := by
    rw [List.getD_eq_getElem?_getD, List.getElem?_eq_getElem hl, Option.getD_some]
    exact List.mem_iff_getElem.mpr ⟨i, by simp; omega, by simp⟩
  obtain ⟨hf, h₁, h₂⟩ := h _ hm
  exact Number.toInt32_eq_toInt hf h₁ h₂

theorem argOrInt32_eq_argOr {args : List Number} {n i : Nat}
    (h : ∀ a ∈ args.take n, a.isFinite ∧ -2147483648 ≤ a.toInt ∧ a.toInt < 2147483648)
    (hi : i < n) (d : Int) : argOrInt32 args i d = argOr args i d := by
  unfold argOrInt32 argOr
  split
  · exact toInt32_getD_eq h hi ‹_›
  · rfl

/-! ### The constructor and `Date.UTC` -/

/-- `date_new`, the constructor, gives the value of the new `Date`. A NaN or infinite argument
among the first seven makes it NaN or that infinity. With no argument it is the clock, `ticks`,
with one the argument. From two arguments on they are the year (0 to 99 for 1900 to 1999), the
month, and, if given, the day of the month, the hour, the minute, the second and the millisecond,
each cast to `int`; `makeTimeValue` builds the value, and a value of `-1` is replaced by 0. The
day of the week is never read and left unset by the source; it is 0 here. -/
def dateNew (ticks : Number) (args : List Number) : Number :=
  let foo := rogueDateArgs args 7
  if foo.neZero then foo
  else match args with
    | [] => ticks
    | [arg0] => arg0
    | arg0 :: arg1 :: _ =>
      let year := arg0.toInt
      let gt : GnashTime :=
        { millisecond := argOr args 6 0
          second := argOr args 5 0
          minute := argOr args 4 0
          hour := argOr args 3 0
          monthday := argOr args 2 1
          weekday := 0
          month := arg1.toInt
          year := if year < 100 then year else year - 1900 }
      let val := makeTimeValue gt
      if val = -1 then .ofInt 0 else .ofInt val

/-- `date_utc`, `Date.UTC`: `undefined` (`none`) for fewer than two arguments, NaN for a NaN or
infinite one among the first seven, and otherwise the time value `makeTimeValue` builds from the
arguments as the constructor reads them, except that the month to the millisecond are converted
by `to_int()`. -/
def dateUtc (args : List Number) : Option Number :=
  if args.length < 2 then none
  else if (rogueDateArgs args 7).neZero then some .nan
  else
    let gt : GnashTime :=
      { millisecond := argOrInt32 args 6 0
        second := argOrInt32 args 5 0
        minute := argOrInt32 args 4 0
        hour := argOrInt32 args 3 0
        monthday := argOrInt32 args 2 1
        weekday := 0
        month := (args.getD 1 .nan).toInt32
        year :=
          let year := (args.getD 0 .nan).toInt
          if year < 100 then year else year - 1900 }
    some (.ofInt (makeTimeValue gt))

/-! ### The setters -/

/-- The body of the setters that break the date down: NaN without an argument or with a NaN or
infinite one among the first `maxargs`; otherwise the value is broken down, `update` sets the
fields from the arguments and `makeTimeValue` builds the new value. A NaN or infinite value would
be broken down by casts of NaN to `int`, which C leaves undefined; it stays NaN here. -/
def setFields (maxargs : Nat) (update : List Number → GnashTime → GnashTime) (value : Number)
    (args : List Number) : Number :=
  if args.length < 1 then .nan
  else if (rogueDateArgs args maxargs).neZero then .nan
  else match value with
    | .finite x => .ofInt (makeTimeValue (update args (fillGnashTime x.truncate)))
    | _ => .nan

/-- `_date_setfullyear`: the full year, and optionally the month and the day of the month. -/
def dateSetfullyear : Number → List Number → Number :=
  setFields 3 fun args gt =>
    { gt with
      year := (args.getD 0 .nan).toInt - 1900
      month := argOr args 1 gt.month
      monthday := argOr args 2 gt.monthday }

/-- `date_setyear`: the year, 1900 to 1999 for 0 to 99, and optionally the month and the day of
the month, these two converted by `to_int()`. -/
def dateSetyear : Number → List Number → Number :=
  setFields 3 fun args gt =>
    let year := (args.getD 0 .nan).toInt
    { gt with
      year := if year ≥ 100 then year - 1900 else year
      month := argOrInt32 args 1 gt.month
      monthday := argOrInt32 args 2 gt.monthday }

/-- `_date_setdate`: the day of the month, converted by `to_int()`. -/
def dateSetdate : Number → List Number → Number :=
  setFields 1 fun args gt => { gt with monthday := (args.getD 0 .nan).toInt32 }

/-- `_date_sethours`: the hour, and optionally the minute, the second and the millisecond, all
converted by `to_int()`. -/
def dateSethours : Number → List Number → Number :=
  setFields 4 fun args gt =>
    { gt with
      hour := (args.getD 0 .nan).toInt32
      minute := argOrInt32 args 1 gt.minute
      second := argOrInt32 args 2 gt.second
      millisecond := argOrInt32 args 3 gt.millisecond }

/-- `_date_setminutes`: the minute, and optionally the second and the millisecond. -/
def dateSetminutes : Number → List Number → Number :=
  setFields 3 fun args gt =>
    { gt with
      minute := (args.getD 0 .nan).toInt
      second := argOr args 1 gt.second
      millisecond := argOr args 2 gt.millisecond }

/-- `_date_setseconds`: the second, and optionally the millisecond, converted by `to_int()`. -/
def dateSetseconds : Number → List Number → Number :=
  setFields 2 fun args gt =>
    { gt with
      second := (args.getD 0 .nan).toInt32
      millisecond := argOrInt32 args 1 gt.millisecond }

/-- `_date_setmonth`: the month, and optionally the day of the month. Unlike the other setters it
takes a NaN or infinite month for January and a NaN or infinite day for a NaN value. -/
def dateSetmonth (value : Number) (args : List Number) : Number :=
  if args.length < 1 then .nan
  else if (rogueDateArgs args 2).neZero then .nan
  else match value with
    | .finite x =>
      let gt := fillGnashTime x.truncate
      let monthvalue := args.getD 0 .nan
      let monthvalue := if monthvalue.isFinite then monthvalue else .ofInt 0
      let gt := { gt with month := monthvalue.toInt }
      if 2 ≤ args.length then
        let mdayvalue := args.getD 1 .nan
        if mdayvalue.isFinite then .ofInt (makeTimeValue { gt with monthday := mdayvalue.toInt })
        else .nan
      else .ofInt (makeTimeValue gt)
    | _ => .nan

/-- `date_setmilliseconds`: `value - fmod(value, 1000.0) + millisecond.to_int()`, without breaking
the date down. `value - fmod(value, 1000.0)` is the value truncated to a multiple of 1000, rounded
to a `double`; NaN and the infinities give NaN. -/
def dateSetmilliseconds (value : Number) (args : List Number) : Number :=
  if args.length < 1 then .nan
  else if (rogueDateArgs args 1).neZero then .nan
  else match value with
    | .finite x =>
      .ofInt (roundToDouble (roundToDouble (1000 * x.truncDiv 1000) + (args.getD 0 .nan).toInt32))
    | _ => .nan

theorem rogueDateArgs_ofInt (ns : List Int) (maxargs : Nat) :
    (rogueDateArgs (ns.map Number.ofInt) maxargs).neZero = false :=
  (rogueDateArgs_neZero_eq_false _ _).mpr fun a ha => by
    obtain ⟨n, -, rfl⟩ := List.mem_map.mp (List.mem_of_mem_take ha)
    rfl

/-- The checks `_date_setmonth` adds to the other setters are never reached: `rogue_date_args`
has rejected a NaN or infinite month or day already. -/
theorem dateSetmonth_eq_setFields :
    dateSetmonth = setFields 2 fun args gt =>
      { gt with month := (args.getD 0 .nan).toInt, monthday := argOr args 1 gt.monthday } := by
  funext value args
  unfold dateSetmonth setFields
  split
  · rfl
  split
  · rfl
  next h₁ h₂ =>
  have hf := (rogueDateArgs_neZero_eq_false args 2).mp (by simpa using h₂)
  cases value with
  | finite x =>
    match args, h₁, hf with
    | [a0], _, hf => simp [hf a0 (by simp), argOr]
    | a0 :: a1 :: rest, _, hf => simp [hf a0 (by simp), hf a1 (by simp), argOr]
  | infinity _ => rfl
  | nan => rfl

/-- `date_setmilliseconds` on an integer value and an `int` argument. -/
theorem dateSetmilliseconds_ofInt (t : Int) {m : Int} (h₁ : -2147483648 ≤ m) (h₂ : m < 2147483648) :
    dateSetmilliseconds (.ofInt t) [.ofInt m] =
      .ofInt (roundToDouble (roundToDouble (1000 * t.tdiv 1000) + m)) := by
  have := rogueDateArgs_ofInt [m] 1
  unfold dateSetmilliseconds
  rw [List.map_singleton] at this
  rw [this, if_neg (by simp), if_neg (by decide), List.getD_cons_zero, Number.toInt32_ofInt h₁ h₂]
  simp only [Number.ofInt, Double.truncDiv_ofInt]

/-- `date_setmilliseconds` on an integer value sets the millisecond in the second the value is
in, counted from zero toward the value: for a negative value that is not a whole second, that is
the second after the one the value is in. -/
theorem dateSetmilliseconds_fillGnashTime (t m : Int) (h₁ : -8640000000000000 ≤ t)
    (h₂ : t ≤ 8640000000000000) (hm : 0 ≤ m ∧ m ≤ 999) :
    dateSetmilliseconds (.ofInt t) [.ofInt m] = .ofInt (t - t.tmod 1000 + m) ∧
      fillGnashTime (t - t.tmod 1000 + m) =
        { fillGnashTime (if t < 0 ∧ t % 1000 ≠ 0 then t + 1000 else t) with millisecond := m } := by
  have hs : 1000 * t.tdiv 1000 + t.tmod 1000 = t ∧ -1000 < t.tmod 1000 ∧ t.tmod 1000 < 1000 ∧
      (t < 0 → t.tmod 1000 ≤ 0) ∧ (0 ≤ t → 0 ≤ t.tmod 1000) := by
    rcases Int.le_total 0 t with h | h
    · have := tdiv_tmod_of_nonneg h (b := 1000) (by decide); omega
    · have := tdiv_tmod_of_nonpos h (b := 1000) (by decide); omega
  constructor
  · rw [dateSetmilliseconds_ofInt t (by omega) (by omega),
      roundToDouble_eq (x := 1000 * t.tdiv 1000) (by omega) (by omega),
      roundToDouble_eq (by omega) (by omega)]
    congr 2; omega
  · have hv : t - t.tmod 1000 = (if t < 0 ∧ t % 1000 ≠ 0 then t + 1000 else t) -
        (if t < 0 ∧ t % 1000 ≠ 0 then t + 1000 else t) % 1000 := by
      split <;> omega
    rw [hv]
    exact fillGnashTime_eq_of_isBrokenDown ((fillGnashTime_isBrokenDown _).setMillisecond hm)

theorem dateSetmilliseconds_before_1970 :
    dateSetmilliseconds (.ofInt (-1500)) [.ofInt 250] = .ofInt (-750) ∧
      fillGnashTime (-750) = { fillGnashTime (-500) with millisecond := 250 } :=
  dateSetmilliseconds_fillGnashTime (-1500) 250 (by decide) (by decide) (by decide)

/-- For a value of `-1`, the last millisecond of 1969, setting the millisecond to 0 gives the
first millisecond of 1970. -/
theorem dateSetmilliseconds_minus_one :
    dateSetmilliseconds (.ofInt (-1)) [.ofInt 0] = .ofInt 0 ∧
      (fillGnashTime 0).year = 70 ∧ (fillGnashTime (-1)).year = 69 := by
  decide

/-- A setter that breaks an integer value in the range of ActionScript dates down, with arguments
that pass `rogue_date_args` and leave the broken-down time in range in a year where
`COUNT_LEAP_YEARS` is right, gives the value that breaks down into the broken-down time it built:
every getter reads the fields it set and the fields it kept. -/
theorem setFields_fillGnashTime (maxargs : Nat) (update : List Number → GnashTime → GnashTime)
    (t : Int) (ht₁ : -8640000000000000 ≤ t) (ht₂ : t ≤ 8640000000000000) (args : List Number)
    (hargs : args ≠ [])
    (hf : ∀ a ∈ args.take maxargs, a.isFinite) (hc : IsCanonical (update args (fillGnashTime t)))
    (he : leapCountError ((update args (fillGnashTime t)).year + 1900) = 0) :
    let gt := update args (fillGnashTime t)
    setFields maxargs update (.ofInt t) args = .ofInt (makeTimeValue gt) ∧
      fillGnashTime (makeTimeValue gt) =
        { gt with weekday := (makeTimeValue gt / 86400000 + 4) % 7 } := by
  refine ⟨?_, fillGnashTime_eq_of_isBrokenDown (isBrokenDown_makeTimeValue _ hc he)⟩
  have hr := (rogueDateArgs_neZero_eq_false args maxargs).mpr hf
  have hl : ¬args.length < 1 := by cases args <;> simp_all
  simp only [setFields, hl, hr, if_false, Number.ofInt, Double.truncate_ofInt]
  rfl

theorem dateSethours_noon :
    dateSethours (.ofInt 0) [.ofInt 12] = .ofInt 43200000 ∧
      fillGnashTime 43200000 = ⟨0, 0, 0, 12, 1, 4, 0, 70⟩ :=
  setFields_fillGnashTime 4 _ 0 (by decide) (by decide) [.ofInt 12] (by decide) (by decide)
    (by decide) (by decide)

/-- A setter given integer arguments on an integer value builds the value from the broken-down
value its update gives. -/
theorem setFields_ofInt (maxargs : Nat) (update : List Number → GnashTime → GnashTime) (t : Int)
    (ns : List Int) (hns : ns ≠ []) :
    setFields maxargs update (.ofInt t) (ns.map .ofInt) =
      .ofInt (makeTimeValue (update (ns.map .ofInt) (fillGnashTime t))) := by
  simp [setFields, hns, rogueDateArgs_ofInt, Number.ofInt]

/-- `date_setyear` with an integer year and, if given, an `int` month, on an integer value. -/
theorem dateSetyear_ofInt (t year : Int) {month : Option Int}
    (hm : ∀ m ∈ month, -2147483648 ≤ m ∧ m < 2147483648) :
    dateSetyear (.ofInt t) (.ofInt year :: (month.map .ofInt).toList) =
      .ofInt (makeTimeValue { fillGnashTime t with
        year := if year ≥ 100 then year - 1900 else year
        month := month.getD (fillGnashTime t).month }) := by
  rw [dateSetyear, show Number.ofInt year :: (month.map Number.ofInt).toList =
    (year :: month.toList).map Number.ofInt by cases month <;> rfl,
    setFields_ofInt _ _ _ _ (List.cons_ne_nil _ _)]
  cases month with
  | none => simp [argOrInt32]
  | some m => simp [argOrInt32, Number.toInt32_ofInt (hm m rfl).1 (hm m rfl).2]

/-- `date_get_proto(function, timefn, element)`: NaN for a NaN or infinite value, otherwise the
field `element` of the broken-down value. -/
def dateGet (element : GnashTime → Int) : Number → Number
  | .finite x => .ofInt (element (fillGnashTime x.truncate))
  | _ => .nan

def dateGetyear : Number → Number := dateGet (·.year)
def dateGetfullyear : Number → Number := dateGet (·.year + 1900)
def dateGetmonth : Number → Number := dateGet (·.month)
def dateGetdate : Number → Number := dateGet (·.monthday)
def dateGetday : Number → Number := dateGet (·.weekday)
def dateGethours : Number → Number := dateGet (·.hour)
def dateGetminutes : Number → Number := dateGet (·.minute)
def dateGetseconds : Number → Number := dateGet (·.second)
def dateGetmilliseconds : Number → Number := dateGet (·.millisecond)

/-! ### `toString` -/

/-- `names[i]` of a C array of names, `none` for an index outside it, where C reads outside the
array. -/
def nameAt (l : List String) (i : Int) : Option String :=
  if 0 ≤ i then l.get? i.toNat else none

theorem nameAt_isSome {l : List String} {i : Int} (h₀ : 0 ≤ i) (h₁ : i < l.length) :
    ∃ s, nameAt l i = some s := by
  unfold nameAt
  rw [if_pos h₀, List.get?_eq_getElem? l i.toNat, List.getElem?_eq_getElem (by omega)]
  exact ⟨_, rfl⟩

/-- `printf`'s `%02d`: a nonnegative number of one digit is padded with a zero. -/
def formatD02 (n : Int) : String :=
  if 0 ≤ n ∧ n < 10 then "0" ++ toString n else toString n

/-- `printf`'s `%+03d`: the sign always, then at least two digits. -/
def formatSignedD03 (n : Int) : String :=
  (if n < 0 then "-" else "+") ++ formatD02 n.natAbs

/-- `date_as_object::toString`, which `Date.toString` returns: `"Invalid Date"` for NaN and the
infinities; otherwise the value broken down by `getLocalTime` (`fillGnashTime`, no time zone
being applied) and printed as `"%s %s %d %02d:%02d:%02d GMT%+03d%02d %d"`, with the names of
the day of the week and of the month and the offset `tzhours`, `tzminutes` left at 0. `none`
stands for a day of the week or a month outside the tables of names. -/
def dateToString (value : Number) : Option String :=
  let monthname := ["Jan", "Feb", "Mar", "Apr", "May", "Jun", "Jul", "Aug", "Sep", "Oct", "Nov",
    "Dec"]
  let dayweekname := ["Sun", "Mon", "Tue", "Wed", "Thu", "Fri", "Sat"]
  match value with
  | .finite x => do
    let gt := fillGnashTime x.truncate
    let tzhours : Int := 0
    let tzminutes : Int := 0
    let day ← nameAt dayweekname gt.weekday
    let month ← nameAt monthname gt.month
    pure (day ++ " " ++ month ++ " " ++ toString gt.monthday ++ " " ++ formatD02 gt.hour ++ ":" ++
      formatD02 gt.minute ++ ":" ++ formatD02 gt.second ++ " GMT" ++ formatSignedD03 tzhours ++
      formatD02 tzminutes ++ " " ++ toString (gt.year + 1900))
  | _ => some "Invalid Date"

/-- `toString` reads its tables of names inside their bounds for every finite value in the range
of ActionScript dates: the month that `fillGnashTime` gives is in `0 .. 11` and its day of the
week in `0 .. 6`, before 1970 as after it. (Far beyond the range, from about `1.855e17`, the
source's `int32` day count and `days + 4` overflow, which the model does not follow.) -/
theorem exists_dateToString_finite (x : Double) (h₁ : -8640000000000000 ≤ x.truncate)
    (h₂ : x.truncate ≤ 8640000000000000) : ∃ s, dateToString (.finite x) = some s := by
  have h := fillGnashTime_isBrokenDown x.truncate
  have hw := h.weekday
  have hm := h.month_lt
  obtain ⟨day, hday⟩ := nameAt_isSome (l := ["Sun", "Mon", "Tue", "Wed", "Thu", "Fri", "Sat"])
    (i := (fillGnashTime x.truncate).weekday) (by omega) (by show _ < ((7 : Nat) : Int); omega)
  obtain ⟨month, hmonth⟩ := nameAt_isSome (l := ["Jan", "Feb", "Mar", "Apr", "May", "Jun", "Jul",
    "Aug", "Sep", "Oct", "Nov", "Dec"]) h.month_nonneg (by show _ < ((12 : Nat) : Int); omega)
  simp only [dateToString, hday, hmonth, Option.bind_eq_bind, Option.some_bind]
  exact ⟨_, rfl⟩

/-- The last millisecond of the range of ActionScript dates. -/
theorem exists_dateToString_last :
    -8640000000000000 ≤ (Double.ofInt 8640000000000000).truncate ∧
      (Double.ofInt 8640000000000000).truncate ≤ 8640000000000000 ∧
      ∃ s, dateToString (.finite (Double.ofInt 8640000000000000)) = some s :=
  ⟨by decide, by decide, exists_dateToString_finite _ (by decide) (by decide)⟩

example : dateToString (.ofInt 0) = some "Thu Jan 1 00:00:00 GMT+0000 1970" := by decide

example : dateToString (.ofInt (-1)) = some "Wed Dec 31 23:59:59 GMT+0000 1969" := by decide

/-- The constructor and `Date.UTC` read the same broken-down time from two or more finite
arguments whose truncations are `int`s, where the cast and `to_int()` agree; the constructor
differs only in replacing a time value of `-1` by 0. -/
theorem dateNew_eq_dateUtc (ticks : Number) (args : List Number) (h2 : 2 ≤ args.length)
    (hf : ∀ a ∈ args.take 7, a.isFinite ∧ -2147483648 ≤ a.toInt ∧ a.toInt < 2147483648) :
    ∃ v, dateUtc args = some (.ofInt v) ∧ dateNew ticks args = .ofInt (if v = -1 then 0 else v) := by
  have hr := (rogueDateArgs_neZero_eq_false args 7).mpr fun a ha => (hf a ha).1
  have hmonth := toInt32_getD_eq hf (show 1 < 7 by decide) (by omega)
  match args, h2 with
  | a0 :: a1 :: rest, _ =>
    have hl : ¬(a0 :: a1 :: rest).length < 2 := by simp
    simp only [dateUtc, dateNew, hl, hr, Bool.false_eq_true, if_false, hmonth,
      argOrInt32_eq_argOr hf (show 6 < 7 by decide), argOrInt32_eq_argOr hf (show 5 < 7 by decide),
      argOrInt32_eq_argOr hf (show 4 < 7 by decide), argOrInt32_eq_argOr hf (show 3 < 7 by decide),
      argOrInt32_eq_argOr hf (show 2 < 7 by decide)]
    exact ⟨_, rfl, (apply_ite Number.ofInt _ _ _).symm⟩

theorem dateNew_leap_day :
    (∀ a ∈ ([2000, 1, 29].map Number.ofInt).take 7,
      a.isFinite ∧ -2147483648 ≤ a.toInt ∧ a.toInt < 2147483648) ∧
    ∃ v, dateUtc ([2000, 1, 29].map Number.ofInt) = some (.ofInt v) ∧
      dateNew (.ofInt 0) ([2000, 1, 29].map Number.ofInt) = .ofInt (if v = -1 then 0 else v) :=
  ⟨by decide, dateNew_eq_dateUtc _ _ (by decide) (by decide)⟩

/-- The constructor with the arguments of the last millisecond of 1969 gives 0, where `Date.UTC`
gives `-1`. -/
theorem dateNew_1969 :
    dateNew (.ofInt 0) ([1969, 11, 31, 23, 59, 59, 999].map Number.ofInt) = .ofInt 0 ∧
      dateUtc ([1969, 11, 31, 23, 59, 59, 999].map Number.ofInt) = some (.ofInt (-1)) := by
  decide

end Gnash.Date

import Mathlib.Tactic.ByContra
import Varmlen.Foundation.Calendar

/-!
# Dates of timestamps

The date that is printed for a timestamp (`date` and `civil_from_days` in
`cli/src/display.rs`).  The day number is split into periods of 400 years, years that begin
in March and months; every operation is one on 64-bit numbers and might overflow.
-/

namespace Varmlen.Cli

open Foundation.Calendar

/-- The result of an operation on `i64`; `none` when it overflows. -/
def i64 (value : Int) : Option Int :=
  if -9223372036854775808 ≤ value ∧ value ≤ 9223372036854775807 then some value else none

/-- `value as u32`. -/
def asU32 (value : Int) : Nat := (value % 4294967296).toNat

/-- `if shifted >= 0 { shifted } else { shifted - 146_096 } / 146_097`. -/
def eraOf (shifted : Int) : Option Int := do
  let dividend ← if 0 ≤ shifted then some shifted else i64 (shifted - 146096)
  return dividend.tdiv 146097

/-- `(day_of_era - day_of_era / 1460 + day_of_era / 36_524 - day_of_era / 146_096) / 365`. -/
def yearOfEra (dayOfEra : Int) : Option Int := do
  let fourYears ← i64 (dayOfEra - dayOfEra.tdiv 1460)
  let centuries ← i64 (fourYears + dayOfEra.tdiv 36524)
  let days ← i64 (centuries - dayOfEra.tdiv 146096)
  return days.tdiv 365

/-- `day_of_era - (365 * year_of_era + year_of_era / 4 - year_of_era / 100)`. -/
def dayOfYear (dayOfEra yearOfEra : Int) : Option Int := do
  let common ← i64 (365 * yearOfEra)
  let fourYears ← i64 (common + yearOfEra.tdiv 4)
  let before ← i64 (fourYears - yearOfEra.tdiv 100)
  i64 (dayOfEra - before)

/-- The month and the day of a day in a year that begins in March. -/
def monthAndDay (dayOfYear : Int) : Option (Nat × Nat) := do
  let fifths ← i64 (5 * dayOfYear)
  let shiftedFifths ← i64 (fifths + 2)
  let monthPosition := shiftedFifths.tdiv 153
  let scaled ← i64 (153 * monthPosition)
  let before ← i64 (scaled + 2)
  let inMonth ← i64 (dayOfYear - before.tdiv 5)
  let day ← i64 (inMonth + 1)
  let month ← if monthPosition < 10 then i64 (monthPosition + 3) else i64 (monthPosition - 9)
  return (asU32 month, asU32 day)

def civilFromDays (days : Int) : Option (Int × Nat × Nat) := do
  let shifted ← i64 (days + 719468)
  let era ← eraOf shifted
  let eraDays ← i64 (era * 146097)
  let dayOfEra ← i64 (shifted - eraDays)
  let yearOfEra ← yearOfEra dayOfEra
  let eraYears ← i64 (era * 400)
  let year ← i64 (yearOfEra + eraYears)
  let dayOfYear ← dayOfYear dayOfEra yearOfEra
  let (month, day) ← monthAndDay dayOfYear
  let year ← if month ≤ 2 then i64 (year + 1) else some year
  return (year, month, day)

/-- `{value:0width}`: zeros between the sign and the digits. -/
def zeroPadded (width : Nat) (value : Int) : String :=
  let sign := if value < 0 then "-" else ""
  let digits := toString value.natAbs
  sign ++ String.ofList (List.replicate (width - sign.length - digits.length) '0') ++ digits

/-- `unix_seconds.div_euclid(86_400)`. -/
def daysOf (unixSeconds : Int64) : Int := unixSeconds.toInt / 86400

/-- `YYYY-MM-DD` in UTC from a unix timestamp. -/
def date (unixSeconds : Int64) : Option String := do
  let (year, month, day) ← civilFromDays (daysOf unixSeconds)
  return zeroPadded 4 year ++ "-" ++ zeroPadded 2 month ++ "-" ++ zeroPadded 2 day

section Arithmetic

variable {value shifted dayOfEra : Int}

theorem i64_eq (low : -9223372036854775808 ≤ value) (high : value ≤ 9223372036854775807) :
    i64 value = some value :=
  if_pos ⟨low, high⟩

/-- The era is rounded down, for days before the first one too. -/
theorem eraOf_eq (low : -1000000000000000 ≤ shifted) (high : shifted ≤ 1000000000000000) :
    eraOf shifted = some (shifted / 146097) := by
  rw [eraOf]
  split
  next later =>
    simp only [Option.bind_eq_bind, Option.bind_some, Int.tdiv_eq_ediv_of_nonneg later]
    rfl
  next earlier =>
    have negated : (shifted - 146096).tdiv 146097 = -((146096 - shifted) / 146097) := by
      rw [← Int.neg_sub, Int.neg_tdiv, Int.tdiv_eq_ediv_of_nonneg (by omega)]
    have rounded : -((146096 - shifted) / 146097) = shifted / 146097 := by omega
    rw [i64_eq (by omega) (by omega)]
    simp only [Option.bind_eq_bind, Option.bind_some, negated, rounded]
    rfl

/-- The days of an era before a year of it. -/
def yearStart (year : Int) : Int := 365 * year + leapDays year

/-- A leap day is taken out of every fourth year, put back for each century, and taken out
of the era. -/
def commonDays (dayOfEra : Int) : Int :=
  dayOfEra - dayOfEra / 1460 + dayOfEra / 36524 - dayOfEra / 146096

theorem commonDays_le {first last : Int} (before : first ≤ last) :
    commonDays first ≤ commonDays last := by
  rw [commonDays, commonDays]
  omega

/-- Where the years of an era begin and end in common days. -/
theorem commonDays_yearStart : ∀ year : Nat, year < 400 →
    365 * (year : Int) ≤ commonDays (yearStart year) ∧
      commonDays (yearStart (year + 1) - 1) < 365 * (year + 1) := by
  decide +kernel

theorem yearOfEra_eq (nonneg : 0 ≤ dayOfEra) (inEra : dayOfEra < 146097) :
    yearOfEra dayOfEra = some (commonDays dayOfEra / 365) := by
  simp (disch := omega) only [yearOfEra, Int.tdiv_eq_ediv_of_nonneg, i64_eq, Option.bind_eq_bind,
    Option.bind_some]
  rfl

/-- A day of an era lies in its year. -/
theorem year_between (nonneg : 0 ≤ dayOfEra) (inEra : dayOfEra < 146097) :
    ∃ year : Nat, year < 400 ∧ yearOfEra dayOfEra = some (year : Int) ∧
      yearStart year ≤ dayOfEra ∧ dayOfEra < yearStart (year + 1) := by
  have least : commonDays 0 ≤ commonDays dayOfEra := commonDays_le nonneg
  have most : commonDays dayOfEra ≤ commonDays 146096 :=
    commonDays_le (Int.le_of_lt_add_one inEra)
  have atLeast : commonDays 0 = 0 := rfl
  have atMost : commonDays 146096 = 145999 := rfl
  have read := yearOfEra_eq nonneg inEra
  rcases Int.eq_ofNat_of_zero_le (a := commonDays dayOfEra / 365) (by omega) with ⟨year, isYear⟩
  have inside : year < 400 := by omega
  rcases commonDays_yearStart year inside with ⟨begins, _⟩
  refine ⟨year, inside, isYear ▸ read, ?_, ?_⟩
  · by_contra before
    cases year with
    | zero => exact before nonneg
    | succ year =>
        have ends := (commonDays_yearStart year (Nat.lt_of_succ_lt inside)).2
        have earlier : commonDays dayOfEra ≤ commonDays (yearStart (year + 1) - 1) :=
          commonDays_le (Int.le_sub_one_of_lt (Int.not_le.1 before))
        omega
  · by_contra after
    have last : year + 1 < 400 := by
      by_contra isLast
      have whole : year = 399 := by omega
      rw [whole] at after
      exact after inEra
    have next := (commonDays_yearStart (year + 1) last).1
    have later : commonDays (yearStart (year + 1)) ≤ commonDays dayOfEra :=
      commonDays_le (Int.not_lt.1 after)
    rw [Int.natCast_add, Int.natCast_one] at next
    omega

theorem dayOfYear_eq {year : Nat} (inside : year < 400) (nonneg : 0 ≤ dayOfEra)
    (inEra : dayOfEra < 146097) :
    dayOfYear dayOfEra year = some (dayOfEra - yearStart year) := by
  have start : yearStart year = 365 * (year : Int) + (year : Int) / 4 - (year : Int) / 100 := by
    rw [yearStart, leapDays]
    omega
  simp (disch := omega) only [dayOfYear, Int.tdiv_eq_ediv_of_nonneg, i64_eq, Option.bind_eq_bind,
    Option.bind_some, start]

theorem asU32_eq {number : Nat} (small : number < 4294967296) : asU32 number = number := by
  rw [asU32]
  omega

/-- The days from March to the start of a month that comes so many months later. -/
def monthStart (position : Nat) : Nat := (153 * position + 2) / 5

/-- The day lies in its month. -/
theorem monthStart_between {dayOfYear position : Nat}
    (isPosition : (5 * dayOfYear + 2) / 153 = position) :
    monthStart position ≤ dayOfYear ∧ dayOfYear < monthStart (position + 1) := by
  rw [monthStart, monthStart]
  omega

theorem monthAndDay_eq {dayOfYear position : Nat} (inYear : dayOfYear < 366)
    (isPosition : (5 * dayOfYear + 2) / 153 = position) :
    monthAndDay dayOfYear =
      some (if position < 10 then position + 3 else position - 9,
        dayOfYear - monthStart position + 1) := by
  have before := (monthStart_between isPosition).1
  have place : (5 * (dayOfYear : Int) + 2).tdiv 153 = position := by
    rw [Int.tdiv_eq_ediv_of_nonneg (by omega)]
    omega
  have start : (153 * (position : Int) + 2).tdiv 5 = monthStart position := by
    rw [Int.tdiv_eq_ediv_of_nonneg (by omega), monthStart]
    omega
  have day : (dayOfYear : Int) - monthStart position + 1 =
      (dayOfYear - monthStart position + 1 : Nat) := by omega
  refine Option.bind_eq_some_iff.2 ⟨_, i64_eq (by omega) (by omega), ?_⟩
  refine Option.bind_eq_some_iff.2 ⟨_, i64_eq (by omega) (by omega), ?_⟩
  dsimp only
  rw [place]
  refine Option.bind_eq_some_iff.2 ⟨_, i64_eq (by omega) (by omega), ?_⟩
  refine Option.bind_eq_some_iff.2 ⟨_, i64_eq (by omega) (by omega), ?_⟩
  rw [start]
  refine Option.bind_eq_some_iff.2 ⟨_, i64_eq (by omega) (by omega), ?_⟩
  refine Option.bind_eq_some_iff.2 ⟨_, i64_eq (by omega) (by omega), ?_⟩
  rw [day]
  split
  next early =>
    refine Option.bind_eq_some_iff.2 ⟨_, i64_eq (by omega) (by omega), ?_⟩
    have month : (position : Int) + 3 = (position + 3 : Nat) := rfl
    rw [month, asU32_eq (by omega), asU32_eq (by omega), if_pos (by omega)]
    rfl
  next late =>
    refine Option.bind_eq_some_iff.2 ⟨_, i64_eq (by omega) (by omega), ?_⟩
    have month : (position : Int) - 9 = (position - 9 : Nat) := by omega
    rw [month, asU32_eq (by omega), asU32_eq (by omega), if_neg (by omega)]
    rfl

/-- The months from March to December begin where the calendar has them. -/
theorem monthStart_of_march : ∀ leap, ∀ position < 10,
    daysBeforeMonth leap (position + 3) = daysBeforeMonth leap 3 + monthStart position ∧
      monthStart (position + 1) = monthStart position + monthLength leap (position + 3) := by
  decide

/-- So do January and February. -/
theorem monthStart_of_january : ∀ leap, ∀ position < 12, 10 ≤ position →
    daysBeforeMonth leap (position - 9) + 306 = monthStart position := by
  decide

/-- The last day of February is there in leap years only. -/
theorem day_le_of_january {leap : Bool} {dayOfYear position : Nat} (inYear : dayOfYear < 366)
    (isPosition : (5 * dayOfYear + 2) / 153 = position) (late : 10 ≤ position)
    (leapDay : dayOfYear = 365 → leap = true) :
    dayOfYear - monthStart position + 1 ≤ monthLength leap (position - 9) := by
  have last := (monthStart_between isPosition).2
  have months : position = 10 ∨ position = 11 := by omega
  rcases months with rfl | rfl
  · have january : monthLength leap (10 - 9) = 31 := rfl
    rw [monthStart] at last ⊢
    omega
  · rw [monthStart]
    cases leap with
    | false =>
        have notLast : dayOfYear ≠ 365 := fun isLast => Bool.false_ne_true (leapDay isLast)
        have february : monthLength false (11 - 9) = 28 := rfl
        omega
    | true =>
        have february : monthLength true (11 - 9) = 29 := rfl
        omega

/-- A year has 365 days, and one more when the year in which it ends is a leap year. -/
theorem yearStart_succ (year : Int) :
    yearStart (year + 1) = yearStart year + 365 + if isLeap (year + 1) then 1 else 0 := by
  rw [yearStart, yearStart, leapDays_succ]
  omega

theorem daysBeforeYear_of_era (year era : Int) :
    daysBeforeYear (year + era * 400 + 1) = era * 146097 + yearStart year - 719162 := by
  rw [daysBeforeYear_succ_eq, leapDays_add_eras, yearStart]
  omega

end Arithmetic

/-- The steps of the conversion, from the era to the day of a month. -/
theorem civilFromDays_of_place {days era : Int} {year dayOfYear month day : Nat}
    (low : -200000000000000 ≤ days) (high : days ≤ 200000000000000)
    (isEra : (days + 719468) / 146097 = era) (inEra : year < 400)
    (isYear : yearOfEra (days + 719468 - era * 146097) = some (year : Int))
    (isDay : days + 719468 - era * 146097 - yearStart year = dayOfYear)
    (place : monthAndDay dayOfYear = some (month, day)) :
    civilFromDays days =
      some (if month ≤ 2 then year + era * 400 + 1 else year + era * 400, month, day) := by
  refine Option.bind_eq_some_iff.2 ⟨_, i64_eq (by omega) (by omega), ?_⟩
  refine Option.bind_eq_some_iff.2 ⟨_, eraOf_eq (by omega) (by omega), ?_⟩
  rw [isEra]
  refine Option.bind_eq_some_iff.2 ⟨_, i64_eq (by omega) (by omega), ?_⟩
  refine Option.bind_eq_some_iff.2 ⟨_, i64_eq (by omega) (by omega), ?_⟩
  refine Option.bind_eq_some_iff.2 ⟨_, isYear, ?_⟩
  refine Option.bind_eq_some_iff.2 ⟨_, i64_eq (by omega) (by omega), ?_⟩
  refine Option.bind_eq_some_iff.2 ⟨_, i64_eq (by omega) (by omega), ?_⟩
  refine Option.bind_eq_some_iff.2 ⟨_, dayOfYear_eq inEra (by omega) (by omega), ?_⟩
  rw [isDay]
  refine Option.bind_eq_some_iff.2 ⟨_, place, ?_⟩
  dsimp only
  split
  next => exact Option.bind_eq_some_iff.2 ⟨_, i64_eq (by omega) (by omega), rfl⟩
  next => rfl

/-- A day number that is far from the bounds is converted to the date that has it. -/
theorem civilFromDays_eq {days : Int} (low : -200000000000000 ≤ days)
    (high : days ≤ 200000000000000) :
    ∃ date : Date, civilFromDays days = some (date.year, date.month, date.day) ∧
      date.dayNumber = days := by
  generalize isEra : (days + 719468) / 146097 = era
  have nonneg : 0 ≤ days + 719468 - era * 146097 := by omega
  have inEra : days + 719468 - era * 146097 < 146097 := by omega
  rcases year_between nonneg inEra with ⟨year, inside, isYear, begins, ends⟩
  have isLong := yearStart_succ year
  have started := daysBeforeYear_of_era year era
  rcases Int.eq_ofNat_of_zero_le (Int.sub_nonneg_of_le begins) with ⟨dayOfYear, isDay⟩
  have inYear : dayOfYear < 366 := by
    split at isLong <;> omega
  generalize isPosition : (5 * dayOfYear + 2) / 153 = position
  have place := monthAndDay_eq inYear isPosition
  have converted := civilFromDays_of_place low high isEra inside isYear isDay place
  have between := monthStart_between isPosition
  by_cases early : position < 10
  · rw [if_pos early, if_neg (by omega)] at converted
    rcases monthStart_of_march (isLeap (year + era * 400)) position early with ⟨month, length⟩
    have march := daysBeforeMonth_march (year + era * 400)
    rw [daysBeforeYear_succ] at started
    refine ⟨⟨year + era * 400, position + 3, dayOfYear - monthStart position + 1, by omega,
      by omega, by omega, by omega⟩, converted, ?_⟩
    rw [Date.dayNumber]
    dsimp only
    omega
  · rw [if_neg early, if_pos (by omega)] at converted
    have leapDay : dayOfYear = 365 → isLeap (year + era * 400 + 1) = true := by
      intro isLast
      rw [Int.add_right_comm, isLeap_add_eras]
      by_contra common
      rw [if_neg common] at isLong
      omega
    have dayLe := day_le_of_january inYear isPosition (Nat.not_lt.1 early) leapDay
    have month := monthStart_of_january (isLeap (year + era * 400 + 1)) position (by omega)
      (Nat.not_lt.1 early)
    refine ⟨⟨year + era * 400 + 1, position - 9, dayOfYear - monthStart position + 1, by omega,
      by omega, by omega, dayLe⟩, converted, ?_⟩
    rw [Date.dayNumber]
    dsimp only
    omega

/-- The days of a timestamp are far from the bounds. -/
theorem daysOf_between (unixSeconds : Int64) :
    -200000000000000 ≤ daysOf unixSeconds ∧ daysOf unixSeconds ≤ 200000000000000 := by
  have low := unixSeconds.le_toInt
  have high := unixSeconds.toInt_lt
  rw [daysOf]
  omega

/-- No operation overflows, the result is the date with the day number of the timestamp, and
on the next day it is the next date. -/
theorem civilFromDays_exact (unixSeconds : Int64) :
    ∃ date : Date, civilFromDays (daysOf unixSeconds) = some (date.year, date.month, date.day) ∧
      date.dayNumber = daysOf unixSeconds ∧
      ∀ later : Int64, daysOf later = daysOf unixSeconds + 1 →
        civilFromDays (daysOf later) =
          some (date.next.year, date.next.month, date.next.day) := by
  rcases civilFromDays_eq (daysOf_between unixSeconds).1 (daysOf_between unixSeconds).2
    with ⟨date, converted, number⟩
  refine ⟨date, converted, number, ?_⟩
  intro later follows
  rcases civilFromDays_eq (daysOf_between later).1 (daysOf_between later).2
    with ⟨other, convertedLater, numberLater⟩
  have isNext : other = date.next := by
    apply Date.dayNumber_injective
    rw [numberLater, follows, Date.dayNumber_next, number]
  rw [convertedLater, isNext]

/-- Every timestamp has a date to print. -/
theorem date_eq (unixSeconds : Int64) :
    ∃ day : Date, day.dayNumber = daysOf unixSeconds ∧
      date unixSeconds = some (zeroPadded 4 day.year ++ "-" ++ zeroPadded 2 day.month ++ "-" ++
        zeroPadded 2 day.day) := by
  rcases civilFromDays_eq (daysOf_between unixSeconds).1 (daysOf_between unixSeconds).2
    with ⟨day, converted, number⟩
  refine ⟨day, number, ?_⟩
  rw [date, converted]
  rfl

example : date 1709164800 = some "2024-02-29" ∧ date (-86400) = some "1969-12-31" := by
  decide +kernel

end Varmlen.Cli

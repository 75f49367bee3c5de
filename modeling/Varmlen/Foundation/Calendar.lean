import Mathlib.Data.Int.Init

/-!
# The Gregorian calendar

Dates of the calendar, extended to all years before and after, and the number of a day
counted from 1970-01-01.  The number adds up the lengths of the years and months in
between; different dates have different numbers, and the next date has the next one.
-/

namespace Foundation.Calendar

/-- Every fourth year has a leap day; of the centuries, every fourth. -/
def isLeap (year : Int) : Bool := year % 4 = 0 ∧ (year % 100 ≠ 0 ∨ year % 400 = 0)

def yearLength (year : Int) : Int := if isLeap year then 366 else 365

/-- The days of a month in a year with or without a leap day. -/
def monthLength (leap : Bool) : Nat → Nat
  | 2 => if leap then 29 else 28
  | 4 | 6 | 9 | 11 => 30
  | _ => 31

structure Date where
  year : Int
  month : Nat
  day : Nat
  month_pos : 1 ≤ month
  month_le : month ≤ 12
  day_pos : 1 ≤ day
  day_le : day ≤ monthLength (isLeap year) month
  deriving DecidableEq, Repr

/-- The days of so many years from the start of one. -/
def daysOfYears (year : Int) : Nat → Int
  | 0 => 0
  | count + 1 => daysOfYears year count + yearLength (year + count)

/-- The days from the start of 1970 to the start of a year, negative for earlier ones. -/
def daysBeforeYear (year : Int) : Int :=
  daysOfYears 1970 (year - 1970).toNat - daysOfYears year (1970 - year).toNat

/-- The days of a year before a month. -/
def daysBeforeMonth (leap : Bool) : Nat → Nat
  | 0 | 1 => 0
  | month + 2 => daysBeforeMonth leap (month + 1) + monthLength leap (month + 1)

/-- The days from 1970-01-01 to a date. -/
def Date.dayNumber (date : Date) : Int :=
  daysBeforeYear date.year + daysBeforeMonth (isLeap date.year) date.month + date.day - 1

/-! ## Years -/

/-- Years are counted from either end. -/
theorem daysOfYears_succ (year : Int) (count : Nat) :
    daysOfYears year (count + 1) = yearLength year + daysOfYears (year + 1) count := by
  induction count generalizing year with
  | zero =>
      rw [daysOfYears, daysOfYears, daysOfYears, Int.natCast_zero, Int.add_zero]
      omega
  | succ count ih =>
      have last : year + 1 + count = year + (count + 1 : Nat) := by omega
      rw [daysOfYears, ih, daysOfYears, last]
      omega

theorem daysBeforeYear_succ (year : Int) :
    daysBeforeYear (year + 1) = daysBeforeYear year + yearLength year := by
  rw [daysBeforeYear, daysBeforeYear]
  by_cases later : 1970 ≤ year
  · have longer : (year + 1 - 1970).toNat = (year - 1970).toNat + 1 := by omega
    have none : (1970 - (year + 1)).toNat = 0 := by omega
    have before : (1970 - year).toNat = 0 := by omega
    have last : 1970 + ((year - 1970).toNat : Int) = year := by omega
    rw [longer, none, before, daysOfYears, daysOfYears, daysOfYears, last]
    omega
  · have longer : (1970 - year).toNat = (1970 - (year + 1)).toNat + 1 := by omega
    have none : (year - 1970).toNat = 0 := by omega
    have after : (year + 1 - 1970).toNat = 0 := by omega
    rw [longer, none, after, daysOfYears_succ, daysOfYears]
    omega

/-- The leap days of the years from 1 to the given one. -/
def leapDays (year : Int) : Int := year / 4 - year / 100 + year / 400

theorem leapDays_succ (year : Int) :
    leapDays (year + 1) = leapDays year + if isLeap (year + 1) then 1 else 0 := by
  simp only [leapDays, isLeap, decide_eq_true_eq]
  split <;> omega

/-- The days before a year in one expression. -/
theorem daysBeforeYear_succ_eq (year : Int) :
    daysBeforeYear (year + 1) = 365 * (year - 1969) + leapDays year - 477 := by
  have step (year : Int) : daysBeforeYear (year + 1) = 365 * (year - 1969) + leapDays year - 477 ↔
      daysBeforeYear (year + 1 + 1) =
        365 * (year + 1 - 1969) + leapDays (year + 1) - 477 := by
    rw [daysBeforeYear_succ (year + 1), leapDays_succ, yearLength]
    split <;> omega
  induction year using Int.inductionOn' (b := 1969) with
  | zero => rfl
  | succ year _ ih => exact (step year).1 ih
  | pred year _ ih =>
      apply (step (year - 1)).2
      rwa [Int.sub_add_cancel]

/-- After 400 years the leap years recur. -/
theorem isLeap_add_eras (year era : Int) : isLeap (year + era * 400) = isLeap year := by
  rw [isLeap, isLeap, decide_eq_decide]
  omega

theorem leapDays_add_eras (year era : Int) :
    leapDays (year + era * 400) = leapDays year + era * 97 := by
  rw [leapDays, leapDays]
  omega

theorem yearLength_pos (year : Int) : 0 < yearLength year := by
  rw [yearLength]
  split <;> decide

theorem daysBeforeYear_le {year later : Int} (before : year ≤ later) :
    daysBeforeYear year ≤ daysBeforeYear later := by
  rcases Int.le.dest before with ⟨count, rfl⟩
  clear before
  induction count with
  | zero => exact Int.le_of_eq (congrArg daysBeforeYear (Int.add_zero year).symm)
  | succ count ih =>
      have positive := yearLength_pos (year + count)
      have next : year + (count + 1 : Nat) = year + count + 1 := by omega
      rw [next, daysBeforeYear_succ]
      omega

/-! ## Months -/

theorem daysBeforeMonth_succ (leap : Bool) {month : Nat} (positive : 1 ≤ month) :
    daysBeforeMonth leap (month + 1) = daysBeforeMonth leap month + monthLength leap month := by
  cases month with
  | zero => cases positive
  | succ month => rfl

theorem daysBeforeMonth_le (leap : Bool) {month later : Nat} (before : month ≤ later) :
    daysBeforeMonth leap month ≤ daysBeforeMonth leap later := by
  induction before with
  | refl => exact Nat.le_refl _
  | @step later _ ih =>
      cases later with
      | zero => exact ih
      | succ later => exact Nat.le_trans ih (Nat.le_add_right _ _)

theorem daysBeforeMonth_end (year : Int) :
    (daysBeforeMonth (isLeap year) 13 : Int) = yearLength year := by
  rw [yearLength]
  cases isLeap year with
  | false => rfl
  | true => rfl

/-- There are 306 days from March to December. -/
theorem daysBeforeMonth_march (year : Int) :
    (daysBeforeMonth (isLeap year) 3 : Int) + 306 = yearLength year := by
  rw [yearLength]
  cases isLeap year with
  | false => rfl
  | true => rfl

theorem monthLength_pos (leap : Bool) (month : Nat) : 1 ≤ monthLength leap month := by
  rw [monthLength.eq_def]
  split <;> try decide
  cases leap <;> decide

/-! ## Dates -/

namespace Date

/-- The day after. -/
def next (date : Date) : Date :=
  if inMonth : date.day < monthLength (isLeap date.year) date.month then
    ⟨date.year, date.month, date.day + 1, date.month_pos, date.month_le, Nat.succ_pos _, inMonth⟩
  else if inYear : date.month < 12 then
    ⟨date.year, date.month + 1, 1, Nat.succ_pos _, inYear, Nat.one_pos, monthLength_pos _ _⟩
  else
    ⟨date.year + 1, 1, 1, Nat.one_pos, by decide, Nat.one_pos, monthLength_pos _ _⟩

theorem dayNumber_next (date : Date) : date.next.dayNumber = date.dayNumber + 1 := by
  have whole := date.day_le
  have month := daysBeforeMonth_succ (isLeap date.year) date.month_pos
  rw [next]
  split
  next =>
    simp only [dayNumber]
    omega
  next isLast =>
    split
    next =>
      simp only [dayNumber, month]
      omega
    next isDecember =>
      have december : date.month = 12 := by
        have bound := date.month_le
        omega
      have first : daysBeforeMonth (isLeap (date.year + 1)) 1 = 0 := rfl
      have year : daysBeforeMonth (isLeap date.year) (12 + 1) = yearLength date.year :=
        daysBeforeMonth_end date.year
      rw [december] at month isLast whole
      simp only [dayNumber, december, daysBeforeYear_succ, first]
      omega

/-- A date lies in its month. -/
theorem month_between (date : Date) :
    daysBeforeYear date.year + daysBeforeMonth (isLeap date.year) date.month ≤ date.dayNumber ∧
      date.dayNumber <
        daysBeforeYear date.year + daysBeforeMonth (isLeap date.year) (date.month + 1) := by
  have first := date.day_pos
  have last := date.day_le
  rw [daysBeforeMonth_succ _ date.month_pos, dayNumber]
  omega

/-- A date lies in its year. -/
theorem year_between (date : Date) :
    daysBeforeYear date.year ≤ date.dayNumber ∧
      date.dayNumber < daysBeforeYear (date.year + 1) := by
  have between := date.month_between
  have inside : daysBeforeMonth (isLeap date.year) (date.month + 1) ≤
      daysBeforeMonth (isLeap date.year) 13 :=
    daysBeforeMonth_le _ (Nat.succ_le_succ date.month_le)
  have year := daysBeforeMonth_end date.year
  rw [daysBeforeYear_succ]
  omega

/-- Different dates have different numbers. -/
theorem dayNumber_injective : Function.Injective dayNumber := by
  intro date other same
  have yearLe {first second : Date} (same : first.dayNumber = second.dayNumber) :
      first.year ≤ second.year := by
    apply Int.not_lt.1
    intro earlier
    have years := daysBeforeYear_le (Int.add_one_le_of_lt earlier)
    have before := first.year_between.1
    have after := second.year_between.2
    omega
  have years : date.year = other.year := Int.le_antisymm (yearLe same) (yearLe same.symm)
  have monthLe {first second : Date} (years : first.year = second.year)
      (same : first.dayNumber = second.dayNumber) : first.month ≤ second.month := by
    apply Nat.not_lt.1
    intro earlier
    have next : second.month + 1 ≤ first.month := earlier
    have months := daysBeforeMonth_le (isLeap second.year) next
    have before := first.month_between.1
    have after := second.month_between.2
    rw [years] at before
    omega
  have months : date.month = other.month :=
    Nat.le_antisymm (monthLe years same) (monthLe years.symm same.symm)
  have days : date.day = other.day := by
    rw [dayNumber, dayNumber, years, months] at same
    omega
  cases date
  cases other
  simp only at years months days
  subst years months days
  rfl

end Date

end Foundation.Calendar

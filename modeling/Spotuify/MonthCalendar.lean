import Mathlib.Algebra.Ring.Int.Defs
import Mathlib.Order.MinMax
import Mathlib.Order.Monotone.Basic

/-!
# Month arithmetic

A calendar numbers its days and its months, and says where each month starts.
Adding months to a day keeps the day of the month and moves it to the last day
of a month that is too short for it.  Doing so one month at a time forgets the
day that was moved: a walk over a short month stays on the short month's last
day.  The lemmas say what a walk keeps.
-/

/-- Numbered days in numbered months. -/
structure MonthCalendar where
  start : Int → Int
  monthOf : Int → Int
  start_lt_succ : ∀ month, start month < start (month + 1)
  start_le : ∀ day, start (monthOf day) ≤ day
  lt_start_succ : ∀ day, day < start (monthOf day + 1)

namespace MonthCalendar

variable (calendar : MonthCalendar)

/-- The last day of a month, counted from zero. -/
def lastIn (month : Int) : Int :=
  calendar.start (month + 1) - calendar.start month - 1

/-- The day of the month, counted from zero. -/
def dayIn (day : Int) : Int := day - calendar.start (calendar.monthOf day)

/-- A day of a month, or the month's last one. -/
def date (month dayIn : Int) : Int :=
  calendar.start month + min dayIn (calendar.lastIn month)

def addMonths (day months : Int) : Int :=
  calendar.date (calendar.monthOf day + months) (calendar.dayIn day)

/-- The day of the month that is left of one after passing some months. -/
def keptDay (month dayIn : Int) : Nat → Int
  | 0 => dayIn
  | passed + 1 =>
    min (keptDay month dayIn passed) (calendar.lastIn (month + passed))

variable {calendar} {month other day first second : Int}

theorem start_lt_start_iff :
    calendar.start first < calendar.start second ↔ first < second :=
  (strictMono_int_of_lt_succ calendar.start_lt_succ).lt_iff_lt

theorem start_le_start (ordered : first ≤ second) :
    calendar.start first ≤ calendar.start second :=
  (strictMono_int_of_lt_succ calendar.start_lt_succ).monotone ordered

theorem lastIn_nonneg : 0 ≤ calendar.lastIn month := by
  have later := calendar.start_lt_succ month
  unfold lastIn
  omega

theorem dayIn_nonneg : 0 ≤ calendar.dayIn day := by
  have started := calendar.start_le day
  unfold dayIn
  omega

theorem dayIn_le_lastIn :
    calendar.dayIn day ≤ calendar.lastIn (calendar.monthOf day) := by
  have ended := calendar.lt_start_succ day
  unfold dayIn lastIn
  omega

theorem monthOf_eq (started : calendar.start month ≤ day)
    (ended : day < calendar.start (month + 1)) :
    calendar.monthOf day = month := by
  have notBefore : month < calendar.monthOf day + 1 :=
    start_lt_start_iff.mp
      (started.trans_lt (calendar.lt_start_succ day))
  have notAfter : calendar.monthOf day < month + 1 :=
    start_lt_start_iff.mp ((calendar.start_le day).trans_lt ended)
  omega

theorem start_le_date (nonneg : 0 ≤ day) :
    calendar.start month ≤ calendar.date month day := by
  have last : 0 ≤ calendar.lastIn month := lastIn_nonneg
  unfold date
  omega

theorem date_lt_start_succ :
    calendar.date month day < calendar.start (month + 1) := by
  unfold date lastIn
  omega

@[simp]
theorem monthOf_date (nonneg : 0 ≤ day) :
    calendar.monthOf (calendar.date month day) = month :=
  monthOf_eq (start_le_date nonneg) date_lt_start_succ

theorem dayIn_date (nonneg : 0 ≤ day) :
    calendar.dayIn (calendar.date month day) =
      min day (calendar.lastIn month) := by
  rw [dayIn, monthOf_date nonneg, date]
  omega

/-- Dates of later months come later. -/
theorem date_lt_date (before : month < other) (nonneg : 0 ≤ second) :
    calendar.date month first < calendar.date other second := by
  have ordered : calendar.start (month + 1) ≤ calendar.start other :=
    start_le_start before
  have ended : calendar.date month first < calendar.start (month + 1) :=
    date_lt_start_succ
  have started : calendar.start other ≤ calendar.date other second :=
    start_le_date nonneg
  omega

@[simp]
theorem date_dayIn :
    calendar.date (calendar.monthOf day) (calendar.dayIn day) = day := by
  have inMonth : calendar.dayIn day ≤
      calendar.lastIn (calendar.monthOf day) := dayIn_le_lastIn
  rw [date, min_eq_left inMonth, dayIn]
  omega

theorem addMonths_zero : calendar.addMonths day 0 = day := by
  rw [addMonths, add_zero, date_dayIn]

/-- One month after a date. -/
theorem addMonths_date (nonneg : 0 ≤ day) :
    calendar.addMonths (calendar.date month day) 1 =
      calendar.date (month + 1) (min day (calendar.lastIn month)) := by
  rw [addMonths, monthOf_date nonneg, dayIn_date nonneg]

theorem keptDay_nonneg (nonneg : 0 ≤ day) (passed : Nat) :
    0 ≤ calendar.keptDay month day passed := by
  induction passed with
  | zero => exact nonneg
  | succ passed inductionHypothesis =>
    exact le_min inductionHypothesis lastIn_nonneg

theorem le_keptDay {kept : Int} {passed : Nat} :
    kept ≤ calendar.keptDay month day passed ↔
      kept ≤ day ∧ ∀ index < passed,
        kept ≤ calendar.lastIn (month + (index : Nat)) := by
  induction passed with
  | zero => simp [keptDay]
  | succ passed inductionHypothesis =>
    rw [keptDay, le_min_iff, inductionHypothesis, Nat.forall_lt_succ_right,
      and_assoc]

theorem keptDay_le (passed : Nat) :
    calendar.keptDay month day passed ≤ day :=
  (le_keptDay.mp le_rfl).1

/-- A walk ends on the day it started from just when every month it passed
can hold the day it ends on. -/
theorem date_keptDay_eq_iff {passed : Nat} :
    calendar.date (month + passed) (calendar.keptDay month day passed) =
        calendar.date (month + passed) day ↔
      ∀ index < passed,
        min day (calendar.lastIn (month + passed)) ≤
          calendar.lastIn (month + (index : Nat)) := by
  have kept : calendar.keptDay month day passed ≤ day := keptDay_le passed
  have reached : min day (calendar.lastIn (month + passed)) ≤
      calendar.keptDay month day passed ↔
        ∀ index < passed,
          min day (calendar.lastIn (month + passed)) ≤
            calendar.lastIn (month + (index : Nat)) := by
    rw [le_keptDay]
    exact and_iff_right (min_le_left _ _)
  rw [← reached, date, date]
  omega

end MonthCalendar

namespace Gregorian

/-- The first day of a year that starts in March, from the first of March of
year 0 on. -/
def yearStart (year : Int) : Int :=
  365 * year + year / 4 - year / 100 + year / 400

/-- The first day of a month counted from March of year 0; day 0 is the first
of January 1970. -/
def monthStart (month : Int) : Int :=
  yearStart (month / 12) + (153 * (month % 12) + 2) / 5 - 719468

/-- The year that starts in March of a day counted from March of year 0. -/
def yearOf (day : Int) : Int :=
  let guess := 400 * day / 146097
  if day < yearStart guess then guess - 1
  else if yearStart (guess + 1) ≤ day then guess + 1
  else guess

def monthOf (day : Int) : Int :=
  let sinceMarch := day + 719468
  let year := yearOf sinceMarch
  12 * year + (5 * (sinceMarch - yearStart year) + 2) / 153

theorem yearOf_bounds (day : Int) :
    yearStart (yearOf day) ≤ day ∧ day < yearStart (yearOf day + 1) := by
  unfold yearOf yearStart
  dsimp only
  split
  · constructor <;> omega
  · split
    · constructor <;> omega
    · constructor <;> omega

theorem monthStart_lt_succ (month : Int) :
    monthStart month < monthStart (month + 1) := by
  unfold monthStart yearStart
  omega

theorem monthStart_le (day : Int) : monthStart (monthOf day) ≤ day := by
  have bounds := yearOf_bounds (day + 719468)
  unfold monthStart monthOf
  dsimp only
  generalize yearOf (day + 719468) = year at bounds
  generalize passed : day + 719468 - yearStart year = dayOfYear
  have long : dayOfYear ≤ 365 := by
    unfold yearStart at *
    omega
  have month : (12 * year + (5 * dayOfYear + 2) / 153) / 12 = year := by
    omega
  rw [month]
  omega

theorem lt_monthStart_succ (day : Int) :
    day < monthStart (monthOf day + 1) := by
  have bounds := yearOf_bounds (day + 719468)
  unfold monthStart monthOf
  dsimp only
  generalize yearOf (day + 719468) = year at bounds
  generalize passed : day + 719468 - yearStart year = dayOfYear
  have long : dayOfYear ≤ 365 := by
    unfold yearStart at *
    omega
  by_cases lastMonth : (5 * dayOfYear + 2) / 153 = 11
  · have month : (12 * year + (5 * dayOfYear + 2) / 153 + 1) / 12 =
        year + 1 := by
      omega
    rw [month]
    omega
  · have month : (12 * year + (5 * dayOfYear + 2) / 153 + 1) / 12 = year := by
      omega
    rw [month]
    omega

def calendar : MonthCalendar where
  start := monthStart
  monthOf := monthOf
  start_lt_succ := monthStart_lt_succ
  start_le := monthStart_le
  lt_start_succ := lt_monthStart_succ

-- The last day of January 2026 is 28 days before the last day of February.
example : calendar.addMonths 20484 1 = 20512 := by decide

end Gregorian

/-!
# Calendar dates

Dates of the Gregorian calendar, extended to all years, with the date before and the date after.
-/

namespace BareMetal

/-- Whether a year has a 29th of February. -/
def isLeapYear (year : Int) : Bool :=
  year % 4 == 0 && (year % 100 != 0 || year % 400 == 0)

/-- The number of days in a month of a year. -/
def daysInMonth (year : Int) (month : Nat) : Nat :=
  if month = 2 then if isLeapYear year then 29 else 28
  else if month = 4 ∨ month = 6 ∨ month = 9 ∨ month = 11 then 30
  else 31

/-- Whether year, month and day name a date. -/
def IsDate (year : Int) (month day : Nat) : Prop :=
  1 ≤ month ∧ month ≤ 12 ∧ 1 ≤ day ∧ day ≤ daysInMonth year month

instance (year : Int) (month day : Nat) : Decidable (IsDate year month day) :=
  inferInstanceAs (Decidable (_ ∧ _))

/-- A calendar date. -/
structure Date where
  /-- The year; zero is the year before the year one. -/
  year : Int
  /-- The month, from one to twelve. -/
  month : Nat
  /-- The day of the month, from one on. -/
  day : Nat
  /-- The date exists. -/
  isDate : IsDate year month day
  deriving DecidableEq

namespace Date

/-- The date of a year, month and day, if it exists. -/
def of? (year : Int) (month day : Nat) : Option Date :=
  if isDate : IsDate year month day then some ⟨year, month, day, isDate⟩ else none

/-- The date one day later. -/
def next (date : Date) : Date :=
  if within : date.day + 1 ≤ daysInMonth date.year date.month then
    ⟨date.year, date.month, date.day + 1, by
      obtain ⟨low, high, _, _⟩ := date.isDate
      exact ⟨low, high, by omega, within⟩⟩
  else if month_lt : date.month < 12 then
    ⟨date.year, date.month + 1, 1, by
      refine ⟨by omega, by omega, by omega, ?_⟩
      unfold daysInMonth
      repeat' split
      all_goals omega⟩
  else ⟨date.year + 1, 1, 1, by
    refine ⟨by omega, by omega, by omega, ?_⟩
    simp [daysInMonth]⟩

/-- The date one day earlier. -/
def previous (date : Date) : Date :=
  if day_gt : 1 < date.day then
    ⟨date.year, date.month, date.day - 1, by
      obtain ⟨low, high, _, last⟩ := date.isDate
      exact ⟨low, high, by omega, by omega⟩⟩
  else if month_gt : 1 < date.month then
    ⟨date.year, date.month - 1, daysInMonth date.year (date.month - 1), by
      obtain ⟨_, high, _, _⟩ := date.isDate
      refine ⟨by omega, by omega, ?_, Nat.le_refl _⟩
      unfold daysInMonth
      repeat' split
      all_goals omega⟩
  else ⟨date.year - 1, 12, 31, by
    refine ⟨by omega, by omega, by omega, ?_⟩
    simp [daysInMonth]⟩

end Date

end BareMetal

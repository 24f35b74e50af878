/-!
# The civil calendar

Days are counted from 1 January of the year 0 of the proleptic Gregorian calendar, and years may be negative. A date is split out of a day count by finding its year between two first days, and then its month by walking the twelve lengths.
-/

namespace SearchFilter

namespace Calendar

def IsLeapYear (year : Int) : Prop := year % 4 = 0 ∧ (year % 100 ≠ 0 ∨ year % 400 = 0)

instance (year : Int) : Decidable (IsLeapYear year) := inferInstanceAs (Decidable (_ ∧ _))

def monthLengths (year : Int) : List Nat :=
  [31, if IsLeapYear year then 29 else 28, 31, 30, 31, 30, 31, 31, 30, 31, 30, 31]

/-- The length of a month, counted from 1. Zero outside 1 to 12. -/
def daysInMonth (year : Int) (month : Nat) : Nat :=
  if month = 0 then 0 else (monthLengths year).getD (month - 1) 0

/-- The count of 1 January of a year. -/
def firstDayOfYear (year : Int) : Int :=
  365 * year + (year + 3) / 4 - (year + 99) / 100 + (year + 399) / 400

structure Date where
  year : Int
  month : Nat
  day : Nat
deriving DecidableEq, Repr

namespace Date

def Valid (d : Date) : Prop :=
  1 ≤ d.month ∧ d.month ≤ 12 ∧ 1 ≤ d.day ∧ d.day ≤ daysInMonth d.year d.month

instance (d : Date) : Decidable d.Valid := inferInstanceAs (Decidable (_ ∧ _))

def toDays (d : Date) : Int :=
  firstDayOfYear d.year + (((monthLengths d.year).take (d.month - 1)).foldl (· + ·) 0 : Nat) + d.day - 1

end Date

/-- The year that a day falls into. The estimate is at most one year off. -/
def yearOfDay (days : Int) : Int :=
  let estimate := days * 400 / 146097
  if days < firstDayOfYear estimate then estimate - 1
  else if firstDayOfYear (estimate + 1) ≤ days then estimate + 1
  else estimate

/-- Walks the months from number `month` on: the month that day number `index` of the rest of the year falls into, and the day of that month. -/
def monthAndDay (month : Nat) : List Nat → Nat → Nat × Nat
  | [], index => (month, index + 1)
  | length :: rest, index =>
    if index < length then (month, index + 1) else monthAndDay (month + 1) rest (index - length)

def Date.ofDays (days : Int) : Date :=
  let year := yearOfDay days
  let (month, day) := monthAndDay 1 (monthLengths year) (days - firstDayOfYear year).toNat
  ⟨year, month, day⟩

/-- The count of 1 January 1970. -/
def epochDay : Int := 719528

end Calendar

end SearchFilter

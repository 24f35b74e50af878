import SearchFilter.Time.Timestamp
import SearchFilter.Numeric.Numeral
/-!
# Reading points in time

Three forms are read, and each takes the whole text or refuses it: the internet form with an offset, a date with a time of day, and a date alone. All fields have fixed widths. The last two are in universal time and allow a sign before the year. The internet form allows any one character of one byte between date and time, and a leap second where one can occur.
-/

namespace SearchFilter

namespace Timestamp

open Numeral (fixedDigits?)

/-! ### Fields -/

/-- The clock reading `hh:mm:ss`. -/
structure Clock where
  hour : Nat
  minute : Nat
  second : Nat
deriving DecidableEq, Repr

/-- The clock shows a second of an ordinary day. -/
def Clock.Valid (c : Clock) : Prop := c.hour < 24 ∧ c.minute < 60 ∧ c.second < 60

instance (c : Clock) : Decidable c.Valid := inferInstanceAs (Decidable (_ ∧ _))

def Clock.toSeconds (c : Clock) : Nat := 3600 * c.hour + 60 * c.minute + c.second

/-- Month and day behind a year, each with a hyphen in front. -/
def monthDay? (year : Int) (s : List Char) : Option (Calendar.Date × List Char) := do
  let s ← List.isPrefixOf? ['-'] s
  let (month, s) ← fixedDigits? 2 s
  let s ← List.isPrefixOf? ['-'] s
  let (day, s) ← fixedDigits? 2 s
  return (⟨year, month, day⟩, s)

def clock? (s : List Char) : Option (Clock × List Char) := do
  let (hour, s) ← fixedDigits? 2 s
  let s ← List.isPrefixOf? [':'] s
  let (minute, s) ← fixedDigits? 2 s
  let s ← List.isPrefixOf? [':'] s
  let (second, s) ← fixedDigits? 2 s
  return (⟨hour, minute, second⟩, s)

/-- The fraction of a second in nanoseconds. Digits past the ninth are read and dropped. -/
def fraction? : List Char → Option (Nat × List Char)
  | '.' :: s =>
    let (digits, rest) := Numeral.splitDigits s
    if digits.isEmpty then none
    else some (Nat.ofDigitChars 10 ((digits ++ List.replicate 9 '0').take 9) 0, rest)
  | s => some (0, s)

/-- The offset in seconds: `Z` in either case, or a sign with hours and minutes. -/
def offset? : List Char → Option (Int × List Char)
  | [] => none
  | c :: s =>
    if c = 'Z' ∨ c = 'z' then some (0, s)
    else if c = '+' ∨ c = '-' then do
      let (hour, s) ← fixedDigits? 2 s
      let s ← List.isPrefixOf? [':'] s
      let (minute, s) ← fixedDigits? 2 s
      if hour < 24 ∧ minute < 60 then
        let distance : Int := 3600 * hour + 60 * minute
        return (if c = '-' then -distance else distance, s)
      else none
    else none

def signedYear? (s : List Char) : Option (Int × List Char) := do
  let (negative, s) := Numeral.splitSign s
  let (year, s) ← fixedDigits? 4 s
  return (if negative then -(year : Int) else year, s)

/-! ### Instants -/

/-- The instant of a local date and clock, if both exist. -/
def ofLocal? (date : Calendar.Date) (clock : Clock) (nanosecond : Nat) (offset : Int) : Option Timestamp :=
  if h : date.Valid ∧ clock.Valid ∧ nanosecond < 1000000000 then
    some
      { seconds := (date.toDays - Calendar.epochDay) * 86400 + clock.toSeconds - offset
        nanosecond
        offset
        nanosecond_lt := h.2.2 }
  else none

/-- The instant is the last second of a month in universal time, the only place where a leap second can follow. -/
def EndsMonth (t : Timestamp) : Prop :=
  let date := Calendar.Date.ofDays (t.seconds / 86400 + Calendar.epochDay)
  t.seconds % 86400 = 86399 ∧ date.day = Calendar.daysInMonth date.year date.month

instance (t : Timestamp) : Decidable t.EndsMonth := inferInstanceAs (Decidable (_ ∧ _))

/-! ### The three forms -/

/-- The internet form. A leap second is taken as the last nanosecond before it. -/
def ofInternetText? (s : List Char) : Option Timestamp := do
  let (year, s) ← fixedDigits? 4 s
  let (date, s) ← monthDay? year s
  let (separator, s) ← match s with
    | c :: rest => some (c, rest)
    | [] => none
  if 128 ≤ separator.toNat then none
  let (clock, s) ← clock? s
  let (nanosecond, s) ← fraction? s
  let (offset, s) ← offset? s
  if !s.isEmpty then none
  if clock.second = 60 then
    let t ← ofLocal? date { clock with second := 59 } 999999999 offset
    if t.EndsMonth then some t else none
  else ofLocal? date clock nanosecond offset

/-- Date and time of day in universal time, with one space between them. -/
def ofDateTimeText? (s : List Char) : Option Timestamp := do
  let (year, s) ← signedYear? s
  let (date, s) ← monthDay? year s
  let s ← List.isPrefixOf? [' '] s
  let (clock, s) ← clock? s
  if !s.isEmpty then none
  ofLocal? date clock 0 0

/-- A date, which stands for its midnight in universal time. -/
def ofDateText? (s : List Char) : Option Timestamp := do
  let (year, s) ← signedYear? s
  let (date, s) ← monthDay? year s
  if !s.isEmpty then none
  ofLocal? date ⟨0, 0, 0⟩ 0 0

/-- The first of the three forms that the text has. -/
def ofText? (text : String) : Option Timestamp :=
  let s := text.toList
  ofInternetText? s <|> ofDateTimeText? s <|> ofDateText? s

end Timestamp

end SearchFilter

import SearchFilter.Time.Calendar
/-!
# Points in time and their text

A timestamp is an instant, kept as whole seconds since 1970 and nanoseconds, together with the offset from universal time in which it is shown. Its text is the common internet form `2024-01-15T10:00:00.25+05:30`: the fraction stands only where it is not zero and has no trailing zeros, and offset zero is written `Z`. That form has four digits for the year and none for seconds of the offset, so some timestamps have no text.
-/

namespace SearchFilter

/-- An instant with the offset of its local display, in seconds. -/
structure Timestamp where
  seconds : Int
  nanosecond : Nat
  offset : Int
  nanosecond_lt : nanosecond < 1000000000 := by decide
deriving DecidableEq, Repr

/-- Why a timestamp has no text: the part that the form has no room for. -/
inductive Timestamp.TextError where
  | year
  | offsetHour
  | offsetSecond
deriving DecidableEq, Repr

namespace Timestamp

/-- The seconds since 1970 of the instants whose year in universal time lies between -9999 and 9999. -/
def minSeconds : Int := -377705116800

def maxSeconds : Int := 253402300799

/-- The instant a whole number of seconds after 1970, when its year is in range. -/
def ofUnixSeconds? (seconds : Int) : Option Timestamp :=
  if minSeconds ≤ seconds ∧ seconds ≤ maxSeconds then some { seconds, nanosecond := 0, offset := 0 } else none

/-- The local date and the second of the local day. -/
def localTime (t : Timestamp) : Calendar.Date × Nat :=
  let shown := t.seconds + t.offset
  (Calendar.Date.ofDays (shown / 86400 + Calendar.epochDay), (shown % 86400).toNat)

/-! ### Text -/

/-- The last `width` decimal digits of a number. -/
def padded : Nat → Nat → List Char
  | 0, _ => []
  | width + 1, n => padded width (n / 10) ++ [Nat.digitChar (n % 10)]

def fractionText (nanosecond : Nat) : List Char :=
  if nanosecond = 0 then []
  else '.' :: ((padded 9 nanosecond).reverse.dropWhile (· == '0')).reverse

def offsetText (offset : Int) : List Char :=
  if offset = 0 then ['Z']
  else
    (if offset < 0 then '-' else '+') ::
      (padded 2 (offset.natAbs / 3600) ++ ':' :: padded 2 (offset.natAbs / 60 % 60))

def dateText (d : Calendar.Date) : List Char :=
  padded 4 d.year.toNat ++ '-' :: padded 2 d.month ++ '-' :: padded 2 d.day

def clockText (second : Nat) : List Char :=
  padded 2 (second / 3600) ++ ':' :: padded 2 (second / 60 % 60) ++ ':' :: padded 2 (second % 60)

/-- The text of a timestamp. The year is checked first, then the hours of the offset, then its seconds. -/
def text? (t : Timestamp) : Except TextError String :=
  let (date, second) := t.localTime
  if date.year < 0 ∨ 9999 < date.year then .error .year
  else if 23 < t.offset.natAbs / 3600 then .error .offsetHour
  else if t.offset.natAbs % 60 ≠ 0 then .error .offsetSecond
  else .ok (String.ofList
    (dateText date ++ 'T' :: clockText second ++ fractionText t.nanosecond ++ offsetText t.offset))

def TextError.message : TextError → String
  | .year => "The year component cannot be formatted into the requested format."
  | .offsetHour => "The offset_hour component cannot be formatted into the requested format."
  | .offsetSecond => "The offset_second component cannot be formatted into the requested format."

end Timestamp

end SearchFilter

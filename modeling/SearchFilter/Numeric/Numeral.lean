import SearchFilter.Numeric.Binary64
/-!
# Decimal text of numbers

Two forms of decimal text are read: whole numbers that fit 64 signed bits, and numbers with an optional fraction and an optional exponent. A whole number is its sign and its digits and nothing else. Both readers take the whole text or refuse it.
-/

namespace SearchFilter

namespace Numeral

def digitValue (c : Char) : Nat := c.toNat - '0'.toNat

def hexDigit? (c : Char) : Option Nat :=
  if c.isDigit then some (digitValue c)
  else if 'a' ≤ c ∧ c ≤ 'f' then some (c.toNat - 'a'.toNat + 10)
  else if 'A' ≤ c ∧ c ≤ 'F' then some (c.toNat - 'A'.toNat + 10)
  else none

/-- The longest run of digits at the front, and what follows it. -/
def splitDigits (s : List Char) : List Char × List Char := (s.takeWhile Char.isDigit, s.dropWhile Char.isDigit)

/-- A number of exactly `width` digits at the front, and what follows it. -/
def fixedDigits? (width : Nat) (s : List Char) : Option (Nat × List Char) :=
  let digits := s.take width
  if digits.length = width && digits.all Char.isDigit then some (Nat.ofDigitChars 10 digits 0, s.drop width) else none

/-- Whether a minus sign stands in front, and what follows the sign if there is one. -/
def splitSign : List Char → Bool × List Char
  | '-' :: rest => (true, rest)
  | '+' :: rest => (false, rest)
  | s => (false, s)

/-- A signed whole number of any size: an optional sign and one or more digits. -/
def integer? (s : List Char) : Option Int :=
  let (negative, digits) := splitSign s
  if digits.isEmpty || !digits.all Char.isDigit then none
  else
    let magnitude : Int := Nat.ofDigitChars 10 digits 0
    some (if negative then -magnitude else magnitude)

/-- The least and the greatest whole number of 64 signed bits. -/
def minInt64 : Int := -(Nat.pow 2 63 : Int)

def maxInt64 : Int := (Nat.pow 2 63 : Int) - 1

/-- A whole number in the range of 64 signed bits. -/
def int64? (s : List Char) : Option Int64 :=
  (integer? s).bind fun i => if minInt64 ≤ i ∧ i ≤ maxInt64 then some (Int64.ofInt i) else none

/-- The number nearest to `digits * 10 ^ exponent`. Exponents far outside the range of finite numbers are not expanded: with more than 310 digits before the point the result is infinite, and with more than 330 zeros behind it the result is zero. -/
def nearestDecimal (negative : Bool) (digits : Nat) (exponent : Int) : Binary64 :=
  let size : Int := (Nat.toDigits 10 digits).length
  if digits = 0 then .nearest negative 0 1
  else if 310 < size + exponent then .nearest negative (Nat.pow 2 1024) 1
  else if size + exponent < -330 then .nearest negative 0 1
  else .nearest negative (digits * Nat.pow 10 exponent.toNat) (Nat.pow 10 (-exponent).toNat)

/-- The exponent part: nothing, or a letter, an optional sign and one or more digits. -/
def exponent? : List Char → Option Int
  | [] => some 0
  | c :: rest => if c = 'e' ∨ c = 'E' then integer? rest else none

/-- The part behind the whole digits: an optional point with digits behind it, then the exponent. The result is the fraction digits and the exponent. -/
def fraction? : List Char → Option (List Char × Int)
  | '.' :: rest =>
    let (digits, rest) := splitDigits rest
    (exponent? rest).map fun e => (digits, e)
  | rest => (exponent? rest).map fun e => ([], e)

/-- A decimal number with at least one digit before or behind the point, correctly rounded. -/
def binary64? (s : List Char) : Option Binary64 :=
  let (negative, unsigned) := splitSign s
  let (whole, rest) := splitDigits unsigned
  match fraction? rest with
  | none => none
  | some (fraction, exponent) =>
    if whole.isEmpty && fraction.isEmpty then none
    else some (nearestDecimal negative (Nat.ofDigitChars 10 (whole ++ fraction) 0) (exponent - fraction.length))

/-- The text of a whole number: its digits, with a minus sign in front where it is negative. -/
def integerText (i : Int) : String :=
  String.ofList ((if i < 0 then ['-'] else []) ++ Nat.toDigits 10 i.natAbs)

end Numeral

end SearchFilter

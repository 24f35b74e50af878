/-!
# Floating point numbers as bit patterns

A floating point number is kept as its 64 bits, and every operation the library needs is exact arithmetic on naturals and integers followed by at most one rounding, `Binary64.nearest`. Nothing here goes through machine floats, so bounds and exactness can be stated about the functions that run.
-/

namespace SearchFilter

/-- A number in the 64-bit binary interchange format, given by its bits. -/
structure Binary64 where
  bits : UInt64
deriving DecidableEq, Repr

namespace Binary64

/-! ### Fields -/

def isNegative (x : Binary64) : Bool := Nat.pow 2 63 ≤ x.bits.toNat

def exponentField (x : Binary64) : Nat := x.bits.toNat / Nat.pow 2 52 % Nat.pow 2 11

def fractionField (x : Binary64) : Nat := x.bits.toNat % Nat.pow 2 52

def isFinite (x : Binary64) : Bool := x.exponentField < 2047

def isNaN (x : Binary64) : Bool := x.exponentField == 2047 && x.fractionField != 0

/-- The magnitude of a finite number is `significand * 2 ^ scale`. -/
def significand (x : Binary64) : Nat :=
  if x.exponentField = 0 then x.fractionField else Nat.pow 2 52 + x.fractionField

def scale (x : Binary64) : Int :=
  if x.exponentField = 0 then -1074 else (x.exponentField : Int) - 1075

/-- The gap to the next smaller magnitude is half the gap to the next larger one. This happens at powers of two, the least normal one apart. -/
def isNarrowBelow (x : Binary64) : Bool := x.fractionField == 0 && 1 < x.exponentField

/-! ### Rounding -/

/-- The integer nearest to `num / den`, the even one of two. -/
def roundHalfEven (num den : Nat) : Nat :=
  let quotient := num / den
  let twice := 2 * (num % den)
  if twice < den then quotient
  else if den < twice then quotient + 1
  else quotient + quotient % 2

/-- The exponent of the leading binary digit of the positive quotient `num / den`. -/
def leadingExponent (num den : Nat) : Int :=
  let guess : Int := (num.log2 : Int) - (den.log2 : Int)
  if den * Nat.pow 2 guess.toNat ≤ num * Nat.pow 2 (-guess).toNat then guess else guess - 1

/-- The exponent bits and fraction bits of the quotient, one natural number. A carry out of the fraction moves into the exponent, which is the right result there too. -/
def magnitudeBits (num den : Nat) : Nat :=
  if num = 0 then 0
  else
    let step := max (leadingExponent num den - 52) (-1074)
    let rounded := roundHalfEven (num * Nat.pow 2 (-step).toNat) (den * Nat.pow 2 step.toNat)
    min ((step + 1074).toNat * Nat.pow 2 52 + rounded) (2047 * Nat.pow 2 52)

def ofMagnitudeBits (negative : Bool) (magnitude : Nat) : Binary64 :=
  ⟨UInt64.ofNat ((if negative then Nat.pow 2 63 else 0) + magnitude)⟩

/-- The number nearest to `num / den`, ties to even, with the given sign. Magnitudes beyond the largest finite number round to infinity. -/
def nearest (negative : Bool) (num den : Nat) : Binary64 :=
  ofMagnitudeBits negative (magnitudeBits num den)

def ofInt (i : Int) : Binary64 := nearest (decide (i < 0)) i.natAbs 1

def ofNat (n : Nat) : Binary64 := nearest false n 1

def zero : Binary64 := ⟨0⟩

/-- The same magnitude with the other sign. -/
def neg (x : Binary64) : Binary64 := ofMagnitudeBits (!x.isNegative) (x.bits.toNat % Nat.pow 2 63)

def isZero (x : Binary64) : Bool := x.bits.toNat % Nat.pow 2 63 == 0

/-! ### Exact values -/

/-- The magnitude of a finite number as a quotient of naturals. -/
def numerator (x : Binary64) : Nat := x.significand * Nat.pow 2 x.scale.toNat

def denominator (x : Binary64) : Nat := Nat.pow 2 (-x.scale).toNat

/-- The product of two finite numbers, rounded once. -/
def mul (x y : Binary64) : Binary64 :=
  nearest (x.isNegative != y.isNegative) (x.numerator * y.numerator) (x.denominator * y.denominator)

/-- The quotient of two finite numbers, rounded once. The divisor is not zero. -/
def div (x y : Binary64) : Binary64 :=
  nearest (x.isNegative != y.isNegative) (x.numerator * y.denominator) (x.denominator * y.numerator)

/-- The exact value, when it is finite and an integer. -/
def integer? (x : Binary64) : Option Int :=
  if x.isFinite && x.numerator % x.denominator == 0 then
    let magnitude : Int := x.numerator / x.denominator
    some (if x.isNegative then -magnitude else magnitude)
  else none

end Binary64

end SearchFilter

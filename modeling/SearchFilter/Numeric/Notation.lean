import SearchFilter.Numeric.Shortest
/-!
# Writing numbers

A `NumberStyle` holds the decisions about how a selected decimal is laid out; `Binary64.render` lays it out. There are two styles. Bind parameters that are text hold a number in positional form, however long. Reports hold numbers that stay recognisable as floating point.
-/

namespace SearchFilter

structure NumberStyle where
  /-- Which of two equally near decimals is taken. -/
  tie : Tie
  /-- Whole numbers keep a point and a zero. -/
  pointZero : Bool
  /-- The exponents of the leading digit that are written positionally, from the first up to and without the second. The others get a signed exponent. `none` writes all of them positionally. -/
  positional : Option (Int × Int)
deriving DecidableEq, Repr

namespace NumberStyle

/-- Positional at every magnitude, with no point in whole numbers. -/
def text : NumberStyle where
  tie := .upward
  pointZero := false
  positional := none

/-- Positional from `1e-5` up to and without `1e16`, with a point in whole numbers. -/
def report : NumberStyle where
  tie := .toEven
  pointZero := true
  positional := some (-5, 16)

end NumberStyle

namespace Decimal

/-- The digits with the point in its place. -/
def positional (pointZero : Bool) (d : Decimal) : String :=
  let digits := Nat.toDigits 10 d.digits
  let whole : Int := (digits.length : Int) + d.exponent
  if 0 ≤ d.exponent then
    String.ofList (digits ++ List.replicate d.exponent.toNat '0') ++ (if pointZero then ".0" else "")
  else if 0 < whole then
    String.ofList (digits.take whole.toNat ++ '.' :: digits.drop whole.toNat)
  else
    String.ofList ('0' :: '.' :: List.replicate (-whole).toNat '0' ++ digits)

/-- One digit before the point, and the exponent with its sign. -/
def scientific (d : Decimal) : String :=
  let digits := Nat.toDigits 10 d.digits
  let exponent : Int := (digits.length : Int) + d.exponent - 1
  let mantissa := match digits with
    | first :: second :: rest => first :: '.' :: second :: rest
    | short => short
  String.ofList mantissa ++ (if exponent < 0 then "e-" else "e+") ++ toString exponent.natAbs

def leadingExponent (d : Decimal) : Int := ((Nat.toDigits 10 d.digits).length : Int) + d.exponent - 1

def render (style : NumberStyle) (d : Decimal) : String :=
  match style.positional with
  | none => d.positional style.pointZero
  | some (first, past) =>
    if first ≤ d.leadingExponent ∧ d.leadingExponent < past then d.positional style.pointZero
    else d.scientific

end Decimal

namespace Binary64

/-- The text of a number. The sign of zero is kept. -/
def render (style : NumberStyle) (x : Binary64) : String :=
  if x.isNaN then "NaN"
  else
    let sign := if x.isNegative then "-" else ""
    if !x.isFinite then sign ++ "inf"
    else if x.isZero then sign ++ (if style.pointZero then "0.0" else "0")
    else sign ++ (x.shortest style.tie).render style

end Binary64

end SearchFilter

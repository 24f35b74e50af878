import SearchFilter.Numeric.Binary64
/-!
# The fewest digits that identify a number

The reals that round to a floating point number form an interval around it, closed exactly when the significand is even. `Binary64.shortest` picks the decimal with the fewest digits in that interval: for one digit, two digits and so on it tests the two decimals of that length that enclose the number, and the first length with a hit wins. Of two hits the nearer wins, and `Tie` decides between equally near ones. All comparisons are between naturals.
-/

namespace SearchFilter

/-- The decimal number `digits * 10 ^ exponent`. -/
structure Decimal where
  digits : Nat
  exponent : Int
deriving DecidableEq, Repr

inductive Tie where
  | toEven
  | upward
deriving DecidableEq, Repr

namespace Decimal

/-- Moves trailing zeros of the digits into the exponent. A number has fewer digits than `fuel`. -/
def stripZerosAux : Nat → Decimal → Decimal
  | 0, d => d
  | fuel + 1, d =>
    if d.digits ≠ 0 ∧ d.digits % 10 = 0 then stripZerosAux fuel ⟨d.digits / 10, d.exponent + 1⟩ else d

def stripZeros (d : Decimal) : Decimal := stripZerosAux (d.digits.log2 + 1) d

end Decimal

namespace Binary64

/-- The reals that round to a positive number, scaled by `unit` to naturals: `low` and `high` are the ends, `middle` is the number itself. -/
structure RoundingInterval where
  low : Nat
  middle : Nat
  high : Nat
  unit : Nat
  closed : Bool
deriving DecidableEq, Repr

def roundingInterval (x : Binary64) : RoundingInterval :=
  let stretch := Nat.pow 2 (x.scale - 2).toNat
  { low := (if x.isNarrowBelow then 4 * x.significand - 1 else 4 * x.significand - 2) * stretch
    middle := 4 * x.significand * stretch
    high := (4 * x.significand + 2) * stretch
    unit := Nat.pow 2 (2 - x.scale).toNat
    closed := x.significand % 2 == 0 }

/-- The decimal `digits * 10 ^ exponent` lies in the interval. -/
def RoundingInterval.holds (i : RoundingInterval) (digits : Nat) (exponent : Int) : Bool :=
  let candidate := digits * Nat.pow 10 exponent.toNat * i.unit
  let shrink := Nat.pow 10 (-exponent).toNat
  if i.closed then i.low * shrink ≤ candidate && candidate ≤ i.high * shrink
  else i.low * shrink < candidate && candidate < i.high * shrink

/-- The decimal on the grid of multiples of `10 ^ exponent` that is nearest to the number, among those of the two enclosing ones that lie in the interval. -/
def RoundingInterval.onGrid? (i : RoundingInterval) (tie : Tie) (exponent : Int) : Option Decimal :=
  let scaled := i.middle * Nat.pow 10 (-exponent).toNat
  let grid := i.unit * Nat.pow 10 exponent.toNat
  let below := scaled / grid
  let twice := 2 * (scaled % grid)
  let pick : Nat :=
    if twice < grid then below
    else if grid < twice then below + 1
    else match tie with
      | .upward => below + 1
      | .toEven => below + below % 2
  match i.holds below exponent, i.holds (below + 1) exponent with
  | true, true => some ⟨pick, exponent⟩
  | true, false => some ⟨below, exponent⟩
  | false, true => some ⟨below + 1, exponent⟩
  | false, false => none

/-- The least `k` near the estimate with the number below `10 ^ k`. -/
def RoundingInterval.decimalMagnitude (i : RoundingInterval) : Int :=
  let binary : Int := (i.middle.log2 : Int) - (i.unit.log2 : Int)
  let estimate := binary * 30103 / 100000 - 1
  let exceeds (k : Int) : Bool := i.middle * Nat.pow 10 (-k).toNat < i.unit * Nat.pow 10 k.toNat
  ([estimate, estimate + 1, estimate + 2, estimate + 3].find? exceeds).getD (estimate + 4)

/-- The shortest decimal that reads back as the magnitude of a finite number other than zero. Seventeen digits always suffice; the exact value stands behind them. -/
def shortest (tie : Tie) (x : Binary64) : Decimal :=
  let interval := x.roundingInterval
  let magnitude := interval.decimalMagnitude
  let found := (List.range 17).findSome? fun (n : Nat) => interval.onGrid? tie (magnitude - n - 1)
  (found.getD ⟨x.significand * Nat.pow 5 (-x.scale).toNat * Nat.pow 2 x.scale.toNat, min x.scale 0⟩).stripZeros

end Binary64

end SearchFilter

/-!
# Tables of code points

Properties of characters are kept as ascending lists of closed ranges of code points, and case mappings as runs of code points that all move by the same distance. The tables of this library follow version 17 of the character database.
-/

namespace SearchFilter

namespace CodePoint

/-- The character lies in one of the closed ranges. -/
def inRanges (ranges : List (Nat × Nat)) (c : Char) : Bool :=
  ranges.any fun range => range.1 ≤ c.toNat && c.toNat ≤ range.2

end CodePoint

/-- The code points `first`, `first + step`, and so on up to `last`, which a case mapping sends to `image`, `image + step`, and so on. -/
structure CaseRun where
  first : Nat
  last : Nat
  step : Nat
  image : Nat
deriving DecidableEq, Repr

namespace CaseRun

def holds (run : CaseRun) (codePoint : Nat) : Bool :=
  run.first ≤ codePoint && codePoint ≤ run.last && (codePoint - run.first) % run.step == 0

/-- The image of a character under the first run that holds it. The others map to themselves. -/
def apply (runs : List CaseRun) (c : Char) : Char :=
  match runs.find? (holds · c.toNat) with
  | some run => Char.ofNat (run.image + (c.toNat - run.first))
  | none => c

end CaseRun

end SearchFilter

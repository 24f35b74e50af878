import SearchFilter.Text.CodePoint
/-!
# White space and trimming

Blank characters are those with the white space property, which are 25. Trimming removes them from the ends of a text.
-/

namespace SearchFilter

namespace Text

def blankRanges : List (Nat × Nat) :=
  [
    (0x9, 0xD), (0x20, 0x20), (0x85, 0x85), (0xA0, 0xA0), (0x1680, 0x1680), (0x2000, 0x200A),
    (0x2028, 0x2029), (0x202F, 0x202F), (0x205F, 0x205F), (0x3000, 0x3000)]

def isBlank (c : Char) : Bool := CodePoint.inRanges blankRanges c

/-- The list without the longest runs at its ends of elements that satisfy `p`. -/
def dropEnds {α : Type} (p : α → Bool) (l : List α) : List α :=
  ((l.dropWhile p).reverse.dropWhile p).reverse

def trimStart (s : String) : String := String.ofList (s.toList.dropWhile isBlank)

def trimEnd (s : String) : String := String.ofList (s.toList.reverse.dropWhile isBlank).reverse

def trim (s : String) : String := String.ofList (dropEnds isBlank s.toList)

end Text

end SearchFilter

/-!
# The order of texts

Texts, and what is known by a text, in the order of code points.
-/

namespace SearchFilter

namespace Text

/-- The elements in the order of the code points of their keys. Elements with the same key keep their order. -/
def sortByKey {α : Type} (key : α → String) (l : List α) : List α :=
  l.foldr (fun a sorted => sorted.takeWhile (key · < key a) ++ a :: sorted.dropWhile (key · < key a)) []

def sort (texts : List String) : List String := sortByKey id texts

end Text

end SearchFilter

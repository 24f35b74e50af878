import SearchFilter.Text.Cased
import SearchFilter.Text.CaseMapping
/-!
# Upper and lower case of texts

Upper case is taken character by character. So is lower case, with one exception: a capital sigma at the end of a word becomes a final sigma. It ends a word when the nearest character before it that is not case ignorable is cased, and the nearest such character behind it is not.
-/

namespace SearchFilter

namespace Text

/-- The first character that is not case ignorable exists and is cased. -/
def startsCased (l : List Char) : Bool :=
  match l.dropWhile isCaseIgnorable with
  | c :: _ => isCased c
  | [] => false

/-- The lower case form of `rest`, where `before` holds the characters in front of it, the nearest first. -/
def lowercaseAux (before : List Char) : List Char → List Char
  | [] => []
  | c :: rest =>
    let image := if c = 'Σ' then [if startsCased before && !startsCased rest then 'ς' else 'σ'] else lowercaseChar c
    image ++ lowercaseAux (c :: before) rest

def lowercase (s : String) : String := String.ofList (lowercaseAux [] s.toList)

def uppercase (s : String) : String := String.ofList (s.toList.flatMap uppercaseChar)

end Text

end SearchFilter

import SearchFilter.Text.Alphanumeric
import SearchFilter.Text.Blank
import SearchFilter.Text.LetterCase
/-!
# Keywords

The words of a text that are worth searching for. A word is made of letters, digits, apostrophes and hyphens, and has neither apostrophes nor hyphens at its ends. Words that are too common to tell texts apart are dropped, in whatever case they are written.
-/

namespace SearchFilter

namespace Keywords

/-- The words that are dropped. -/
def stopWords : List String :=
  ["a", "an", "and", "are", "as", "at", "be", "but", "by", "for", "if", "in", "into", "is", "it",
    "no", "not", "of", "on", "or", "such", "that", "the", "their", "then", "there", "these",
    "they", "this", "to", "was", "will", "with"]

/-- Apostrophes and hyphens belong to a word only inside it. -/
def isInner (c : Char) : Bool := c == '\x27' || c == '-'

def isWordChar (c : Char) : Bool := Text.isAlphanumeric c || isInner c

def isStopWord (word : String) : Bool := stopWords.contains (Text.lowercase word)

/-- Removes apostrophes and hyphens from both ends. -/
def trimWord (word : List Char) : List Char := Text.dropEnds isInner word

/-- The words of a text, the empty and the common ones left out. -/
def tokens (text : String) : List String :=
  ((text.toList.splitOnP fun c => !isWordChar c).map trimWord).filterMap fun word =>
    if word.isEmpty || isStopWord (String.ofList word) then none else some (String.ofList word)

end Keywords

end SearchFilter

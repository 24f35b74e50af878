import SearchFilter.Toml.Document
import SearchFilter.Numeric.Numeral
import SearchFilter.Time.Calendar
/-!
# Reading TOML

The reader takes version 1.1 of the format: an inline table may span lines, even around an equals sign, and end with a comma, a time of day may leave out its seconds, and a basic string knows the escapes `\e` and `\x`. What is not valid is refused as a whole, with no attempt to tell where.

Only whole numbers are taken more loosely. The letter of a base without digits behind it, or further characters behind an underscore, make a number without a value, and whether that matters is for those to say who ask for the value.

Every function returns what it read together with what follows it. A line ends with a line feed, which may have one carriage return in front.
-/

namespace SearchFilter

namespace Toml

open Numeral (hexDigit? fixedDigits?)

/-! ### Blanks, comments and line ends -/

def isSpace (c : Char) : Bool := c == ' ' || c == '\t'

def skipSpaces (s : List Char) : List Char := s.dropWhile isSpace

/-- Tabs are the only control characters in comments and in strings of one line. -/
def isPlain (c : Char) : Bool := c == '\t' || (0x20 ≤ c.toNat && c.toNat ≠ 0x7F)

def lineEnd? : List Char → Option (List Char)
  | '\n' :: rest => some rest
  | '\r' :: '\n' :: rest => some rest
  | _ => none

def skipComment : List Char → List Char
  | '#' :: rest => rest.dropWhile isPlain
  | s => s

/-- What follows this line, if only spaces and a comment are left on it. The end of the text ends a line, too. -/
def restOfLine? (s : List Char) : Option (List Char) :=
  match skipComment (skipSpaces s) with
  | [] => some []
  | s => lineEnd? s

/-- Skips spaces, line ends and comments. A comment has to end with its line. -/
def skipLines? (inComment : Bool) : List Char → Option (List Char)
  | [] => some []
  | '\n' :: rest => skipLines? false rest
  | '\r' :: '\n' :: rest => skipLines? false rest
  | c :: rest =>
    if inComment then if isPlain c then skipLines? true rest else none
    else if isSpace c then skipLines? false rest
    else if c = '#' then skipLines? true rest
    else some (c :: rest)

/-! ### Strings -/

/-- A number of exactly `width` hexadecimal digits, continuing from the digits already read. -/
def hexadecimal? (start : Nat) : Nat → List Char → Option (Nat × List Char)
  | 0, s => some (start, s)
  | _ + 1, [] => none
  | width + 1, c :: rest =>
    match hexDigit? c with
    | none => none
    | some digit => hexadecimal? (16 * start + digit) width rest

/-- The character whose code point has `width` hexadecimal digits. Surrogates are no characters. -/
def codePoint? (width : Nat) (s : List Char) : Option (Char × List Char) :=
  match hexadecimal? 0 width s with
  | none => none
  | some (n, rest) => if h : n.isValidChar then some (Char.ofNatAux n h, rest) else none

def escaped? : List Char → Option (Char × List Char)
  | [] => none
  | c :: rest =>
    match c with
    | 'b' => some ('\x08', rest)
    | 't' => some ('\t', rest)
    | 'n' => some ('\n', rest)
    | 'f' => some ('\x0c', rest)
    | 'r' => some ('\r', rest)
    | 'e' => some ('\x1b', rest)
    | '"' => some ('"', rest)
    | '\\' => some ('\\', rest)
    | 'x' => codePoint? 2 rest
    | 'u' => codePoint? 4 rest
    | 'U' => codePoint? 8 rest
    | _ => none

/-- The characters of a basic string behind its opening quote. -/
def basicBody? : Nat → List Char → Option (List Char × List Char)
  | 0, _ => none
  | _ + 1, [] => none
  | fuel + 1, c :: rest =>
    if c = '"' then some ([], rest)
    else if c = '\\' then
      match escaped? rest with
      | none => none
      | some (c, rest) => (basicBody? fuel rest).map fun (body, rest) => (c :: body, rest)
    else if isPlain c then (basicBody? fuel rest).map fun (body, rest) => (c :: body, rest)
    else none

/-- The characters of a literal string behind its opening quote. -/
def literalBody? : List Char → Option (List Char × List Char)
  | [] => none
  | c :: rest =>
    if c = '\x27' then some ([], rest)
    else if isPlain c then (literalBody? rest).map fun (body, rest) => (c :: body, rest)
    else none

/-- Up to two quotes in front of the three that close a string belong to it. The text starts behind three quotes. -/
def closingQuotes (quote : Char) : List Char → List Char × List Char
  | [] => ([], [])
  | [c] => if c = quote then ([quote], []) else ([], [c])
  | c :: d :: rest =>
    if c = quote then if d = quote then ([quote, quote], rest) else ([quote], d :: rest)
    else ([], c :: d :: rest)

def threeQuotes? (quote : Char) (s : List Char) : Option (List Char) :=
  List.isPrefixOf? [quote, quote, quote] s

/-- What follows a backslash that joins lines: spaces, a line end, and all spaces and line ends after it. -/
def joinedLine? (s : List Char) : Option (List Char) :=
  match lineEnd? (skipSpaces s) with
  | none => none
  | some rest => some (skipBlankLines rest)
where
  skipBlankLines : List Char → List Char
    | '\r' :: '\n' :: rest => skipBlankLines rest
    | c :: rest => if c = '\n' ∨ isSpace c then skipBlankLines rest else c :: rest
    | [] => []

/-- The characters of a string of several lines behind its opening quotes. Only basic strings have escapes. -/
def linesBody? (quote : Char) (escapes : Bool) : Nat → List Char → Option (List Char × List Char)
  | 0, _ => none
  | _ + 1, [] => none
  | fuel + 1, c :: rest =>
    match threeQuotes? quote (c :: rest) with
    | some rest => some (closingQuotes quote rest)
    | none =>
      if c = '\\' ∧ escapes then
        match joinedLine? rest with
        | some rest => linesBody? quote escapes fuel rest
        | none =>
          match escaped? rest with
          | none => none
          | some (c, rest) => (linesBody? quote escapes fuel rest).map fun (body, rest) => (c :: body, rest)
      else if c = '\n' ∨ isPlain c then
        (linesBody? quote escapes fuel rest).map fun (body, rest) => (c :: body, rest)
      else
        match lineEnd? (c :: rest) with
        | none => none
        | some rest => (linesBody? quote escapes fuel rest).map fun (body, rest) => (c :: '\n' :: body, rest)

/-- A line end directly behind the opening quotes does not belong to the string. -/
def skipFirstLineEnd (s : List Char) : List Char := (lineEnd? s).getD s

def lineString? : List Char → Option (List Char × List Char)
  | '"' :: rest => basicBody? (rest.length + 1) rest
  | '\x27' :: rest => literalBody? rest
  | _ => none

def string? (s : List Char) : Option (List Char × List Char) :=
  match threeQuotes? '"' s with
  | some rest => linesBody? '"' true (rest.length + 1) (skipFirstLineEnd rest)
  | none =>
    match threeQuotes? '\x27' s with
    | some rest => linesBody? '\x27' false (rest.length + 1) (skipFirstLineEnd rest)
    | none => lineString? s

/-! ### Keys -/

def isBareKeyChar (c : Char) : Bool :=
  c.isAlphanum || c == '_' || c == '-'

/-- One key: a string of one line, or a run of letters, digits, underscores and hyphens. -/
def simpleKey? (s : List Char) : Option (String × List Char) :=
  match s with
  | [] => none
  | c :: _ =>
    if c = '"' ∨ c = '\x27' then (lineString? s).map fun (body, rest) => (String.ofList body, rest)
    else
      let key := s.takeWhile isBareKeyChar
      if key.isEmpty then none else some (String.ofList key, s.dropWhile isBareKeyChar)

/-- A dotted key has at most this many keys. -/
def maxKeys : Nat := 80

/-- At most `limit` keys with points between them. The keys in front of the last one come first. Spaces may stand around keys, line ends may not. -/
def keys? : Nat → List Char → Option (List String × String × List Char)
  | 0, _ => none
  | limit + 1, s =>
    match simpleKey? (skipSpaces s) with
    | none => none
    | some (key, rest) =>
      match skipSpaces rest with
      | '.' :: rest => (keys? limit rest).map fun (path, last, rest) => (key :: path, last, rest)
      | rest => some ([], key, rest)

/-- A dotted key: the path in front of its last key, and that key. -/
def dottedKey? (s : List Char) : Option (List String × String × List Char) := keys? maxKeys s

/-! ### Numbers -/

/-- Drops underscores, each of which has to stand between two digits. -/
def dropUnderscores? (accepts : Char → Bool) (s : List Char) : Option (List Char) := continue? false s
where
  continue? (behindDigit : Bool) : List Char → Option (List Char)
    | [] => some []
    | c :: rest =>
      if c = '_' then
        if behindDigit && rest.head?.any accepts then continue? false rest else none
      else (continue? (accepts c) rest).map (c :: ·)

def isSign (c : Char) : Bool := c == '+' || c == '-'

def splitSign (s : List Char) : Option Char × List Char :=
  match s with
  | c :: rest => if isSign c then (some c, rest) else (none, s)
  | [] => (none, [])

def startsWithZero (s : List Char) : Bool := s.head? == some '0'

/-- Whole numbers are held in 128 bits: negative ones with a sign, the others without one. -/
def integerForm (i : Int) : Scalar := if -(Nat.pow 2 127 : Int) ≤ i ∧ i < Nat.pow 2 128 then .integer else .valueless

def valueIn (base : Nat) (digits : List Char) : Nat :=
  digits.foldl (fun value c => base * value + (hexDigit? c).getD 0) 0

def isHexDigit (c : Char) : Bool := (hexDigit? c).isSome

def isOctalDigit (c : Char) : Bool := '0' ≤ c && c ≤ '7'

def isBinaryDigit (c : Char) : Bool := c == '0' || c == '1'

/-- A whole number behind the letter of its base. It needs a digit only to have a value. -/
def basedInteger? (base : Nat) (accepts : Char → Bool) (s : List Char) : Option Scalar :=
  match dropUnderscores? accepts s with
  | none => none
  | some [] => some .valueless
  | some digits => if digits.all accepts then some (integerForm (valueIn base digits)) else none

def excludesInteger (c : Char) : Bool := c == '.' || c == 'e' || c == 'E' || c == ' '

/-- A whole number in base ten. Behind its first underscore other characters than digits may follow, as long as underscores stand between digits of base sixteen, but then the number has no value. -/
def decimalInteger? (s : List Char) : Option Scalar :=
  let (sign, unsigned) := splitSign s
  match unsigned.dropWhile Char.isDigit with
  | [] => if unsigned.isEmpty || (startsWithZero unsigned && unsigned ≠ ['0']) then none else form sign unsigned
  | c :: rest =>
    if c ≠ '_' || startsWithZero unsigned || rest.any excludesInteger then none
    else (dropUnderscores? isHexDigit unsigned).bind (form sign)
where
  form (sign : Option Char) (digits : List Char) : Option Scalar :=
    if digits.all Char.isDigit then
      let magnitude : Int := valueIn 10 digits
      some (integerForm (if sign = some '-' then -magnitude else magnitude))
    else some .valueless

/-- A whole number, with a letter that names its base or in base ten. -/
def integer? (s : List Char) : Option Scalar :=
  match s with
  | '0' :: 'x' :: rest => basedInteger? 16 isHexDigit rest
  | '0' :: 'o' :: rest => basedInteger? 8 isOctalDigit rest
  | '0' :: 'b' :: rest => basedInteger? 2 isBinaryDigit rest
  | s => decimalInteger? s

/-- The text in front of the first character that satisfies `p`, and the text behind that character, if there is one. -/
def cutAt (p : Char → Bool) (s : List Char) : List Char × Option (List Char) :=
  match s.dropWhile fun c => !p c with
  | [] => (s, none)
  | _ :: rest => (s.takeWhile fun c => !p c, some rest)

def digits? (s : List Char) : Option (List Char) := if !s.isEmpty && s.all Char.isDigit then some s else none

/-- A part that may be absent, but is made of digits where it is present. -/
def optionalDigits? : Option (List Char) → Option (List Char)
  | none => some []
  | some s => digits? s

/-- A number with a fraction or an exponent or both, or one of the words for infinity and for no number. -/
def float? (s : List Char) : Option Scalar :=
  let unsigned := (splitSign s).2
  if unsigned = ['i', 'n', 'f'] ∨ unsigned = ['n', 'a', 'n'] then some .float
  else do
    let (mantissa, exponent) := cutAt (fun c => c == 'e' || c == 'E') (← dropUnderscores? Char.isDigit unsigned)
    let (whole, fraction) := cutAt (· == '.') mantissa
    if exponent.isNone && fraction.isNone then none
    let wholeDigits ← digits? whole
    if startsWithZero unsigned && wholeDigits.length ≠ 1 then none
    let fractionDigits ← optionalDigits? fraction
    let (exponentSign, exponentText) := splitSign (exponent.getD ['0'])
    let exponentDigits ← digits? exponentText
    let magnitude : Int := Nat.ofDigitChars 10 exponentDigits 0
    let power := if exponentSign = some '-' then -magnitude else magnitude
    let digits := Nat.ofDigitChars 10 (wholeDigits ++ fractionDigits) 0
    let x := Numeral.nearestDecimal false digits (power - fractionDigits.length)
    return if x.isFinite then .float else .valueless

/-! ### Dates and times -/

def afterDate? (s : List Char) : Option (List Char) := do
  let (year, s) ← fixedDigits? 4 s
  let (month, s) ← fixedDigits? 2 (← List.isPrefixOf? ['-'] s)
  let (day, s) ← fixedDigits? 2 (← List.isPrefixOf? ['-'] s)
  if (Calendar.Date.mk year month day).Valid then some s else none

def afterFraction? : List Char → Option (List Char)
  | '.' :: s =>
    let (digits, rest) := Numeral.splitDigits s
    if digits.isEmpty then none else some rest
  | s => some s

/-- What follows a time of day. Seconds are optional, and one may be a leap second. -/
def afterTime? (s : List Char) : Option (List Char) := do
  let (hour, s) ← fixedDigits? 2 s
  let (minute, s) ← fixedDigits? 2 (← List.isPrefixOf? [':'] s)
  if 24 ≤ hour ∨ 60 ≤ minute then none
  match s with
  | ':' :: s =>
    let (second, s) ← fixedDigits? 2 s
    if 60 < second then none
    afterFraction? s
  | s => some s

/-- An optional offset from universal time is all that is left. -/
def isOffset : List Char → Bool
  | [] => true
  | c :: s =>
    if c = 'Z' ∨ c = 'z' then s.isEmpty
    else if c = '+' ∨ c = '-' then
      let offset? : Option Bool := do
        let (hour, s) ← fixedDigits? 2 s
        let (minute, s) ← fixedDigits? 2 (← List.isPrefixOf? [':'] s)
        return hour < 24 && minute < 60 && s.isEmpty
      offset?.getD false
    else false

/-- A date, a time of day, or both with an optional offset. -/
def isDatetime (s : List Char) : Bool :=
  match afterDate? s with
  | some [] => true
  | some (c :: rest) =>
    (c == 'T' || c == 't' || c == ' ') && match afterTime? rest with
      | some rest => isOffset rest
      | none => false
  | none => afterTime? s == some []

/-! ### Values -/

/-- A scalar that is no string ends at a blank, a line end, a comment or a mark of a key, a list or a table. -/
def isScalarChar (c : Char) : Bool := c ∉ [' ', '\t', '\r', '\n', '#', '=', ',', '[', ']', '\x7b', '\x7d']

/-- Behind a blank a scalar goes on with any character of its own but a quote or a point. -/
def continuesScalar (c : Char) : Bool := isScalarChar c && c ∉ ['"', '\x27', '.']

/-- The text of a scalar that is no string. It may have blanks inside, as between a date and a time of day. -/
def splitScalar : List Char → List Char × List Char
  | [] => ([], [])
  | c :: rest =>
    if isScalarChar c || (isSpace c && (skipSpaces rest).head?.any continuesScalar) then
      let (chars, rest) := splitScalar rest
      (c :: chars, rest)
    else ([], c :: rest)

def scalar? (s : List Char) : Option (Scalar × List Char) :=
  let (chars, rest) := splitScalar s
  if chars = ['t', 'r', 'u', 'e'] ∨ chars = ['f', 'a', 'l', 's', 'e'] then some (.boolean, rest)
  else if isDatetime chars then some (.datetime, rest)
  else (integer? chars <|> float? chars).map fun form => (form, rest)

/-- What follows an equals sign inside an inline table, where lines may end on both sides of it. -/
def behindEquals? (s : List Char) : Option (List Char) := do
  skipLines? false (← List.isPrefixOf? ['='] (← skipLines? false s))

/-- Lists and inline tables are nested at most this deep. -/
def maxDepth : Nat := 80

mutual

/-- A value. The fuel bounds the nesting of calls, `depth` that of the lists and inline tables that may still open. -/
def value? : Nat → Nat → List Char → Option (Toml × List Char)
  | 0, _, _ => none
  | _ + 1, _, [] => none
  | fuel + 1, depth, c :: rest =>
    if c = '"' ∨ c = '\x27' then (string? (c :: rest)).map fun (body, rest) => (.text (String.ofList body), rest)
    else if c = '[' then
      if depth = 0 then none
      else (items? fuel (depth - 1) rest).map fun (items, rest) => (.list items, rest)
    else if c = '\x7b' then
      if depth = 0 then none
      else (members? fuel (depth - 1) [] rest).map fun (entries, rest) => (.table (Entry.closeTable entries), rest)
    else (scalar? (c :: rest)).map fun (form, rest) => (.scalar form, rest)

/-- The items of a list behind its opening bracket or behind a comma. -/
def items? : Nat → Nat → List Char → Option (List Toml × List Char)
  | 0, _, _ => none
  | fuel + 1, depth, s =>
    match skipLines? false s with
    | none => none
    | some (']' :: rest) => some ([], rest)
    | some s =>
      match value? fuel depth s with
      | none => none
      | some (item, rest) =>
        match skipLines? false rest with
        | some (',' :: rest) => (items? fuel depth rest).map fun (items, rest) => (item :: items, rest)
        | some (']' :: rest) => some ([item], rest)
        | _ => none

/-- The members of an inline table behind its opening brace or behind a comma, added to those before them. -/
def members? : Nat → Nat → Entries → List Char → Option (Entries × List Char)
  | 0, _, _, _ => none
  | fuel + 1, depth, entries, s =>
    match skipLines? false s with
    | none => none
    | some ('\x7d' :: rest) => some (entries, rest)
    | some s =>
      match dottedKey? s with
      | none => none
      | some (path, key, rest) =>
        match behindEquals? rest with
        | none => none
        | some rest =>
          match value? fuel depth rest with
          | none => none
          | some (value, rest) =>
            match entries.assign path key value with
            | none => none
            | some entries =>
              match skipLines? false rest with
              | some (',' :: rest) => members? fuel depth entries rest
              | some ('\x7d' :: rest) => some (entries, rest)
              | _ => none

end

/-! ### Documents -/

/-- A key, an equals sign and a value, added to the table of the header in force. -/
def keyValue? (header : List String) (root : Entries) (s : List Char) : Option (Entries × List Char) := do
  let (path, key, s) ← dottedKey? s
  let s := skipSpaces (← List.isPrefixOf? ['='] s)
  let (value, s) ← value? (2 * s.length + 2) maxDepth s
  let root ← root.change (fun entries => entries.assign path key value) header
  return (root, ← restOfLine? s)

/-- A header behind its first bracket. The result is the path of the header and the tables with the new one opened. -/
def header? (root : Entries) (s : List Char) : Option (List String × Entries × List Char) :=
  match s with
  | '[' :: s => do
    let (path, key, s) ← dottedKey? s
    let root ← root.change (fun entries => entries.openListItem key) path
    return (path ++ [key], root, ← restOfLine? (← List.isPrefixOf? [']', ']'] s))
  | s => do
    let (path, key, s) ← dottedKey? s
    let root ← root.change (fun entries => entries.openTable key) path
    return (path ++ [key], root, ← restOfLine? (← List.isPrefixOf? [']'] s))

/-- The lines of a document, each added to the tables before it. -/
def lines? : Nat → List String → Entries → List Char → Option Entries
  | 0, _, _, _ => none
  | fuel + 1, header, root, s =>
    match skipLines? false s with
    | none => none
    | some [] => some root
    | some ('[' :: rest) =>
      match header? root rest with
      | none => none
      | some (header, root, rest) => lines? fuel header root rest
    | some s =>
      match keyValue? header root s with
      | none => none
      | some (root, rest) => lines? fuel header root rest

def skipByteOrderMark : List Char → List Char
  | '\ufeff' :: rest => rest
  | s => s

def ofText? (text : String) : Option (List (String × Toml)) :=
  let s := skipByteOrderMark text.toList
  (lines? (s.length + 1) [] [] s).map Entry.closeTable

end Toml

end SearchFilter

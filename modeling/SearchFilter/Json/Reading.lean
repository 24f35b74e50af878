import SearchFilter.Json.Document
import SearchFilter.Numeric.Numeral
/-!
# Reading JSON

The reader takes strict JSON and nothing else. Every function returns what it read together with what follows it.

Floating point numbers are read with one 64-bit significand. It takes digits as long as they fit; whole digits beyond that only raise the exponent, and fraction digits beyond that are dropped. The result is the significand, rounded to a floating point number, multiplied or divided by a power of ten that is itself rounded, so it is not always the nearest number.
-/

namespace SearchFilter

namespace Json

open Numeral (digitValue hexDigit? splitDigits)

/-! ### Numbers -/

def maxSignificand : Nat := Nat.pow 2 64 - 1

/-- Appends digits to a significand as long as it fits, and returns the digits that did not. -/
def absorb (significand : Nat) : List Char → Nat × List Char
  | [] => (significand, [])
  | d :: rest =>
    if 10 * significand + digitValue d ≤ maxSignificand then absorb (10 * significand + digitValue d) rest
    else (significand, d :: rest)

/-- The powers of ten that are finite numbers, each rounded once. -/
def powerOfTen (n : Nat) : Binary64 := .ofNat (Nat.pow 10 n)

/-- Divides by a power of ten in steps of at most 308. A 64-bit significand is zero after two full steps, so three suffice. -/
def divideByPower : Nat → Binary64 → Nat → Binary64
  | 0, _, _ => .zero
  | steps + 1, x, power =>
    if power ≤ 308 then x.div (powerOfTen power)
    else if x.isZero then x
    else divideByPower steps (x.div (powerOfTen 308)) (power - 308)

/-- The number with this significand and decimal exponent. Magnitudes too large for a finite number are refused. -/
def scaled? (significand : Nat) (exponent : Int) : Option Binary64 :=
  let x := Binary64.ofNat significand
  if exponent < 0 then some (divideByPower 3 x exponent.natAbs)
  else if exponent ≤ 308 then
    let product := x.mul (powerOfTen exponent.toNat)
    if product.isFinite then some product else none
  else if x.isZero then some x
  else none

/-- An explicit exponent: a sign and one or more digits behind the letter. -/
def exponentPart? (s : List Char) : Option (Int × List Char) :=
  let (negative, unsigned) := Numeral.splitSign s
  let (digits, rest) := splitDigits unsigned
  if digits.isEmpty then none
  else
    let magnitude : Int := Nat.ofDigitChars 10 digits 0
    some (if negative then -magnitude else magnitude, rest)

/-- The greatest exponent that is computed with. Beyond it a negative exponent gives zero and a positive one is refused, unless the significand is zero. -/
def maxExponent : Int := (Nat.pow 2 31 : Int) - 1

/-- The number with this significand, whose decimal exponent is `exponent` and an explicit part on top. -/
def withExponent? (significand : Nat) (exponent explicit : Int) : Option Binary64 :=
  if maxExponent < explicit then if significand = 0 then some .zero else none
  else if explicit < -maxExponent then some .zero
  else scaled? significand (exponent + explicit)

/-- A whole part has one digit or does not start with zero. -/
def isWholePart : List Char → Bool
  | [] => false
  | [_] => true
  | c :: _ => c != '0'

/-- The optional fraction: its digits, or none without a point. A point needs digits behind it. -/
def fractionPart? : List Char → Option (Option (List Char) × List Char)
  | '.' :: s =>
    let (digits, rest) := splitDigits s
    if digits.isEmpty then none else some (some digits, rest)
  | s => some (none, s)

def optionalExponent? : List Char → Option (Option Int × List Char)
  | c :: s =>
    if c = 'e' ∨ c = 'E' then (exponentPart? s).map fun (exponent, rest) => (some exponent, rest)
    else some (none, c :: s)
  | [] => some (none, [])

/-- A whole number. Below the least of 64 signed bits it becomes a floating point number. -/
def wholeNumber (negative : Bool) (magnitude : Nat) : Number :=
  if !negative then .unsigned (UInt64.ofNat magnitude)
  else if magnitude ≤ Nat.pow 2 63 then .signed (Int64.ofInt (-magnitude))
  else .float (.nearest true magnitude 1)

def number? (negative : Bool) (s : List Char) : Option (Number × List Char) := do
  let (whole, s) := splitDigits s
  if !isWholePart whole then none
  let (fraction, s) ← fractionPart? s
  let (explicit, s) ← optionalExponent? s
  let (significand, excess) := absorb 0 whole
  if fraction.isNone && explicit.isNone && excess.isEmpty then
    return (wholeNumber negative significand, s)
  let digits := fraction.getD []
  let (significand, dropped) := absorb significand digits
  let exponent : Int := (excess.length : Int) - ((digits.length : Int) - (dropped.length : Int))
  let magnitude ← withExponent? significand exponent (explicit.getD 0)
  return (.float (if negative then magnitude.neg else magnitude), s)

/-! ### Strings -/

def hexUnit? (a b c d : Char) : Option Nat := do
  return (((← hexDigit? a) * 16 + (← hexDigit? b)) * 16 + (← hexDigit? c)) * 16 + (← hexDigit? d)

/-- The character behind a backslash that stands for a control character or for itself. -/
def escaped? : Char → Option Char
  | '"' => some '"'
  | '\\' => some '\\'
  | '/' => some '/'
  | 'b' => some '\x08'
  | 'f' => some '\x0c'
  | 'n' => some '\n'
  | 'r' => some '\r'
  | 't' => some '\t'
  | _ => none

def isHighSurrogate (unit : Nat) : Bool := 0xD800 ≤ unit && unit < 0xDC00

def isLowSurrogate (unit : Nat) : Bool := 0xDC00 ≤ unit && unit < 0xE000

/-- The characters of a string behind its opening quote. The two halves of a surrogate pair stand together. -/
def stringBody? : List Char → Option (List Char × List Char)
  | [] => none
  | '"' :: rest => some ([], rest)
  | '\\' :: 'u' :: a :: b :: c :: d :: rest =>
    match hexUnit? a b c d with
    | none => none
    | some unit =>
      if isLowSurrogate unit then none
      else if isHighSurrogate unit then
        match rest with
        | '\\' :: 'u' :: e :: f :: g :: h :: rest =>
          match hexUnit? e f g h with
          | none => none
          | some low =>
            if isLowSurrogate low then
              (stringBody? rest).map fun (text, rest) =>
                (Char.ofNat (0x10000 + (unit - 0xD800) * 0x400 + (low - 0xDC00)) :: text, rest)
            else none
        | _ => none
      else (stringBody? rest).map fun (text, rest) => (Char.ofNat unit :: text, rest)
  | '\\' :: c :: rest =>
    match escaped? c with
    | none => none
    | some c => (stringBody? rest).map fun (text, rest) => (c :: text, rest)
  | c :: rest =>
    if c.toNat < 0x20 ∨ c = '\\' then none
    else (stringBody? rest).map fun (text, rest) => (c :: text, rest)

/-! ### Documents -/

def isBlank (c : Char) : Bool := c == ' ' || c == '\t' || c == '\n' || c == '\r'

def skipBlanks (s : List Char) : List Char := s.dropWhile isBlank

mutual

/-- A value, with blanks before it. The fuel bounds the nesting of calls. -/
def value? : Nat → List Char → Option (Json × List Char)
  | 0, _ => none
  | fuel + 1, s =>
    match skipBlanks s with
    | [] => none
    | c :: rest =>
      if c = '"' then (stringBody? rest).map fun (text, rest) => (.string (String.ofList text), rest)
      else if c = '[' then
        match skipBlanks rest with
        | ']' :: rest => some (.array [], rest)
        | rest => (items? fuel rest).map fun (items, rest) => (.array items, rest)
      else if c = '{' then
        match skipBlanks rest with
        | '}' :: rest => some (.object [], rest)
        | rest => (members? fuel rest).map fun (members, rest) => (ofMembers members, rest)
      else if c = '-' then (number? true rest).map fun (n, rest) => (.number n, rest)
      else if c.isDigit then (number? false (c :: rest)).map fun (n, rest) => (.number n, rest)
      else if c = 'n' then (List.isPrefixOf? ['u', 'l', 'l'] rest).map fun rest => (.null, rest)
      else if c = 't' then (List.isPrefixOf? ['r', 'u', 'e'] rest).map fun rest => (.bool true, rest)
      else if c = 'f' then (List.isPrefixOf? ['a', 'l', 's', 'e'] rest).map fun rest => (.bool false, rest)
      else none

def items? : Nat → List Char → Option (List Json × List Char)
  | 0, _ => none
  | fuel + 1, s =>
    match value? fuel s with
    | none => none
    | some (item, rest) =>
      match skipBlanks rest with
      | ',' :: rest => (items? fuel rest).map fun (items, rest) => (item :: items, rest)
      | ']' :: rest => some ([item], rest)
      | _ => none

def members? : Nat → List Char → Option (List (String × Json) × List Char)
  | 0, _ => none
  | fuel + 1, s =>
    match skipBlanks s with
    | '"' :: rest =>
      match stringBody? rest with
      | none => none
      | some (key, rest) =>
        match skipBlanks rest with
        | ':' :: rest =>
          match value? fuel rest with
          | none => none
          | some (value, rest) =>
            match skipBlanks rest with
            | ',' :: rest =>
              (members? fuel rest).map fun (members, rest) => ((String.ofList key, value) :: members, rest)
            | '}' :: rest => some ([(String.ofList key, value)], rest)
            | _ => none
        | _ => none
    | _ => none

end

def ofText? (text : String) : Option Json :=
  let s := text.toList
  match value? (2 * s.length + 2) s with
  | some (document, rest) => if (skipBlanks rest).isEmpty then some document else none
  | none => none

end Json

end SearchFilter

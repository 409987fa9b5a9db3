import Patchwise.Json
import Patchwise.Text.Digit
import Patchwise.Word

/-!
# JSON tokens

The words that a JSON text is made of. White space stands between them and is not a token.

## Main definitions

- `Json.Token` — a word of a JSON text
- `Json.Token.scan?` — the words of a text
- `Json.rawString?` — where a string ends
- `Json.unescape?` — what a string tells
- `Json.numeral?` — the number that a text begins with

## Design notes

A string is read in two steps: first its end is found, which only needs to know that a backslash
takes the next character with it, then what stands between the quotation marks is decoded. A string
without backslashes is thus its own content.
-/

namespace Patchwise.Json

/-- A word of a JSON text. -/
inductive Token
  | openBrace
  | closeBrace
  | openBracket
  | closeBracket
  | comma
  | colon
  | text (content : String)
  /-- A value that is neither a string nor made of other values. -/
  | scalar (value : Json)
  deriving Inhabited, Repr

/-- The white space that may stand between tokens. -/
def isSpace (c : Char) : Bool :=
  c == ' ' || c == '\t' || c == '\n' || c == '\r'

/-! ## Strings -/

/-- What stands in front of the quotation mark that ends a string, and the text after it. -/
def rawString? : List Char → Option (List Char × List Char)
  | [] => none
  | '"' :: rest => some ([], rest)
  | '\\' :: c :: rest => (rawString? rest).map fun (raw, rest) => ('\\' :: c :: raw, rest)
  | c :: rest => (rawString? rest).map fun (raw, rest) => (c :: raw, rest)

/-- The value of four hexadecimal digits. -/
def hexUnit? (a b c d : Char) : Option Nat :=
  Text.number? 16 [a, b, c, d]

/-- The character that a single letter after a backslash stands for. -/
def shortEscape? : Char → Option Char
  | '"' => some '"'
  | '\\' => some '\\'
  | '/' => some '/'
  | 'b' => some '\x08'
  | 'f' => some '\x0c'
  | 'n' => some '\n'
  | 'r' => some '\r'
  | 't' => some '\t'
  | _ => none

/-- Whether a unit is the first half of a character outside the basic plane. -/
def isHighUnit (unit : Nat) : Bool :=
  0xD800 ≤ unit && unit ≤ 0xDBFF

/-- Whether a unit is the second half of such a character. -/
def isLowUnit (unit : Nat) : Bool :=
  0xDC00 ≤ unit && unit ≤ 0xDFFF

/-- What the text between two quotation marks tells. A first half that still waits for its second
one is kept in `high`; no control characters may stand for themselves, and no half for itself. -/
def unescape? (high : Option Nat) : List Char → Option (List Char)
  | [] => if high.isSome then none else some []
  | '\\' :: 'u' :: a :: b :: c :: d :: rest =>
    match high, hexUnit? a b c d with
    | _, none => none
    | none, some unit =>
      if isHighUnit unit then unescape? (some unit) rest
      else if isLowUnit unit then none
      else (unescape? none rest).map (Char.ofNat unit :: ·)
    | some high, some unit =>
      if isLowUnit unit then
        let code := 0x10000 + (high - 0xD800) * 0x400 + (unit - 0xDC00)
        (unescape? none rest).map (Char.ofNat code :: ·)
      else none
  | '\\' :: c :: rest =>
    match high, shortEscape? c with
    | none, some c => (unescape? none rest).map (c :: ·)
    | _, _ => none
  | c :: rest =>
    if high.isSome || c == '\\' || c.toNat < 0x20 then none
    else (unescape? none rest).map (c :: ·)

/-! ## Numbers -/

/-- The largest integer that a numeral without a sign is read as exactly. -/
def maxInteger : Nat := Word.count 64 - 1

def digit (c : Char) : Nat :=
  c.toNat - '0'.toNat

/-- The integer that the digits in front of the point tell, and how many digits at their end were
left out because it would have become too large. -/
def wholeDigits (n : Nat) : List Char → Nat × Nat
  | [] => (n, 0)
  | c :: rest =>
    let more := n * 10 + digit c
    if maxInteger < more then (n, rest.length + 1) else wholeDigits more rest

/-- Goes on with the digits after the point until the integer would become too large, and counts
how many were taken. -/
def fractionDigits (n taken : Nat) : List Char → Nat × Nat
  | [] => (n, taken)
  | c :: rest =>
    let more := n * 10 + digit c
    if maxInteger < more then (n, taken) else fractionDigits more (taken + 1) rest

def powerOfTen (n : Nat) : Binary64 :=
  (Binary64.ofNat? (Nat.pow 10 n)).getD (.zero false)

/-- The largest power of ten that is divided by at once. -/
def maxPower : Nat := 308

/-- A number divided some times by the largest power of ten. -/
def divideRepeatedly (x : Binary64) : Nat → Option Binary64
  | 0 => some x
  | times + 1 =>
    if x.isZero then some x
    else
      match x.div? (powerOfTen maxPower) with
      | none => none
      | some y => divideRepeatedly y times

/-- A number divided by a power of ten: as often as needed by the largest one, and then by what is
left of it. -/
def divideByPower (x : Binary64) (power : Nat) : Option Binary64 := do
  let times := (power - 1) / maxPower
  (← divideRepeatedly x times).div? (powerOfTen (power - times * maxPower))

/-- An integer times a power of ten as a binary number: the integer is rounded first, and the product
or quotient again. A product that is too large is none. -/
def scaled? (significand : Nat) (power : Int) : Option Binary64 := do
  let x ← Binary64.ofNat? significand
  if power < 0 then divideByPower x power.natAbs
  else if power ≤ maxPower then x.mul? (powerOfTen power.natAbs)
  else if x.isZero then some x
  else none

/-- The parts of a numeral. -/
structure Numeral where
  negative : Bool
  whole : List Char
  fraction : Option (List Char)
  exponent : Option Int

/-- The number that a numeral tells. An integer that fits in sixty-four bits is read exactly. -/
def Numeral.value? (n : Numeral) : Option Number :=
  let (whole, dropped) := wholeDigits 0 n.whole
  let signed (x : Binary64) : Number := .real (if n.negative then x.neg else x)
  match n.fraction, n.exponent with
  | none, none =>
    if 0 < dropped then (scaled? whole dropped).map signed
    else if !n.negative then some (.integer whole)
    else if 0 < whole && Word.isSigned 64 (-whole) then some (.integer (-whole))
    else (Binary64.ofNat? whole).map signed
  | fraction, exponent =>
    let (significand, taken) := fractionDigits whole 0 (fraction.getD [])
    (scaled? significand (dropped - taken + exponent.getD 0)).map signed

/-- The digits at the start of a text, of which there must be one at least. -/
def someDigits? (cs : List Char) : Option (List Char × List Char) :=
  let digits := cs.takeWhile Char.isDigit
  if digits.isEmpty then none else some (digits, cs.dropWhile Char.isDigit)

/-- The digits in front of the point: a lone zero, or any that do not begin with one. -/
def wholePart? : List Char → Option (List Char × List Char)
  | '0' :: rest => some (['0'], rest)
  | cs => someDigits? cs

/-- The point and the digits after it, if a text begins with a point. -/
def fractionPart? : List Char → Option (Option (List Char) × List Char)
  | '.' :: rest => (someDigits? rest).map fun (digits, rest) => (some digits, rest)
  | cs => some (none, cs)

/-- The exponent, if a text begins with one. -/
def exponentPart? : List Char → Option (Option Int × List Char)
  | c :: rest =>
    if c == 'e' || c == 'E' then
      let sign : Int := if rest.head? = some '-' then -1 else 1
      let unsigned :=
        if rest.head? = some '-' || rest.head? = some '+' then rest.drop 1 else rest
      (someDigits? unsigned).map fun (digits, rest) =>
        (some (sign * digits.foldl (fun n c => n * 10 + digit c) 0), rest)
    else some (none, c :: rest)
  | [] => some (none, [])

/-- The numeral at the start of a text, and the text after it. -/
def numeral? (cs : List Char) : Option (Numeral × List Char) := do
  let negative := cs.head? = some '-'
  let (whole, cs) ← wholePart? (if negative then cs.drop 1 else cs)
  let (fraction, cs) ← fractionPart? cs
  let (exponent, cs) ← exponentPart? cs
  return ({ negative, whole, fraction, exponent }, cs)

/-! ## Tokens -/

/-- The rest of a text that begins with a word. -/
def afterWord? (word cs : List Char) : Option (List Char) :=
  if word.isPrefixOf cs then some (cs.drop word.length) else none

/-- The token that begins with a character and goes on in a text, and the text after it. -/
def Token.first? (c : Char) (rest : List Char) : Option (Token × List Char) :=
  match c with
  | '\x7b' => some (.openBrace, rest)
  | '\x7d' => some (.closeBrace, rest)
  | '[' => some (.openBracket, rest)
  | ']' => some (.closeBracket, rest)
  | ',' => some (.comma, rest)
  | ':' => some (.colon, rest)
  | '"' => do
    let (raw, rest) ← rawString? rest
    let content ← unescape? none raw
    return (.text (.ofList content), rest)
  | 't' => (afterWord? "rue".toList rest).map (.scalar (.bool true), ·)
  | 'f' => (afterWord? "alse".toList rest).map (.scalar (.bool false), ·)
  | 'n' => (afterWord? "ull".toList rest).map (.scalar .null, ·)
  | c => do
    let (numeral, rest) ← numeral? (c :: rest)
    let value ← numeral.value?
    return (.scalar (.number value), rest)

/-- The tokens of a text, if it is made of nothing but tokens and white space. -/
def Token.scan? (cs : List Char) : Option (List Token) :=
  match _ : cs with
  | [] => some []
  | c :: rest =>
    if isSpace c then scan? rest
    else
      match Token.first? c rest with
      | none => none
      | some (token, after) =>
        if after.length ≤ rest.length then (scan? after).map (token :: ·) else none
termination_by cs.length

end Patchwise.Json

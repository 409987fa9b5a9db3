import Patchwise.Text
import Patchwise.Timestamp
import Patchwise.Toml.Quoted

/-!
# Numbers, times and words in TOML

What a scalar tells: a string, or words without quotation marks, which are a truth value, a number,
a date or a time.

## Main definitions

- `Toml.numeral?` — the number, the date or the time that a text tells
- `Toml.scalar` — the value that a text tells

## Design notes

Which kind of value a text is hangs on a few of its characters, and only then is it asked whether it
is well written. An integer with underscores is looked at on both sides of each underscore and
nowhere else, so its digits may turn out to tell no number. Such a numeral is a value like any
other, as long as nobody asks for the number.
-/

namespace Patchwise.Toml

/-! ## Numbers -/

/-- A text without its underscores. No two of them may stand together, none at the start or the end,
and where a longer piece meets one there must be a digit. -/
def ungrouped? (isDigit : Char → Bool) (cs : List Char) : Option (List Char) :=
  let pieces := Text.split (· == '_') cs
  let begins (piece : List Char) : Bool := (piece.head?.map isDigit).getD false
  let ends (piece : List Char) : Bool := piece.length == 1 || (piece.getLast?.map isDigit).getD false
  if cs.contains '_' &&
      !(pieces.all (!·.isEmpty) && (pieces.drop 1).all begins && pieces.dropLast.all ends) then none
  else some pieces.flatten

def isHexDigit (c : Char) : Bool :=
  (Text.digit? c).isSome

/-- The number that digits of a base tell. -/
def number (base : Nat) (digits : List Char) : Nat :=
  (Text.number? base digits).getD 0

def takeSign : List Char → Bool × List Char
  | '+' :: rest => (false, rest)
  | '-' :: rest => (true, rest)
  | cs => (false, cs)

/-- A number that is not too large. -/
def sized (n : Int) : Toml :=
  if Word.fits 128 n then .integer n else .illegible

/-- The value of an integer without underscores. -/
def decimalInteger (cs : List Char) : Toml :=
  let (negative, digits) := takeSign cs
  if digits.isEmpty || !digits.all Char.isDigit then .illegible
  else sized (if negative then -(number 10 digits) else number 10 digits)

/-- The value of an integer of a base, from behind the mark of the base on. -/
def basedInteger? (base : Nat) (isDigit : Char → Bool) (cs : List Char) : Option Toml :=
  if !cs.all fun c => isDigit c || c == '_' then none
  else
    (ungrouped? isHexDigit cs).map fun digits =>
      if digits.isEmpty then .illegible else sized (number base digits)

/-- The number nearest to an integer times a power of ten, unless it is too large. -/
def nearest? (negative : Bool) (digits : List Char) (power : Int) : Option Real :=
  let digits := digits.dropWhile (· == '0')
  let size := digits.length + power
  if digits.isEmpty || size < -400 then some (.finite (.zero negative))
  else if 400 < size then none
  else
    let n := number 10 digits
    let (num, den) :=
      if power < 0 then (n, Nat.pow 10 power.natAbs) else (n * Nat.pow 10 power.natAbs, 1)
    (Binary64.ofRatio? negative num den).map .finite

def isExponentMark (c : Char) : Bool :=
  c == 'e' || c == 'E'

/-- The value of a floating-point number without underscores that is well written. -/
def realValue (cs : List Char) : Toml :=
  let (negative, cs) := takeSign cs
  let mantissa := cs.takeWhile (!isExponentMark ·)
  let whole := mantissa.takeWhile (· != '.')
  let fraction := (mantissa.dropWhile (· != '.')).drop 1
  let (small, exponent) := takeSign ((cs.dropWhile (!isExponentMark ·)).drop 1)
  let power : Int := number 10 exponent
  let power := if small then -power else power
  ((nearest? negative (whole ++ fraction) (power - fraction.length)).map .real).getD .illegible

/-- The text behind the digits, and the underscores among them, that a text must begin with. Unless
it is a `tail`, more than one digit must not begin with a zero. -/
def afterDigits? (tail : Bool) (cs : List Char) : Option (List Char) :=
  let isRun (c : Char) : Bool := c.isDigit || c == '_'
  let count := (cs.takeWhile isRun).countP Char.isDigit
  if count == 0 || (!tail && 1 < count && cs.head? = some '0') then none
  else some (cs.dropWhile isRun)

/-- The text behind the fraction that a text may begin with. -/
def afterFraction? : List Char → Option (List Char)
  | '.' :: rest => afterDigits? true rest
  | cs => some cs

/-- The text behind the exponent that a text may begin with. -/
def afterExponent? : List Char → Option (List Char)
  | [] => some []
  | c :: rest => if isExponentMark c then afterDigits? true (takeSign rest).2 else some (c :: rest)

/-- Whether a text without a sign is a floating-point number. -/
def isReal (cs : List Char) : Bool :=
  (((afterDigits? false cs).bind afterFraction?).bind afterExponent?) = some []

/-! ## Dates and times -/

def afterDate? (cs : List Char) : Option (List Char) := do
  let (year, cs) ← Timestamp.fixed? 4 cs
  let (month, cs) ← Timestamp.fixed? 2 (← Timestamp.mark? ['-'] cs)
  let (day, cs) ← Timestamp.fixed? 2 (← Timestamp.mark? ['-'] cs)
  if 1 ≤ month && month ≤ 12 && 1 ≤ day && day ≤ Timestamp.daysIn year month then some cs
  else none

/-- The rest of a text that begins with seconds, which may be left out. -/
def afterSeconds? : List Char → Option (List Char)
  | ':' :: cs => do
    let (second, cs) ← Timestamp.fixed? 2 cs
    let (_, cs) ← Timestamp.fraction? cs
    if second ≤ 60 then some cs else none
  | cs => some cs

/-- The rest of a text that begins with a time of day. -/
def afterTime? (cs : List Char) : Option (List Char) := do
  let (hour, cs) ← Timestamp.fixed? 2 cs
  let (minute, cs) ← Timestamp.fixed? 2 (← Timestamp.mark? [':'] cs)
  if hour < 24 && minute < 60 then afterSeconds? cs else none

def isTime (cs : List Char) (offset : Bool) : Bool :=
  match afterTime? cs with
  | none => false
  | some [] => true
  | some rest => offset && ((Timestamp.offset? rest).map (·.2.isEmpty)).getD false

/-- Whether a word is a date, a time, or both. -/
def isDatetime (cs : List Char) : Bool :=
  match afterDate? cs with
  | some [] => true
  | some (c :: rest) => (c == 'T' || c == 't' || c == ' ') && isTime rest true
  | none => isTime cs false

/-! ## Words -/

/-- The number, the date or the time that a text tells. -/
def numeral? (cs : List Char) : Option Toml :=
  let size := (takeSign cs).2
  let rest := size.dropWhile Char.isDigit
  let padded : Bool := 1 < size.length && size.head? = some '0'
  if rest.head? = some '-' || rest.head? = some ':' || rest.contains ' ' then
    if isDatetime cs then some .datetime else none
  else if rest.any fun c => c == '.' || isExponentMark c then
    if isReal size then (ungrouped? Char.isDigit cs).map realValue else none
  else if size.isEmpty || padded then none
  else if rest.isEmpty || rest.head? = some '_' then
    (ungrouped? isHexDigit cs).map decimalInteger
  else none

/-- The value of words without quotation marks. -/
def word? (cs : List Char) : Option Toml :=
  match cs with
  | '0' :: 'x' :: rest => basedInteger? 16 isHexDigit rest
  | '0' :: 'o' :: rest => basedInteger? 8 (fun c => '0' ≤ c && c ≤ '7') rest
  | '0' :: 'b' :: rest => basedInteger? 2 (fun c => c == '0' || c == '1') rest
  | cs =>
    let (negative, size) := takeSign cs
    if cs = "true".toList then some (.bool true)
    else if cs = "false".toList then some (.bool false)
    else if size = "inf".toList then some (.real (.infinite negative))
    else if size = "nan".toList then some (.real .notANumber)
    else numeral? cs

def scalar (text : List Char) : Except Fault Toml :=
  match text with
  | '"' :: _ | '\x27' :: _ => (string text).map fun read => .text (.ofList read)
  | words =>
    match word? words with
    | some value => .ok value
    | none => .error .other

end Patchwise.Toml

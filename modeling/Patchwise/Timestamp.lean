/-!
# Points in time

A point in time as the date and the time of day that clocks without an offset show, and its text in
the form of RFC 3339.

## Main definitions

- `Timestamp` — a date and a time of day at offset zero
- `Timestamp.toText` — its text, which ends in `Z`
- `Timestamp.ofText?` — reads such a text, with any offset

## Design notes

The fields are those that are written, so writing and reading are inverse to each other without a
detour through a count of seconds. An offset is less than a day, and moves the date by one day at
most.
-/

namespace Patchwise

/-- A date and a time of day at offset zero. -/
structure Timestamp where
  year : Int
  month : Nat
  day : Nat
  hour : Nat
  minute : Nat
  /-- The second, which is 60 in a leap second. -/
  second : Nat
  nanosecond : Nat
  deriving DecidableEq, Repr, Inhabited

namespace Timestamp

def isLeapYear (year : Int) : Bool :=
  year % 4 = 0 && (year % 100 ≠ 0 || year % 400 = 0)

def daysIn (year : Int) (month : Nat) : Nat :=
  if month = 2 then (if isLeapYear year then 29 else 28)
  else if month = 4 || month = 6 || month = 9 || month = 11 then 30
  else 31

/-- Whether the fields are those of a day of the calendar and of a time of day. -/
def isValid (t : Timestamp) : Bool :=
  1 ≤ t.month && t.month ≤ 12 && 1 ≤ t.day && t.day ≤ daysIn t.year t.month && t.hour < 24 &&
    t.minute < 60 && t.second ≤ 60 && t.nanosecond < 1000000000

def nextDay (t : Timestamp) : Timestamp :=
  if t.day < daysIn t.year t.month then { t with day := t.day + 1 }
  else if t.month < 12 then { t with month := t.month + 1, day := 1 }
  else { t with year := t.year + 1, month := 1, day := 1 }

def previousDay (t : Timestamp) : Timestamp :=
  if 1 < t.day then { t with day := t.day - 1 }
  else if 1 < t.month then { t with month := t.month - 1, day := daysIn t.year (t.month - 1) }
  else { t with year := t.year - 1, month := 12, day := 31 }

/-- The time some minutes earlier, or later if there are fewer than none of them. -/
def minutesBefore (t : Timestamp) (minutes : Int) : Timestamp :=
  let total := (t.hour * 60 + t.minute : Int) - minutes
  let ofDay := (total % 1440).toNat
  let moved := { t with hour := ofDay / 60, minute := ofDay % 60 }
  if total < 0 then moved.previousDay
  else if total < 1440 then moved
  else moved.nextDay

/-- The time so many nanoseconds after the beginning of 1970. -/
def ofNanoseconds (nanoseconds : Nat) : Timestamp :=
  let seconds := nanoseconds / 1000000000
  let ofDay := seconds % 86400
  Nat.repeat nextDay (seconds / 86400)
    { year := 1970, month := 1, day := 1, hour := ofDay / 3600, minute := ofDay / 60 % 60,
      second := ofDay % 60, nanosecond := nanoseconds % 1000000000 }

/-! ## Writing -/

/-- A number in at least `width` decimal digits. -/
def padded (width n : Nat) : String :=
  let digits := toString n
  .ofList (List.replicate (width - digits.length) '0') ++ digits

/-- A year: four digits, and a sign in front of more. -/
def yearText (year : Int) : String :=
  if 0 ≤ year && year ≤ 9999 then padded 4 year.toNat
  else (if year < 0 then "-" else "+") ++ padded 4 year.natAbs

/-- The fraction of a second, in as few groups of three digits as tell it. -/
def fractionText (nanosecond : Nat) : String :=
  if nanosecond = 0 then ""
  else if nanosecond % 1000000 = 0 then "." ++ padded 3 (nanosecond / 1000000)
  else if nanosecond % 1000 = 0 then "." ++ padded 6 (nanosecond / 1000)
  else "." ++ padded 9 nanosecond

/-- The text of a point in time. -/
def toText (t : Timestamp) : String :=
  yearText t.year ++ "-" ++ padded 2 t.month ++ "-" ++ padded 2 t.day ++ "T" ++ padded 2 t.hour ++
    ":" ++ padded 2 t.minute ++ ":" ++ padded 2 t.second ++ fractionText t.nanosecond ++ "Z"

/-! ## Reading -/

/-- The number that decimal digits tell. -/
def ofDigits (digits : List Char) : Nat :=
  digits.foldl (fun n c => n * 10 + (c.toNat - '0'.toNat)) 0

/-- A number of exactly `width` digits at the start of a text, and the rest of the text. -/
def fixed? (width : Nat) (cs : List Char) : Option (Nat × List Char) :=
  let digits := cs.take width
  if digits.length = width && digits.all Char.isDigit then
    some (ofDigits digits, cs.drop width)
  else none

/-- A year at the start of a text. -/
def year? : List Char → Option (Int × List Char)
  | '+' :: cs => signed 1 cs
  | '-' :: cs => signed (-1) cs
  | cs => (fixed? 4 cs).map fun (year, rest) => (year, rest)
where
  signed (sign : Int) (cs : List Char) : Option (Int × List Char) :=
    let digits := cs.takeWhile Char.isDigit
    if digits.length < 4 then none
    else some (sign * ofDigits digits, cs.dropWhile Char.isDigit)

/-- One of the given characters at the start of a text. -/
def mark? (allowed : List Char) : List Char → Option (List Char)
  | c :: rest => if allowed.contains c then some rest else none
  | [] => none

/-- The fraction of a second at the start of a text, in nanoseconds. Digits after the ninth are
read over. -/
def fraction? : List Char → Option (Nat × List Char)
  | '.' :: cs =>
    let digits := cs.takeWhile Char.isDigit
    if digits.isEmpty then none
    else some (ofDigits ((digits ++ List.replicate 9 '0').take 9), cs.dropWhile Char.isDigit)
  | cs => some (0, cs)

/-- The offset at the start of a text, in minutes. -/
def offset? : List Char → Option (Int × List Char)
  | 'Z' :: rest => some (0, rest)
  | 'z' :: rest => some (0, rest)
  | '+' :: rest => clock 1 rest
  | '-' :: rest => clock (-1) rest
  | _ => none
where
  clock (sign : Int) (cs : List Char) : Option (Int × List Char) := do
    let (hours, cs) ← fixed? 2 cs
    let cs ← mark? [':'] cs
    let (minutes, cs) ← fixed? 2 cs
    if hours < 24 && minutes < 60 then
      return (sign * (hours * 60 + minutes : Int), cs)
    else none

def ofText? (text : String) : Option Timestamp := do
  let (year, cs) ← year? text.toList
  let (month, cs) ← fixed? 2 (← mark? ['-'] cs)
  let (day, cs) ← fixed? 2 (← mark? ['-'] cs)
  let (hour, cs) ← fixed? 2 (← mark? ['T', 't', ' '] cs)
  let (minute, cs) ← fixed? 2 (← mark? [':'] cs)
  let (second, cs) ← fixed? 2 (← mark? [':'] cs)
  let (nanosecond, cs) ← fraction? cs
  let (minutes, cs) ← offset? cs
  let shown : Timestamp := { year, month, day, hour, minute, second, nanosecond }
  if cs.isEmpty && shown.isValid then
    return shown.minutesBefore minutes
  else none

end Timestamp

end Patchwise

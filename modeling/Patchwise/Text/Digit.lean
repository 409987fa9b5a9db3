/-!
# Digits

The values of digits and the numbers that they tell, in every base up to sixteen.

## Main definitions

- `Text.digit?` — the value of a digit
- `Text.number?` — the number that digits tell
- `Text.hexByte` — a byte as two digits
-/

namespace Patchwise.Text

/-- The value of a hexadecimal digit. -/
def digit? (c : Char) : Option Nat :=
  if '0' ≤ c && c ≤ '9' then some (c.toNat - '0'.toNat)
  else if 'a' ≤ c && c ≤ 'f' then some (c.toNat - 'a'.toNat + 10)
  else if 'A' ≤ c && c ≤ 'F' then some (c.toNat - 'A'.toNat + 10)
  else none

/-- The number that digits of a base tell, if each of them is one of the base. No digits tell
zero. -/
def number? (base : Nat) (digits : List Char) : Option Nat :=
  digits.foldlM (fun n c => (digit? c).bind fun d =>
    if d < base then some (n * base + d) else none) 0

/-- A byte as two hexadecimal digits, with capitals. -/
def hexByte (byte : UInt8) : List Char :=
  let digit (d : Nat) : Char := (Nat.digitChar d).toUpper
  [digit (byte.toNat / 16), digit (byte.toNat % 16)]

end Patchwise.Text

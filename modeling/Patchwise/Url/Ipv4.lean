import Patchwise.Text
import Patchwise.Text.Digit

/-!
# Addresses of four octets

A host may be named by a number of 32 bits. It is written as up to four numbers with dots between
them, each decimal, octal after a zero, or hexadecimal after a zero and an `x`; the last one fills
all the octets that are left.

## Main definitions

- `Url.Ipv4` — a number of 32 bits that names a host
- `Url.Ipv4.isMeant` — whether a name is one of those that can only be numbers
- `Url.Ipv4.ofName?` — the number that a name tells
- `Url.Ipv4.toText` — the four octets, with dots between them
-/

namespace Patchwise.Url

/-- A number of 32 bits that names a host. -/
structure Ipv4 where
  value : UInt32
  deriving DecidableEq, Repr

namespace Ipv4

/-- The number that a part of a name tells. -/
def number? : List Char → Option Nat
  | [] => none
  | '0' :: 'x' :: digits => Text.number? 16 digits
  | '0' :: d :: digits => Text.number? 8 (d :: digits)
  | digits => Text.number? 10 digits

/-- The parts of a name, which may end with a dot. -/
def parts (name : List Char) : List (List Char) :=
  match Text.split (· == '.') name with
  | [only] => [only]
  | parts => if parts.getLast? = some [] then parts.dropLast else parts

/-- Whether a name ends with a number, as only those do that tell one. -/
def isMeant (name : List Char) : Bool :=
  (parts name).getLast?.any fun part =>
    (!part.isEmpty && part.all Char.isDigit) || (number? part).isSome

/-- The number of 32 bits that some numbers tell when `octets` of them are to be filled. -/
def joined? (octets : Nat) : List Nat → Option Nat
  | [] => none
  | [last] => if last < Nat.pow 256 octets then some last else none
  | n :: rest => do
    let octets := octets - 1
    if n ≤ 255 then return n * Nat.pow 256 octets + (← joined? octets rest) else none

/-- The number that a name tells. -/
def ofName? (name : List Char) : Option Ipv4 := do
  let numbers ← (parts name).mapM number?
  if 4 < numbers.length then none
  else return ⟨UInt32.ofNat (← joined? 4 numbers)⟩

def octets (a : Ipv4) : List Nat :=
  let n := a.value.toNat
  [n / 0x1000000, n / 0x10000 % 0x100, n / 0x100 % 0x100, n % 0x100]

def toText (a : Ipv4) : List Char :=
  List.intercalate ['.'] (a.octets.map fun octet => (toString octet).toList)

end Ipv4

end Patchwise.Url

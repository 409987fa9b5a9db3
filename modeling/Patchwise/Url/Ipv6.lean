import Patchwise.Text
import Patchwise.Text.Digit

/-!
# Addresses of eight pieces

A host may be named by eight pieces of 16 bits each. They are written in hexadecimal with colons
between them; two colons stand for as many pieces of zero as are missing, and the last two pieces
may be written as four decimal octets.

## Main definitions

- `Url.Ipv6` — eight pieces that name a host
- `Url.Ipv6.ofText?` — the pieces that a text tells
- `Url.Ipv6.toText` — the text of an address, as short as possible
-/

namespace Patchwise.Url

/-- Eight pieces of 16 bits that name a host. -/
structure Ipv6 where
  pieces : Vector UInt16 8
  deriving DecidableEq, Repr

namespace Ipv6

/-! ## Reading -/

/-- The number that a decimal octet tells. -/
def octet? (digits : List Char) : Option Nat := do
  let n ← Text.number? 10 digits
  if digits.isEmpty || (1 < digits.length && digits.head? = some '0') || 255 < n then none
  else some n

/-- The piece that hexadecimal digits tell. -/
def piece? (digits : List Char) : Option Nat :=
  if digits.isEmpty || 4 < digits.length then none else Text.number? 16 digits

/-- The two pieces that four decimal octets tell. -/
def octetPieces? (cs : List Char) : Option (List Nat) := do
  match ← (Text.split (· == '.') cs).mapM octet? with
  | [a, b, c, d] => return [a * 0x100 + b, c * 0x100 + d]
  | _ => none

/-- The pieces that texts tell. Only the last text of an address may tell octets. -/
def pieces? (isLast : Bool) : List (List Char) → Option (List Nat)
  | [] => some []
  | [last] => if isLast && last.contains '.' then octetPieces? last else (piece? last).map ([·])
  | digits :: rest => do return (← piece? digits) :: (← pieces? isLast rest)

/-- The pieces that a text with single colons tells. -/
def run? (isLast : Bool) (cs : List Char) : Option (List Nat) :=
  if cs.isEmpty then some [] else pieces? isLast (Text.split (· == ':') cs)

/-- What stands in front of the first two colons next to each other, and what stands after them. -/
def cut? : List Char → Option (List Char × List Char)
  | [] => none
  | ':' :: ':' :: rest => some ([], rest)
  | c :: rest => (cut? rest).map fun (front, back) => (c :: front, back)

/-- The eight pieces that a text tells, if it tells no more and no fewer. -/
def numbers? (cs : List Char) : Option (List Nat) := do
  match cut? cs with
  | none => run? true cs
  | some (front, back) =>
    let front ← run? false front
    let back ← run? true back
    let known := front.length + back.length
    if 7 < known then none else return front ++ List.replicate (8 - known) 0 ++ back

/-- The address that a text tells. -/
def ofText? (cs : List Char) : Option Ipv6 := do
  let pieces := ((← numbers? cs).map UInt16.ofNat).toArray
  if size : pieces.size = 8 then some ⟨⟨pieces, size⟩⟩ else none

/-! ## Writing -/

/-- How many of the pieces from one on are zero without a gap. -/
def zeros (pieces : List UInt16) (start : Nat) : Nat :=
  ((pieces.drop start).takeWhile (· == 0)).length

/-- Where the longest run of zeros begins, the first one if there are several. -/
def longest (pieces : List UInt16) : Nat :=
  (List.range pieces.length).foldl (fun best start =>
    if zeros pieces best < zeros pieces start then start else best) 0

/-- Pieces with colons between them. -/
def colons (pieces : List UInt16) : List Char :=
  List.intercalate [':'] (pieces.map fun piece => Nat.toDigits 16 piece.toNat)

/-- The text of an address. The longest run of zeros is left out, unless it is a single one. -/
def toText (a : Ipv6) : List Char :=
  let pieces := a.pieces.toList
  let start := longest pieces
  let count := zeros pieces start
  if count < 2 then colons pieces
  else colons (pieces.take start) ++ [':', ':'] ++ colons (pieces.drop (start + count))

end Ipv6

end Patchwise.Url

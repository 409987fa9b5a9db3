import Patchwise.Binary64

/-!
# Decimal texts of binary numbers

The shortest decimal that reads back as a given binary number, and the two ways of writing it.

## Main definitions

- `Decimal` — significant digits and the place of the point
- `Binary64.shortest` — the fewest digits that read back, and of those the nearest to the number
- `Decimal.positional`, `Decimal.scientific` — the two ways of writing a decimal
-/

namespace Patchwise

/-- A decimal of at least zero: the point stands `point` places after the start of the digits. -/
structure Decimal where
  digits : List Char
  point : Int
  deriving DecidableEq, Repr

namespace Binary64

/-- The power of ten that a quotient which is not zero lies between and the next one. -/
def log10 (num den : Nat) : Int :=
  if den ≤ num then
    (toString (num / den)).length - 1
  else
    let length := (toString (den / num)).length
    if den ≤ num * Nat.pow 10 (length - 1) then -(length - 1 : Int) else -length

/-- A point of the decimal grid of the given power of ten that reads back as the number, if one of
the two next to the number does. The nearer of the two is meant, and of two equally near ones the
even one. -/
def gridPoint? (x : Binary64) (power : Int) : Option Nat :=
  let fine := x.exponent - 2
  let lowest := 4 * x.mantissa -
    (if x.mantissa = leastMantissa && minExponent < x.exponent then 1 else 2)
  let highest := 4 * x.mantissa + 2
  let unit := scale 1 1 (-fine)
  let grid : Nat × Nat :=
    if power < 0 then (1, Nat.pow 10 power.natAbs) else (Nat.pow 10 power.natAbs, 1)
  let den := unit.2 * grid.1
  let steps (n : Nat) : Nat := n * unit.1 * grid.2
  let value := steps (4 * x.mantissa)
  let below := value / den
  let readsBack (n : Nat) : Bool :=
    if x.mantissa % 2 = 0 then steps lowest ≤ n * den && n * den ≤ steps highest
    else steps lowest < n * den && n * den < steps highest
  let nearest := roundDiv value den
  let other := if nearest = below then below + 1 else below
  if readsBack nearest then some nearest
  else if readsBack other then some other
  else none

/-- The shortest decimal that reads back as a number, without its sign. -/
def shortest (x : Binary64) : Decimal :=
  if x.isZero then
    ⟨['0'], 1⟩
  else
    let (num, den) := x.ratio
    let top := log10 num den
    let found := (List.range 17).findSome? fun (more : Nat) =>
      (x.gridPoint? (top - more)).map fun n => (n, top - more)
    let (n, power) := found.getD (x.mantissa, 0)
    let written := (toString n).toList
    let digits := (written.reverse.dropWhile (· == '0')).reverse
    ⟨digits, power + written.length⟩

end Binary64

namespace Decimal

/-- As many zeros as a number says, none if it is negative. -/
def zeros (n : Int) : List Char :=
  List.replicate n.toNat '0'

/-- A decimal with its digits around the point. A whole number has one zero after the point. -/
def positional (d : Decimal) : List Char :=
  if d.point ≤ 0 then
    ['0', '.'] ++ zeros (-d.point) ++ d.digits
  else
    let whole := d.digits.take d.point.toNat
    let fraction := d.digits.drop d.point.toNat
    whole ++ zeros (d.point - d.digits.length) ++ ['.'] ++
      (if fraction.isEmpty then ['0'] else fraction)

/-- The exponent of a decimal that is written with one digit in front of the point. -/
def exponent (d : Decimal) : Int :=
  d.point - 1

/-- A decimal with one digit in front of the point and an exponent that always has a sign. -/
def scientific (d : Decimal) : List Char :=
  let tail := d.digits.drop 1
  d.digits.take 1 ++ (if tail.isEmpty then [] else '.' :: tail) ++
    ['e', if d.exponent < 0 then '-' else '+'] ++ (toString d.exponent.natAbs).toList

end Decimal

end Patchwise

/-!
# Binary floating point

The finite numbers of the binary64 format in exact arithmetic: a number is a sign, a mantissa of at
most fifty-three bits and a power of two.

## Main definitions

- `Binary64` — a finite number
- `Binary64.ofRatio?` — the number nearest to a quotient, a tie going to the even mantissa
- `Binary64.mul?`, `Binary64.div?` — products and quotients, rounded the same way

## Design notes

A quotient is rounded by scaling it so that the mantissa is its integer part. Nothing here uses
hardware arithmetic, so every value computes in the logic.
-/

namespace Patchwise

/-- A finite number: `mantissa * 2 ^ exponent`, with a sign. -/
structure Binary64 where
  negative : Bool
  mantissa : Nat
  exponent : Int
  deriving DecidableEq, Repr, Inhabited

namespace Binary64

/-- The least exponent, which numbers next to zero have. -/
def minExponent : Int := -1074

def maxExponent : Int := 971

/-- The least mantissa of numbers that are not next to zero. -/
def leastMantissa : Nat := Nat.pow 2 52

def zero (negative : Bool) : Binary64 :=
  ⟨negative, 0, minExponent⟩

def isZero (x : Binary64) : Bool :=
  x.mantissa = 0

/-- The number with the other sign. -/
def neg (x : Binary64) : Binary64 :=
  { x with negative := !x.negative }

/-- The integer nearest to a quotient; a half goes to the even neighbour. -/
def roundDiv (num den : Nat) : Nat :=
  let q := num / den
  let r := num % den
  if 2 * r < den then q
  else if den < 2 * r then q + 1
  else q + q % 2

/-- A quotient divided by a power of two, as a quotient. -/
def scale (num den : Nat) (exponent : Int) : Nat × Nat :=
  if exponent < 0 then (num * Nat.pow 2 exponent.natAbs, den)
  else (num, den * Nat.pow 2 exponent.natAbs)

/-- The power of two that a quotient lies between and the next one. -/
def log2 (num den : Nat) : Int :=
  let guess : Int := (num.log2 : Int) - den.log2
  let (n, d) := scale num den guess
  if n < d then guess - 1 else guess

/-- The number nearest to a quotient, unless it is too large for any. -/
def ofRatio? (negative : Bool) (num den : Nat) : Option Binary64 :=
  if num = 0 then
    some (zero negative)
  else
    let exponent := max (log2 num den - 52) minExponent
    let (n, d) := scale num den exponent
    let mantissa := roundDiv n d
    let x : Binary64 :=
      if mantissa = 2 * leastMantissa then ⟨negative, leastMantissa, exponent + 1⟩
      else ⟨negative, mantissa, exponent⟩
    if maxExponent < x.exponent then none else some x

/-- The size of a number as a quotient. -/
def ratio (x : Binary64) : Nat × Nat :=
  scale x.mantissa 1 (-x.exponent)

def mul? (x y : Binary64) : Option Binary64 :=
  let (a, b) := x.ratio
  let (c, d) := y.ratio
  ofRatio? (x.negative != y.negative) (a * c) (b * d)

/-- The quotient of a number and one that is not zero. -/
def div? (x y : Binary64) : Option Binary64 :=
  let (a, b) := x.ratio
  let (c, d) := y.ratio
  ofRatio? (x.negative != y.negative) (a * d) (b * c)

/-- The number nearest to a natural number. -/
def ofNat? (n : Nat) : Option Binary64 :=
  ofRatio? false n 1

end Binary64

end Patchwise

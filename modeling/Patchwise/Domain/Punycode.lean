/-!
# Labels in ASCII

A label with characters outside ASCII is written in ASCII: first the characters inside it, then for
each of the others, in the order of their codes, how far one has to count from the one before to
find which character comes next and where. To count is to go through the places between the
characters known so far, again and again, once for each code from the last one on.

A number is written in base 36, its least digit first. It ends with the first digit that is less
than the threshold of its place; the thresholds adapt to the numbers before.

## Main definitions

- `Domain.Punycode.encode` — a label in ASCII
- `Domain.Punycode.decode?` — the label that characters in ASCII tell
-/

namespace Patchwise.Domain.Punycode

/-! ## Digits -/

/-- How a digit is written. -/
def digit (d : Nat) : Char :=
  Char.ofNat (if d < 26 then 'a'.toNat + d else '0'.toNat + (d - 26))

/-- The value of a digit. -/
def value? (c : Char) : Option Nat :=
  if 'a' ≤ c && c ≤ 'z' then some (c.toNat - 'a'.toNat)
  else if '0' ≤ c && c ≤ '9' then some (c.toNat - '0'.toNat + 26)
  else none

/-- The threshold of a place, where `place` is 36 times the number of digits up to it. -/
def threshold (bias place : Nat) : Nat :=
  max 1 (min 26 (place - bias))

theorem threshold_pos (bias place : Nat) : 1 ≤ threshold bias place :=
  Nat.le_max_left _ _

/-- Divides a number by 35 until it is at most 455. Each time the place is put one further. -/
def scaled (delta place : Nat) : Nat × Nat :=
  if 455 < delta then scaled (delta / 35) (place + 36) else (place, delta)
termination_by delta
decreasing_by exact Nat.div_lt_self (by omega) (by decide)

/-- The bias after a number that led to one of `count` places. The first number of a label is much
larger than those after it. -/
def adapt (delta count : Nat) (isFirst : Bool) : Nat :=
  let delta := if isFirst then delta / 700 else delta / 2
  let (place, delta) := scaled (delta + delta / count) 0
  place + 36 * delta / (delta + 38)

/-! ## Writing -/

/-- The digits of a number from a place on. -/
def digits (bias place n : Nat) : List Char :=
  let t := threshold bias place
  if n < t then [digit n]
  else digit (t + (n - t) % (36 - t)) :: digits bias (place + 36) ((n - t) / (36 - t))
termination_by n
decreasing_by
  have pos := threshold_pos bias place
  exact Nat.lt_of_le_of_lt (Nat.div_le_self _ _) (by omega)

/-- The characters of a label outside ASCII, in the order of their codes, each with the number of
characters in front of it that are no greater. -/
def steps (label : List Char) : List (Nat × Nat) :=
  let all := label.zipIdx.filterMap fun (c, i) =>
    if c.toNat < 0x80 then none
    else some (c.toNat, ((label.take i).filter fun d => d.toNat ≤ c.toNat).length)
  all.mergeSort fun a b => a.1 ≤ b.1

/-- The numbers that lead through steps when `known` characters are known and the count has come to
the place `i` of the code `n`. -/
def numbers (bias known n i : Nat) : List (Nat × Nat) → List Char
  | [] => []
  | (code, place) :: rest =>
    let delta := (code - n) * (known + 1) + place - i
    digits bias 36 delta ++
      numbers (adapt delta (known + 1) (i == 0)) (known + 1) code (place + 1) rest

/-- The bias of the first number of a label. -/
def firstBias : Nat := 72

/-- A label in ASCII. -/
def encode (label : List Char) : List Char :=
  let known := label.filter (·.toNat < 0x80)
  (if known.isEmpty then [] else known ++ ['-']) ++
    numbers firstBias known.length 0x80 0 (steps label)

/-! ## Reading -/

/-- The number in front of a text and the text after it, when the digit at hand counts `weight`
times. No weight is more than 32 bits hold. -/
def number? (bias place weight : Nat) : (cs : List Char) →
    Option (Nat × { rest : List Char // rest.length < cs.length })
  | [] => none
  | c :: rest => do
    let d ← value? c
    let t := threshold bias place
    if d < t then
      some (d * weight, ⟨rest, Nat.lt_succ_self _⟩)
    else if 0xFFFFFFFF < weight * (36 - t) then
      none
    else
      let (n, ⟨after, shorter⟩) ← number? bias (place + 36) (weight * (36 - t)) rest
      some (d * weight + n, ⟨after, Nat.lt_succ_of_lt shorter⟩)

/-- Puts the characters that numbers lead to among the known ones, when the count has come to the
place `i` of the code `n`. -/
def insert? (bias n i : Nat) (known cs : List Char) : Option (List Char) :=
  match cs with
  | [] => some known
  | c :: rest =>
    match number? bias 36 1 (c :: rest) with
    | none => none
    | some (delta, after) =>
      let count := known.length + 1
      let code := n + (i + delta) / count
      let place := (i + delta) % count
      if code.isValidChar then
        insert? (adapt delta count (i == 0)) code (place + 1)
          (known.insertIdx place (Char.ofNat code)) after.1
      else none
termination_by cs.length
decreasing_by exact after.2

/-- The label that characters in ASCII tell. What stands in front of their last hyphen is the part
of the label inside ASCII. -/
def decode? (cs : List Char) : Option (List Char) :=
  let tail := (cs.reverse.takeWhile (· != '-')).reverse
  match cs.take (cs.length - tail.length) with
  | [] => insert? firstBias 0x80 0 [] tail
  | ['-'] => none
  | front => insert? firstBias 0x80 0 front.dropLast tail

end Patchwise.Domain.Punycode

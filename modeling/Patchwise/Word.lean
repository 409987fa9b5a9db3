/-!
# Words

The integers that fit in a word of some bits.

## Main definitions

- `Word.count` — how many integers there are in a word
- `Word.isUnsigned`, `Word.isSigned` — whether an integer fits in a word without and with a sign
-/

namespace Patchwise.Word

/-- How many integers fit in a word. -/
def count (bits : Nat) : Nat :=
  Nat.pow 2 bits

/-- Whether an integer fits in a word without a sign. -/
def isUnsigned (bits : Nat) (n : Int) : Bool :=
  0 ≤ n && n < count bits

/-- Whether an integer fits in a word with a sign. -/
def isSigned (bits : Nat) (n : Int) : Bool :=
  -(count (bits - 1)) ≤ n && n < count (bits - 1)

/-- Whether an integer fits in a word with or without a sign. -/
def fits (bits : Nat) (n : Int) : Bool :=
  isSigned bits n || isUnsigned bits n

end Patchwise.Word

import Patchwise.Domain.Composition
import Patchwise.Domain.Direction
import Patchwise.Domain.Joiner
import Patchwise.Domain.Punycode
import Patchwise.Domain.Replacement

/-!
# Domain names

Domain names are made of labels with dots between them and may be written with the characters of
every script. Two spellings that only differ in what a reader does not see, such as capitals, are
the same name: `ascii?` answers the one spelling in ASCII that all of them have in common.

## Main definitions

- `Domain.unified?` — a name with every character in the place of those that stand for it
- `Domain.labels?` — the labels of a name
- `Domain.ascii?` — a name in ASCII
-/

namespace Patchwise.Domain

/-- A name with every character in the place of those that stand for it, if all of them may stand in
a name. -/
def unified? (cs : List Char) : Option (List Char) :=
  (cs.mapM replacement?).map fun parts => composed parts.flatten

/-- What a label in ASCII begins with that tells characters outside it. -/
def asciiMark : List Char := "xn--".toList

/-- The most characters that a label may have to be read, and to be written, in ASCII. -/
def limits : Nat × Nat := (2000, 1000)

/-- What a label tells that may be one in ASCII. Such a label must tell characters outside ASCII,
each of them spelled as `unified?` does. -/
def readLabel? (label : List Char) : Option (List Char) :=
  if !asciiMark.isPrefixOf label then some label
  else
    let told := label.drop asciiMark.length
    if limits.1 < told.length || told.any (0x7F < ·.toNat) then none
    else
      match Punycode.decode? told with
      | none => none
      | some read =>
        if read.all (·.toNat ≤ 0x7F) || unified? read ≠ some read then none else some read

/-- What no name holds: what ends or divides an address, and what is not seen. -/
def isDivider (c : Char) : Bool :=
  c.toNat ≤ 0x20 || c.toNat == 0x7F ||
    ['#', '%', '/', ':', '<', '>', '?', '@', '[', '\\', ']', '^', '|'].contains c

/-- Whether a label may stand in a name. -/
def isLabel (label : List Char) : Bool :=
  !label.any isDivider && !(label.head?.any isMark) && joinersFit label

/-- The labels of a name. -/
def labels? (cs : List Char) : Option (List (List Char)) := do
  let labels ← (Text.split (· == '.') (← unified? cs)).mapM readLabel?
  let fits (label : List Char) : Bool := isLabel label &&
    (!(labels.any fun other => other.any turns) || isDirected label)
  if labels.all fits then some labels else none

/-- A label in ASCII, if it is not too long to be written so. -/
def writeLabel? (label : List Char) : Option (List Char) :=
  if label.all (·.toNat ≤ 0x7F) then some label
  else if limits.2 < label.length then none
  else some (asciiMark ++ Punycode.encode label)

/-- A name in ASCII. -/
def ascii? (cs : List Char) : Option (List Char) := do
  let labels ← (← labels? cs).mapM writeLabel?
  return List.intercalate ['.'] labels

end Patchwise.Domain

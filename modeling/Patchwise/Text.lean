/-!
# Text

Cutting text into the pieces the rest of the library reads: trimming, splitting at a separator,
lines and words. Everything here is a function on lists of characters, so that it can be reasoned
about by induction; the second half lifts the functions to strings.

## Main definitions

- `Text.isBlank` — the white space of Unicode
- `Text.trim` — a text without the white space around it
- `Text.split` — the pieces between separators, empty ones included
- `Text.lines` — the lines of a text, whichever of the two usual line endings it uses
- `Text.words` — the maximal runs without white space
- `Text.isWithin` — whether a character lies in some ranges
-/

namespace Patchwise.Text

/-- The white space of Unicode: the twenty-five characters with the property `White_Space`. -/
def isBlank (c : Char) : Bool :=
  let n := c.toNat
  (0x9 ≤ n && n ≤ 0xD) || n == 0x20 || n == 0x85 || n == 0xA0 || n == 0x1680 ||
    (0x2000 ≤ n && n ≤ 0x200A) || n == 0x2028 || n == 0x2029 || n == 0x202F || n == 0x205F ||
    n == 0x3000

/-- Whether the code of a character lies in one of some ranges. -/
def isWithin (ranges : List (Nat × Nat)) (c : Char) : Bool :=
  ranges.any fun (low, high) => low ≤ c.toNat && c.toNat ≤ high

def trimStart (cs : List Char) : List Char :=
  cs.dropWhile isBlank

def trimEnd (cs : List Char) : List Char :=
  (trimStart cs.reverse).reverse

def trim (cs : List Char) : List Char :=
  trimEnd (trimStart cs)

/-- The pieces of a text between the characters that `isSeparator` accepts. There is one piece more
than there are separators, so a text without any is one piece. -/
def split (isSeparator : Char → Bool) : List Char → List (List Char)
  | [] => [[]]
  | c :: rest =>
    if isSeparator c then
      [] :: split isSeparator rest
    else
      match split isSeparator rest with
      | [] => [[c]]
      | piece :: pieces => (c :: piece) :: pieces

/-- A text always has at least one piece. -/
theorem split_ne_nil (isSeparator : Char → Bool) (cs : List Char) : split isSeparator cs ≠ [] := by
  cases cs with
  | nil => simp [split]
  | cons c rest =>
    rw [split]
    split
    · simp
    · split <;> simp

/-- A line without the carriage return that belongs to its line feed. -/
def dropReturn (line : List Char) : List Char :=
  if line.getLast? = some '\r' then line.dropLast else line

/-- The lines among the pieces between line feeds. The last piece was not ended by a line feed: it
is a line only if it is not empty, and a carriage return at its end is part of it. -/
def endedLines : List (List Char) → List (List Char)
  | [] => []
  | [last] => if last.isEmpty then [] else [last]
  | piece :: pieces => dropReturn piece :: endedLines pieces

/-- The lines of a text, each without its line feed and a carriage return before it. -/
def lines (cs : List Char) : List (List Char) :=
  endedLines (split (· == '\n') cs)

/-- The maximal runs of a text that hold no white space. -/
def words (cs : List Char) : List (List Char) :=
  (split isBlank cs).filter (!·.isEmpty)

/-! ## On strings -/

/-- Whether a string holds nothing but white space. -/
def allBlank (s : String) : Bool :=
  s.toList.all isBlank

def trimmed (s : String) : String :=
  .ofList (trim s.toList)

/-- A string with its ASCII capitals made small; other letters stay. -/
def lowered (s : String) : String :=
  .ofList (s.toList.map Char.toLower)

def linesOf (s : String) : List String :=
  (lines s.toList).map .ofList

def wordsOf (s : String) : List String :=
  (words s.toList).map .ofList

/-- What is left of a string in front of its first line feed. -/
def firstLine (s : String) : String :=
  .ofList (s.toList.takeWhile (· != '\n'))

/-- Strings joined by line feeds. -/
def unlines (parts : List String) : String :=
  "\n".intercalate parts

end Patchwise.Text

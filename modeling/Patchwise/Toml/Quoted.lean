import Patchwise.Text.Digit
import Patchwise.Toml.Fault
import Patchwise.Toml.Outline

/-!
# Strings in TOML

What strings tell that are written between quotation marks, on one line or over several lines.

## Main definitions

- `Toml.contents` — what the characters between quotation marks tell
- `Toml.string` — what a string tells
- `Toml.keyName` — what a part of a key tells

## Design notes

An escape in a string stands for one character and takes several. The reader recurses character by
character and counts down the characters that an escape has taken already.
-/

namespace Patchwise.Toml

/-- Whether a text begins with a line ending. -/
def beginsLine : List Char → Bool
  | '\n' :: _ => true
  | '\r' :: '\n' :: _ => true
  | _ => false

/-! ## Escapes -/

/-- The character with the code that the first digits of a text tell, and how many characters that
takes after the backslash. -/
def codeEscape (length : Nat) (cs : List Char) : Except Fault (Char × Nat) :=
  let digits := cs.take length
  match if digits.length = length then Text.number? 16 digits else none with
  | none => .error .other
  | some code =>
    if code.isValidChar then .ok (Char.ofNat code, length + 1) else .error .noCharacter

/-- The character that stands after a backslash, and how many characters it takes there. -/
def escape : List Char → Except Fault (Char × Nat)
  | 'b' :: _ => .ok ('\x08', 1)
  | 't' :: _ => .ok ('\t', 1)
  | 'n' :: _ => .ok ('\n', 1)
  | 'f' :: _ => .ok ('\x0c', 1)
  | 'r' :: _ => .ok ('\r', 1)
  | 'e' :: _ => .ok ('\x1b', 1)
  | '"' :: _ => .ok ('"', 1)
  | '\\' :: _ => .ok ('\\', 1)
  | 'x' :: rest => codeEscape 2 rest
  | 'u' :: rest => codeEscape 4 rest
  | 'U' :: rest => codeEscape 8 rest
  | _ => .error .other

/-- Whether a backslash in front of a text lets the line end be left out. -/
def joinsLines (cs : List Char) : Bool :=
  beginsLine (cs.dropWhile isSpace)

/-! ## Strings -/

/-- How a string is written. -/
structure Style where
  /-- Whether it may go over several lines. -/
  long : Bool
  /-- Whether a backslash begins an escape. -/
  escapes : Bool
  deriving DecidableEq, Repr

/-- What the reader of a string does with the next characters. -/
inductive Skip
  | nothing
  /-- Leaves out as many of them, which belong to an escape. -/
  | taken (count : Nat)
  /-- Leaves out white space and line ends. -/
  | blank
  deriving DecidableEq, Repr

/-- What the characters between quotation marks tell. A line ending stays as it is written. -/
def contents (style : Style) : Skip → List Char → Except Fault (List Char)
  | _, [] => .ok []
  | .taken (count + 1), _ :: rest => contents style (.taken count) rest
  | skip, c :: rest =>
    let keep (next : Skip) : Except Fault (List Char) :=
      (contents style next rest).map (c :: ·)
    if skip = .blank && (isSpace c || beginsLine (c :: rest)) then contents style .blank rest
    else if style.long && c == '\n' then keep .nothing
    else if style.long && beginsLine (c :: rest) then keep .nothing
    else if style.escapes && c == '\\' then
      if style.long && joinsLines rest then contents style .blank rest
      else
        match escape rest with
        | .error fault => .error fault
        | .ok (meant, length) => (contents style (.taken length) rest).map (meant :: ·)
    else if isPlain c then keep .nothing
    else .error .other

/-- A text without a line ending at its start. -/
def dropLineEnd : List Char → List Char
  | '\n' :: rest => rest
  | '\r' :: '\n' :: rest => rest
  | cs => cs

/-- A text without the marks at its end, if it has them. -/
def dropMarks? (marks cs : List Char) : Option (List Char) :=
  if marks.isSuffixOf cs then some (cs.take (cs.length - marks.length)) else none

/-- What a string of a style tells, from behind its opening marks on to the closing ones. -/
def closedBy (marks : List Char) (style : Style) (cs : List Char) : Except Fault (List Char) :=
  match dropMarks? marks cs with
  | none => .error .other
  | some inner => contents style .nothing inner

/-- What a string tells. A line ending behind the marks that open a string over several lines does
not count. -/
def string (text : List Char) : Except Fault (List Char) :=
  match text with
  | '"' :: '"' :: '"' :: rest => closedBy ['"', '"', '"'] ⟨true, true⟩ (dropLineEnd rest)
  | '\x27' :: '\x27' :: '\x27' :: rest =>
    closedBy ['\x27', '\x27', '\x27'] ⟨true, false⟩ (dropLineEnd rest)
  | '"' :: rest => closedBy ['"'] ⟨false, true⟩ rest
  | '\x27' :: rest => closedBy ['\x27'] ⟨false, false⟩ rest
  | _ => .error .other

/-! ## Keys -/

def isKeyChar (c : Char) : Bool :=
  c.isAlphanum || c == '_' || c == '-'

/-- What a part of a key tells. A string over several lines is none. -/
def keyName (text : List Char) : Except Fault String :=
  match text with
  | '"' :: '"' :: '"' :: _ | '\x27' :: '\x27' :: '\x27' :: _ => .error .other
  | '"' :: _ | '\x27' :: _ => (string text).map .ofList
  | word => if word.all isKeyChar then .ok (.ofList word) else .error .other

/-- How many parts a key may have. -/
def maxParts : Nat := 80

/-- What a key tells: the path to the table that it stands in, and its name there. -/
def keyPath (key : RawKey) : Except Fault (List String × String) := do
  let names ← key.mapM keyName
  match names.getLast? with
  | some name => if names.length ≤ maxParts then return (names.dropLast, name) else throw .other
  | none => throw .other

end Patchwise.Toml

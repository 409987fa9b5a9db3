import Patchwise.Toml.Token

/-!
# Outlines of TOML documents

What a document says, before its strings and words are looked at: headings, and keys with values,
line by line. Whether a text has an outline hangs on the order of its tokens alone.

## Main definitions

- `Toml.Outline` — the outline of a value
- `Toml.Line` — a line of a document
- `Toml.lines?` — the lines of a document

## Design notes

Values may be nested up to `maxDepth` deep, and readers of nested values recurse on the depth that
is left. A reader that goes on behind something makes sure that it has got further.
-/

namespace Patchwise.Toml

/-- How deep values may be nested. -/
def maxDepth : Nat := 80

/-- A key as it is written, part by part. -/
abbrev RawKey : Type := List (List Char)

/-- The outline of a value. -/
inductive Outline
  /-- A string with its quotation marks, or words. -/
  | scalar (text : List Char)
  | array (items : List Outline)
  /-- Keys and values between braces. -/
  | table (entries : List (RawKey × Outline))
  deriving Inhabited, Repr

/-- A line of a document. A value may go over several lines of the text. -/
inductive Line
  /-- A heading, between single or double brackets. -/
  | heading (double : Bool) (key : RawKey)
  | entry (key : RawKey) (value : Outline)
  deriving Inhabited, Repr

/-- Tokens without the white space at their start. -/
def skipSpace : List Token → List Token
  | .space _ :: rest => skipSpace rest
  | tokens => tokens

/-- Tokens without the white space and the line ends at their start. -/
def skipBlank : List Token → List Token
  | .space _ :: rest | .lineEnd :: rest => skipBlank rest
  | tokens => tokens

/-! ## Keys -/

/-- A part of a key, and the tokens after it. -/
def keyPart? : List Token → Option (List Char × List Token)
  | .string part :: rest | .word part :: rest => some (part, rest)
  | _ => none

/-- The parts of a key, and the tokens after it. White space may stand around the dots. -/
def key? (tokens : List Token) : Option (RawKey × List Token) :=
  match keyPart? (skipSpace tokens) with
  | none => none
  | some (part, rest) =>
    match skipSpace rest with
    | .mark '.' :: more =>
      if more.length < tokens.length then
        (key? more).map fun (parts, rest) => (part :: parts, rest)
      else none
    | rest => some ([part], rest)
termination_by tokens.length

/-! ## Values -/

namespace Outline

/-- The words, and the dots and the white space between them, that go on a word, and the tokens
after them. -/
def moreWords : List Token → List Char × List Token
  | .word word :: rest =>
    let (more, rest) := moreWords rest
    (word ++ more, rest)
  | .mark '.' :: rest =>
    let (more, rest) := moreWords rest
    ('.' :: more, rest)
  | .space blank :: .word word :: rest =>
    let (more, rest) := moreWords rest
    (blank ++ word ++ more, rest)
  | .space blank :: .mark '.' :: rest =>
    let (more, rest) := moreWords rest
    (blank ++ '.' :: more, rest)
  | tokens => ([], tokens)

/-- A value that holds no other values, and the tokens after it. -/
def scalar? (tokens : List Token) : Option (Outline × List Token) :=
  match tokens with
  | .string written :: rest => some (.scalar written, rest)
  | .word _ :: _ | .mark '.' :: _ =>
    let (words, rest) := moreWords tokens
    some (.scalar words, rest)
  | _ => none

/-- The rest of an array behind some items, of which the last one stands first. -/
def items? (item? : List Token → Option (Outline × List Token)) (items : List Outline)
    (tokens : List Token) : Option (Outline × List Token) :=
  match skipBlank tokens with
  | .mark ']' :: rest => some (.array items.reverse, rest)
  | start =>
    match item? start with
    | none => none
    | some (item, rest) =>
      match skipBlank rest with
      | .mark ']' :: rest => some (.array (item :: items).reverse, rest)
      | .mark ',' :: rest =>
        if rest.length < tokens.length then items? item? (item :: items) rest else none
      | _ => none
termination_by tokens.length

/-- The tokens behind a mark. -/
def behind? (mark : Char) : List Token → Option (List Token)
  | .mark c :: rest => if c == mark then some rest else none
  | _ => none

/-- A key and its value between braces, and the tokens after them. Line ends may stand around the
equals sign. -/
def entry? (value? : List Token → Option (Outline × List Token)) (tokens : List Token) :
    Option ((RawKey × Outline) × List Token) := do
  let (key, rest) ← key? tokens
  let (value, rest) ← value? (skipBlank (← behind? '=' (skipBlank rest)))
  return ((key, value), rest)

/-- The rest of a table between braces behind some entries, of which the last one stands first. -/
def entries? (value? : List Token → Option (Outline × List Token))
    (entries : List (RawKey × Outline)) (tokens : List Token) : Option (Outline × List Token) :=
  match skipBlank tokens with
  | .mark '\x7d' :: rest => some (.table entries.reverse, rest)
  | start =>
    match entry? value? start with
    | none => none
    | some (entry, rest) =>
      match skipBlank rest with
      | .mark '\x7d' :: rest => some (.table (entry :: entries).reverse, rest)
      | .mark ',' :: rest =>
        if rest.length < tokens.length then entries? value? (entry :: entries) rest else none
      | _ => none
termination_by tokens.length

/-- A value in which values may be nested `depth` deep, and the tokens after it. -/
def value? : Nat → List Token → Option (Outline × List Token)
  | 0 => scalar?
  | depth + 1 => fun tokens =>
    match tokens with
    | .mark '[' :: rest => items? (value? depth) [] rest
    | .mark '\x7b' :: rest => entries? (value? depth) [] rest
    | tokens => scalar? tokens

end Outline

/-! ## Lines -/

/-- A line that is not blank, and the tokens after it. -/
def line? (tokens : List Token) : Option (Line × List Token) :=
  match tokens with
  | .mark '[' :: .mark '[' :: rest =>
    match key? rest with
    | some (key, .mark ']' :: .mark ']' :: rest) => some (.heading true key, rest)
    | _ => none
  | .mark '[' :: rest =>
    match key? rest with
    | some (key, .mark ']' :: rest) => some (.heading false key, rest)
    | _ => none
  | tokens =>
    match key? tokens with
    | some (key, .mark '=' :: rest) =>
      (Outline.value? maxDepth (skipSpace rest)).map fun (value, rest) => (.entry key value, rest)
    | _ => none

/-- The tokens behind the end of a line, if nothing else stands in front of it. -/
def lineEnd? (tokens : List Token) : Option (List Token) :=
  match skipSpace tokens with
  | [] => some []
  | .lineEnd :: rest => some rest
  | _ => none

/-- The lines of a document. -/
def lines? (tokens : List Token) : Option (List Line) :=
  match skipBlank tokens with
  | [] => some []
  | start =>
    match line? start with
    | none => none
    | some (line, rest) =>
      match lineEnd? rest with
      | none => none
      | some rest =>
        if rest.length < tokens.length then (lines? rest).map (line :: ·) else none
termination_by tokens.length

end Patchwise.Toml

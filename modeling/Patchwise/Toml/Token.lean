import Patchwise.Toml

/-!
# Tokens of TOML

Cutting a document into tokens. A token is told by its first character alone, so every text without
a stray carriage return or a forbidden character in a comment has tokens, and what a word or a
string tells is looked at later.

## Main definitions

- `Toml.Token` — a piece of a document
- `Toml.Token.extent` — how far the token goes that begins with a character
- `Toml.tokens?` — the tokens of a document

## Design notes

A string ends at the marks that close it, or else where its line or the document ends. A comment is
no token: it always goes up to the end of its line.
-/

namespace Patchwise.Toml

/-- Whether a character may stand for itself in a string or a comment. -/
def isPlain (c : Char) : Bool :=
  c == '\t' || (0x20 ≤ c.toNat && c.toNat != 0x7F)

/-- The white space within a line. -/
def isSpace (c : Char) : Bool :=
  c == ' ' || c == '\t'

/-- A piece of a document. -/
inductive Token
  /-- A character that orders what stands around it. -/
  | mark (c : Char)
  | space (text : List Char)
  | lineEnd
  /-- A string with its quotation marks. -/
  | string (text : List Char)
  /-- Anything else. -/
  | word (text : List Char)
  deriving DecidableEq, Repr

namespace Token

def isMark (c : Char) : Bool :=
  ['.', '=', ',', '[', ']', '\x7b', '\x7d'].contains c

/-- Whether a character ends a comment. -/
def endsLine (c : Char) : Bool :=
  c == '\n' || c == '\r'

/-- Whether a character ends a word. -/
def endsWord (c : Char) : Bool :=
  isMark c || isSpace c || c == '#' || endsLine c

/-- How many of the characters behind the opening mark belong to a string on one line. In a string
with escapes, a backslash takes the mark or the backslash behind it along. -/
def lineExtent (mark : Char) (escapes : Bool) : Bool → List Char → Nat
  | _, [] => 0
  | taken, c :: rest =>
    if taken && (c == mark || c == '\\') then lineExtent mark escapes false rest + 1
    else if c == mark then 1
    else if c == '\n' then 0
    else lineExtent mark escapes (escapes && c == '\\') rest + 1

/-- How many of the characters behind the opening marks belong to a string over several lines. Up to
two more marks may stand in front of the three that close it. -/
def linesExtent (mark : Char) (escapes : Bool) : Bool → List Char → Nat
  | _, [] => 0
  | taken, c :: rest =>
    if taken && (c == mark || c == '\\') then linesExtent mark escapes false rest + 1
    else if c == mark && rest.take 2 == [mark, mark] then
      3 + ((rest.drop 2).takeWhile (· == mark)).length.min 2
    else linesExtent mark escapes (escapes && c == '\\') rest + 1

/-- How many of the characters behind its opening mark belong to a string. -/
def stringExtent (mark : Char) (escapes : Bool) (cs : List Char) : Nat :=
  if cs.take 2 == [mark, mark] then 2 + linesExtent mark escapes false (cs.drop 2)
  else lineExtent mark escapes false cs

/-- How many of the characters behind its first one belong to a token, or to a comment. -/
def extent (c : Char) (rest : List Char) : Nat :=
  if isMark c then 0
  else if isSpace c then (rest.takeWhile isSpace).length
  else if c == '#' then (rest.takeWhile (!endsLine ·)).length
  else if c == '\n' then 0
  else if c == '\r' then (rest.take 1).countP (· == '\n')
  else if c == '"' then stringExtent c true rest
  else if c == '\x27' then stringExtent c false rest
  else (rest.takeWhile (!endsWord ·)).length

/-- The token that a text is, if it may stand in a document. A comment is none. -/
def ofText? (text : List Char) : Option (List Token) :=
  match text with
  | [] => some []
  | c :: rest =>
    if isMark c then some [.mark c]
    else if isSpace c then some [.space text]
    else if c == '#' then if rest.all isPlain then some [] else none
    else if c == '\n' then some [.lineEnd]
    else if c == '\r' then if rest.isEmpty then none else some [.lineEnd]
    else if c == '"' || c == '\x27' then some [.string text]
    else some [.word text]

end Token

/-- The tokens of a text, if it has any. -/
def tokens? : List Char → Option (List Token)
  | [] => some []
  | c :: rest => do
    let length := Token.extent c rest
    let first ← Token.ofText? (c :: rest.take length)
    return first ++ (← tokens? (rest.drop length))
termination_by cs => cs.length
decreasing_by simp only [List.length_cons, List.length_drop]; omega

end Patchwise.Toml

import Patchwise.Json.Token

/-!
# Reading JSON

A text is read token by token. What has been read of the arrays and objects that are still open is
kept in a stack of frames, so reading is a fold over the tokens, and a complete value is put into
the innermost frame.

## Main definitions

- `Json.Frame` — an array or object that is still open
- `Json.Reading` — what has been read, and what may come next
- `Json.Reading.step` — takes one token
- `Json.read` — the value that a text tells

## Design notes

A token that cannot come next ends the reading. Arrays and objects may be nested up to `maxDepth`
deep, which bounds the stack.

What a reader says of a text that is no JSON is made of its own words and of a place in the text.
`syntaxMessage` stands for whatever it says: which texts are refused is modelled, and the words are
not.
-/

namespace Patchwise.Json

/-- How deep arrays and objects may be nested. -/
def maxDepth : Nat := 127

/-- An array or an object that is still open, in which a value is being read. -/
inductive Frame
  /-- An array, with the items before the value, the last one first. -/
  | array (items : List Json)
  /-- An object, with the members before the value, the last one first, and the value's name. -/
  | object (members : List (String × Json)) (name : String)

/-- What has been read of a text. -/
inductive Reading
  /-- A value must come next. -/
  | value (frames : List Frame)
  /-- The first item of an array, or the array's end. -/
  | firstItem (frames : List Frame)
  /-- The first name of an object, or the object's end. -/
  | firstName (frames : List Frame)
  /-- A name must come next. -/
  | name (members : List (String × Json)) (frames : List Frame)
  /-- A colon must come next. -/
  | colon (members : List (String × Json)) (name : String) (frames : List Frame)
  /-- A value has been read. -/
  | complete (value : Json) (frames : List Frame)

namespace Reading

/-- Takes a token where a value must come. -/
def openValue (frames : List Frame) : Token → Option Reading
  | .text content => some (complete (.text content) frames)
  | .scalar found => some (complete found frames)
  | .openBracket => if frames.length < maxDepth then some (firstItem frames) else none
  | .openBrace => if frames.length < maxDepth then some (firstName frames) else none
  | _ => none

/-- Takes the next token of a text. -/
def step : Reading → Token → Option Reading
  | value frames, token => openValue frames token
  | firstItem frames, .closeBracket => some (complete (.array []) frames)
  | firstItem frames, token => openValue (.array [] :: frames) token
  | firstName frames, .closeBrace => some (complete (.object []) frames)
  | firstName frames, .text content => some (colon [] content frames)
  | name members frames, .text content => some (colon members content frames)
  | colon members content frames, .colon => some (value (.object members content :: frames))
  | complete item (.array items :: frames), .comma => some (value (.array (item :: items) :: frames))
  | complete item (.array items :: frames), .closeBracket =>
    some (complete (.array (item :: items).reverse) frames)
  | complete item (.object members content :: frames), .comma =>
    some (name ((content, item) :: members) frames)
  | complete item (.object members content :: frames), .closeBrace =>
    some (complete (.object ((content, item) :: members).reverse) frames)
  | _, _ => none

/-- Takes all tokens of a text. -/
def steps (reading : Reading) (tokens : List Token) : Option Reading :=
  tokens.foldlM step reading

/-- The value that has been read, if nothing is open. -/
def result? : Reading → Option Json
  | complete found [] => some found
  | _ => none

end Reading

def ofTokens? (tokens : List Token) : Option Json := do
  ((← (Reading.value []).steps tokens)).result?

def ofChars? (cs : List Char) : Option Json := do
  ofTokens? (← Token.scan? cs)

/-- The value that a text tells, if it is JSON. -/
def read (text : String) : Option Json :=
  ofChars? text.toList

/-- What is said of a text that is no JSON. -/
def syntaxMessage : String :=
  "<json>"

end Patchwise.Json

import Patchwise.Json

/-!
# Writing JSON

The text of a JSON value, on one line or with one line for each item and member.

## Main definitions

- `Json.string` — a text between quotation marks, as JSON has it
- `Json.compact` — a value on one line
- `Json.pretty` — a value over several lines
-/

namespace Patchwise.Json

/-- The escape for a control character that has no letter of its own. -/
def unitEscape (c : Char) : List Char :=
  let n := c.toNat
  ['\\', 'u', '0', '0', Nat.digitChar (n / 16), Nat.digitChar (n % 16)]

/-- A character as it is written in a string. -/
def escapeChar (c : Char) : List Char :=
  match c with
  | '"' => ['\\', '"']
  | '\\' => ['\\', '\\']
  | '\x08' => ['\\', 'b']
  | '\x0c' => ['\\', 'f']
  | '\n' => ['\\', 'n']
  | '\r' => ['\\', 'r']
  | '\t' => ['\\', 't']
  | c => if c.toNat < 0x20 then unitEscape c else [c]

/-- A text as a JSON string. -/
def string (s : String) : List Char :=
  ['"'] ++ s.toList.flatMap escapeChar ++ ['"']

/-- The text of a truth value. -/
def boolText (b : Bool) : List Char :=
  (if b then "true" else "false").toList

/-- A new line at a depth. -/
def newline (depth : Nat) : List Char :=
  '\n' :: List.replicate (2 * depth) ' '

mutual

/-- A value on one line. -/
def compact : Json → List Char
  | null => "null".toList
  | bool b => boolText b
  | number n => n.text.toList
  | text s => string s
  | array items => ['['] ++ compactItems items ++ [']']
  | object members => ['\x7b'] ++ compactMembers members ++ ['\x7d']

/-- Items on one line, with commas between them. -/
def compactItems : List Json → List Char
  | [] => []
  | [item] => compact item
  | item :: rest => compact item ++ [','] ++ compactItems rest

/-- Members on one line, with commas between them. -/
def compactMembers : List (String × Json) → List Char
  | [] => []
  | [(name, value)] => string name ++ [':'] ++ compact value
  | (name, value) :: rest => string name ++ [':'] ++ compact value ++ [','] ++ compactMembers rest

end

mutual

/-- A value over several lines, where `depth` arrays and objects are open around it. An array or
object that holds nothing is written on one line. -/
def prettyAt (depth : Nat) : Json → List Char
  | null => "null".toList
  | bool b => boolText b
  | number n => n.text.toList
  | text s => string s
  | array [] => ['[', ']']
  | array (item :: rest) =>
    ['['] ++ prettyItems (depth + 1) (item :: rest) ++ newline depth ++ [']']
  | object [] => ['\x7b', '\x7d']
  | object (member :: rest) =>
    ['\x7b'] ++ prettyMembers (depth + 1) (member :: rest) ++ newline depth ++ ['\x7d']

/-- Items on lines of their own, with commas between them. -/
def prettyItems (depth : Nat) : List Json → List Char
  | [] => []
  | [item] => newline depth ++ prettyAt depth item
  | item :: rest => newline depth ++ prettyAt depth item ++ [','] ++ prettyItems depth rest

/-- Members on lines of their own, with commas between them. -/
def prettyMembers (depth : Nat) : List (String × Json) → List Char
  | [] => []
  | [(name, value)] => newline depth ++ string name ++ [':', ' '] ++ prettyAt depth value
  | (name, value) :: rest =>
    newline depth ++ string name ++ [':', ' '] ++ prettyAt depth value ++ [','] ++
      prettyMembers depth rest

end

/-- A value over several lines. -/
def pretty (value : Json) : String :=
  .ofList (prettyAt 0 value)

end Patchwise.Json

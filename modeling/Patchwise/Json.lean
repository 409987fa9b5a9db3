import Patchwise.Binary64.Decimal

/-!
# JSON values

The values that a JSON text tells. An object keeps its members as they are written; what its reader
sees is that the last of several members of one name counts.

## Main definitions

- `Json` — a JSON value
- `Json.member?` — the member of a name
- `Json.sortedMembers` — the members that count, in the order of their names
- `Json.Number.text` — how a number is shown
-/

namespace Patchwise

namespace Json

/-- A number: an integer of at most sixty-four bits, or a binary number. -/
inductive Number
  | integer (value : Int)
  | real (value : Binary64)
  deriving DecidableEq, Repr

/-- A number as it is shown. A binary number is shown in its shortest form, positionally if its
exponent is from -5 to 15. -/
def Number.text : Number → String
  | integer value => toString value
  | real value =>
    let decimal := value.shortest
    let size :=
      if -5 ≤ decimal.exponent && decimal.exponent ≤ 15 then decimal.positional
      else decimal.scientific
    (if value.negative then "-" else "") ++ .ofList size

end Json

inductive Json
  | null
  | bool (value : Bool)
  | number (value : Json.Number)
  | text (value : String)
  | array (items : List Json)
  /-- An object, with its members as they are written. -/
  | object (members : List (String × Json))
  deriving Inhabited, Repr

namespace Json

/-- The last of the members of a name. -/
def lookup? (name : String) : List (String × Json) → Option Json
  | [] => none
  | (key, value) :: rest =>
    match lookup? name rest with
    | some later => some later
    | none => if key = name then some value else none

/-- The member of a name, if the value is an object that has one. -/
def member? : Json → String → Option Json
  | object members, name => lookup? name members
  | _, _ => none

/-- The text that a value is, if it is one. -/
def text? : Json → Option String
  | text value => some value
  | _ => none

def isObject : Json → Bool
  | object _ => true
  | _ => false

/-- Puts a member in its place among members that are in order, instead of one of the same name. -/
def insertMember (name : String) (value : Json) : List (String × Json) → List (String × Json)
  | [] => [(name, value)]
  | (key, old) :: rest =>
    if name < key then (name, value) :: (key, old) :: rest
    else if name = key then (name, value) :: rest
    else (key, old) :: insertMember name value rest

/-- The members that count, in the order of their names. -/
def sortedMembers (members : List (String × Json)) : List (String × Json) :=
  members.foldl (fun sorted (name, value) => insertMember name value sorted) []

end Json

end Patchwise

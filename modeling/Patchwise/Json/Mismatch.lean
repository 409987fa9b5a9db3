import Patchwise.Json
import Patchwise.Text.Escape

/-!
# JSON values of an expected shape

Taking a JSON value apart as a text, a list or a record with named fields, and what is said of a
value that has another shape.

## Main definitions

- `Json.Mismatch` — how a value differs from what was expected
- `Json.asText`, `Json.asList`, `Json.asOptional` — values of simple shapes
- `Json.Fields` — the fields that an object gives a record, or a list of them in order

## Design notes

The fields of an object are looked at in the order of their names, and only then is it asked which
of them are missing, so a reader of a record names its fields twice: once in the order in which they
are looked at and once in the order in which they are declared.
-/

namespace Patchwise.Json

/-- How a value differs from what was expected. -/
inductive Mismatch
  | missingField (name : String)
  | wrongType (found : Json) (expected : String)
  | wrongLength (length : Nat) (expected : String)

/-- What a value is, in words. -/
def kind : Json → String
  | null => "null"
  | bool value => "boolean `" ++ toString value ++ "`"
  | number (.integer value) => "integer `" ++ toString value ++ "`"
  | number value => "floating point `" ++ value.text ++ "`"
  | text value => "string " ++ Text.quoted value
  | array _ => "sequence"
  | object _ => "map"

def Mismatch.message : Mismatch → String
  | missingField name => "missing field `" ++ name ++ "`"
  | wrongType found expected => "invalid type: " ++ found.kind ++ ", expected " ++ expected
  | wrongLength length expected =>
    "invalid length " ++ toString length ++ ", expected " ++ expected

def asText : Json → Except Mismatch String
  | text value => .ok value
  | value => .error (.wrongType value "a string")

/-- A value as a list of values that are read one by one. -/
def asList {α : Type} (read : Json → Except Mismatch α) : Json → Except Mismatch (List α)
  | array items => items.mapM read
  | value => .error (.wrongType value "a sequence")

/-- A value that may also be null. -/
def asOptional {α : Type} (read : Json → Except Mismatch α) : Json → Except Mismatch (Option α)
  | null => .ok none
  | value => (read value).map some

/-- A field of an object, if the object has it. -/
def field? {α : Type} (members : List (String × Json)) (name : String)
    (read : Json → Except Mismatch α) : Except Mismatch (Option α) :=
  match lookup? name members with
  | none => .ok none
  | some value => (read value).map some

/-- A field that must be there. -/
def required {α : Type} (name : String) : Option α → Except Mismatch α
  | some value => .ok value
  | none => .error (.missingField name)

/-- A field of a record that is written as a list of its fields: the item of the given index. -/
def item {α : Type} (items : List Json) (record : String) (size index : Nat)
    (read : Json → Except Mismatch α) : Except Mismatch α :=
  match items[index]? with
  | some value => read value
  | none =>
    .error (.wrongLength index ("struct " ++ record ++ " with " ++ toString size ++ " elements"))

/-- Refuses a list that has more items than the record has fields. -/
def noMoreItems (items : List Json) (size : Nat) : Except Mismatch Unit :=
  if items.length ≤ size then .ok ()
  else .error (.wrongLength items.length "fewer elements in array")

/-- A value as a record, which is written as an object or as a list of fields. -/
def asRecord {α : Type} (record : String)
    (ofMembers : List (String × Json) → Except Mismatch α)
    (ofItems : List Json → Except Mismatch α) : Json → Except Mismatch α
  | object members => ofMembers members
  | array items => ofItems items
  | value => .error (.wrongType value ("struct " ++ record))

end Patchwise.Json

import Patchwise.Toml
import Patchwise.Toml.Fault

/-!
# TOML values of an expected shape

Taking a TOML value apart as a text, a list, a number, a word of a few or a record with named
fields, and what is said of a value that has another shape.

## Main definitions

- `Toml.Mismatch` — how a value differs from what was expected
- `Toml.asText`, `Toml.asList`, `Toml.asNat`, `Toml.asWord` — values of simple shapes
- `Toml.Field` — a field of a record
- `Toml.asRecord` — values of records, whose fields may all be left out

## Design notes

The entries of a table are read in the order of their keys, so the first complaint in that order is
the one that is made. A record may also be written as a list of its fields.
-/

namespace Patchwise.Toml

/-- How a value differs from what was expected. -/
inductive Mismatch
  | unknownField (name : String) (known : List String)
  | unknownWord (word : String) (known : List String)
  | wrongType (found expected : String)
  | outOfRange (value : Int) (expected : String)
  | other

/-- Names between backquotes. -/
def quotedNames (names : List String) : List String :=
  names.map fun name => "`" ++ name ++ "`"

/-- The names that were expected, as a complaint tells them. -/
def expectedNames (names : List String) : String :=
  match quotedNames names with
  | [one] => one
  | [one, other] => one ++ " or " ++ other
  | names => "one of " ++ ", ".intercalate names

def Mismatch.message : Mismatch → String
  | unknownField name known => "unknown field `" ++ name ++ "`, expected " ++ expectedNames known
  | unknownWord word known => "unknown variant `" ++ word ++ "`, expected " ++ expectedNames known
  | wrongType found expected => "invalid type: " ++ found ++ ", expected " ++ expected
  | outOfRange value expected =>
    "invalid value: integer `" ++ toString value ++ "`, expected " ++ expected
  | other => syntaxMessage

/-- The complaint about a value that is not of the expected type. -/
def wrong {α : Type} (found : Toml) (expected : String) : Except Mismatch α :=
  .error ((found.kind?.map fun kind => .wrongType kind expected).getD .other)

/-- A value as a text, which the complaint may call by another name. -/
def asTextNamed (expected : String) : Toml → Except Mismatch String
  | text value => .ok value
  | value => wrong value expected

def asText : Toml → Except Mismatch String :=
  asTextNamed "a string"

def items? : Toml → Option (List Toml)
  | array items => some items
  | tables items => some (items.map (table .heading))
  | _ => none

/-- A value as a list of values that are read one by one. -/
def asList {α : Type} (read : Toml → Except Mismatch α) (value : Toml) :
    Except Mismatch (List α) :=
  match items? value with
  | some items => items.mapM read
  | none => wrong value "a sequence"

/-- A value as a number of so many bits. -/
def asNat (bits : Nat) (value : Toml) : Except Mismatch Nat :=
  let expected := "u" ++ toString bits
  match value with
  | integer n =>
    if Word.isUnsigned bits n then .ok n.toNat
    else if Word.fits 64 n then .error (.outOfRange n expected)
    else wrong value expected
  | value => wrong value expected

/-- Whether a value is a table or a list with nothing in it. -/
def isHollow : Toml → Bool
  | array [] | tables [] | table _ [] => true
  | _ => false

/-- A value as one of a few words. The word may also be the only key of a table whose value is
hollow. -/
def asWord {α : Type} (known : List String) (ofWord : String → Option α) (value : Toml) :
    Except Mismatch α :=
  let choose (word : String) : Except Mismatch α :=
    match ofWord word with
    | some found => .ok found
    | none => .error (.unknownWord word known)
  match value with
  | text word => choose word
  | table _ [(word, inner)] => do
    let found ← choose word
    if inner.isHollow then return found else throw .other
  | _ => .error .other

/-! ## Records -/

/-- A field of a record: its name, and how its value changes the record. -/
structure Field (α : Type) where
  name : String
  set : Toml → α → Except Mismatch α

/-- A field whose value is read, and how the record takes what was read. -/
def Field.of {α β : Type} (name : String) (read : Toml → Except Mismatch β) (put : β → α → α) :
    Field α where
  name := name
  set value a := (read value).map fun found => put found a

/-- Entries with one more, in the order of the keys. -/
def insertEntry (entry : String × Toml) : Entries → Entries
  | [] => [entry]
  | first :: rest =>
    if entry.1 < first.1 then entry :: first :: rest else first :: insertEntry entry rest

/-- Entries in the order of their keys. -/
def sortedEntries (entries : Entries) : Entries :=
  entries.foldl (fun sorted entry => insertEntry entry sorted) []

/-- The record that entries give, where fields without an entry are as in the given record. -/
def ofEntries {α : Type} (fields : List (Field α)) (usual : α) (entries : Entries) :
    Except Mismatch α :=
  (sortedEntries entries).foldlM (fun a (key, value) =>
    match fields.find? (·.name == key) with
    | some field => field.set value a
    | none => .error (.unknownField key (fields.map (·.name)))) usual

/-- The record that a list of its fields gives. -/
def ofItems {α : Type} (fields : List (Field α)) (usual : α) (items : List Toml) :
    Except Mismatch α :=
  (fields.zip items).foldlM (fun a (field, value) => field.set value a) usual

/-- What stands for the name of a field where a date or a time stands for a record. -/
def datetimeField : String :=
  "$__toml_private_datetime"

/-- A value as a record, where fields that are left out are as in the given record. -/
def asRecord {α : Type} (record : String) (fields : List (Field α)) (usual : α) (value : Toml) :
    Except Mismatch α :=
  match value with
  | table _ entries => ofEntries fields usual entries
  | datetime => .error (.unknownField datetimeField (fields.map (·.name)))
  | value =>
    match items? value with
    | some items => ofItems fields usual items
    | none => wrong value ("struct " ++ record)

end Patchwise.Toml

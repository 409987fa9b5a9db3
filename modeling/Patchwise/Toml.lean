import Patchwise.Binary64.Decimal
import Patchwise.Text.Escape
import Patchwise.Word

/-!
# TOML values

The values that a TOML document tells, and how tables grow while a document is read.

## Main definitions

- `Toml` — a value
- `Toml.Origin` — how a table came to be, which says who may add to it
- `Toml.descend` — changes a table that a path leads to
- `Toml.define` — what a key with a value does
- `Toml.opened?`, `Toml.close` — what a heading does
- `Toml.kind?` — what a value is, in words

## Design notes

A table may be given in one piece only. What counts as one piece depends on how the table came to
be, so each table remembers its origin.
-/

namespace Patchwise

namespace Toml

/-- How a table came to be. -/
inductive Origin
  | heading
  /-- By the heading of a table inside it, so that its own heading may still follow. -/
  | implied
  /-- By a key with dots. -/
  | dotted
  /-- Between braces, so that nothing may be added. -/
  | inline
  deriving DecidableEq, Repr

inductive Real
  | finite (value : Binary64)
  | infinite (negative : Bool)
  | notANumber
  deriving DecidableEq, Repr

def Real.text : Real → String
  | finite value => (if value.negative then "-" else "") ++ .ofList value.shortest.positional
  | infinite negative => if negative then "-inf" else "inf"
  | notANumber => "NaN"

end Toml

/-- A value of a TOML document. -/
inductive Toml
  | text (value : String)
  | integer (value : Int)
  | real (value : Toml.Real)
  /-- A numeral that tells no number, or one that is too large. -/
  | illegible
  | bool (value : Bool)
  | datetime
  | array (items : List Toml)
  /-- The tables that headings between double brackets have added. -/
  | tables (items : List (List (String × Toml)))
  | table (origin : Toml.Origin) (entries : List (String × Toml))
  deriving Inhabited, Repr

namespace Toml

/-- The entries of a table, in the order of the document. -/
abbrev Entries := List (String × Toml)

def find? (key : String) (entries : Entries) : Option Toml :=
  entries.lookup key

/-- The entries with another value for a key that they have. -/
def replace (key : String) (value : Toml) : Entries → Entries
  | [] => []
  | (k, old) :: rest => if k = key then (k, value) :: rest else (k, old) :: replace key value rest

/-- Changes the table that a path leads to, given how it came to be. Tables that are missing on the
way are made. The path of a heading may enter every table that is not between braces; a path that
stands in front of an equals sign (`dotted`) may not enter tables that have headings. -/
def descend (dotted : Bool) (change : Origin → Entries → Option Entries) :
    Origin → List String → Entries → Option Entries
  | origin, [], entries => change origin entries
  | _, key :: path, entries =>
    match find? key entries with
    | none => do
      let origin : Origin := if dotted then .dotted else .implied
      let inner ← descend dotted change origin path []
      return entries ++ [(key, .table origin inner)]
    | some (.table origin inner) =>
      if origin = .inline || (dotted && origin = .heading) then none
      else do
        let inner ← descend dotted change origin path inner
        return replace key (.table origin inner) entries
    | some (.tables items) =>
      match items.reverse with
      | last :: before => do
        let last ← descend dotted change .heading path last
        return replace key (.tables (last :: before).reverse) entries
      | [] => none
    | some _ => none

/-- Gives a key its value, which it may not have yet. -/
def addValue (key : String) (value : Toml) (entries : Entries) : Option Entries :=
  match find? key entries with
  | none => some (entries ++ [(key, value)])
  | some _ => none

/-- What a key with a value does to the table that it stands in. A table that the key's path leads
to must have come to be by keys with dots alone. -/
def define (path : List String) (key : String) (value : Toml) (entries : Entries) :
    Option Entries :=
  descend true (fun origin entries =>
    if origin = .dotted then addValue key value entries else none) .dotted path entries

/-! ## Headings -/

/-- What the table under a heading begins with: nothing, or what the headings of tables inside it
have put there. -/
def begun? (key : String) (entries : Entries) : Option Entries :=
  match find? key entries with
  | none => some []
  | some (.table .implied inner) => some inner
  | some _ => none

/-- What the table begins with that the heading with a path and a key opens. -/
def opened? (path : List String) (key : String) (entries : Entries) : Option Entries :=
  match path with
  | [] => begun? key entries
  | name :: path =>
    match find? name entries with
    | none => some []
    | some (.table .inline _) => none
    | some (.table _ inner) => opened? path key inner
    | some (.tables items) => items.getLast?.bind fun last => opened? path key last
    | some _ => none

/-- Puts a table under a key, in the place of the one that it began with. -/
def putTable (key : String) (content entries : Entries) : Entries :=
  match find? key entries with
  | none => entries ++ [(key, .table .heading content)]
  | some _ => replace key (.table .heading content) entries

/-- Adds a table to those under a key. -/
def pushTable (key : String) (content entries : Entries) : Option Entries :=
  match find? key entries with
  | none => some (entries ++ [(key, .tables [content])])
  | some (.tables items) => some (replace key (.tables (items ++ [content])) entries)
  | some _ => none

/-- Puts the table that a heading has opened where its path and its key say. The heading may be one
of those between double brackets, which add a table to those that are there. -/
def close (double : Bool) (path : List String) (key : String) (content entries : Entries) :
    Option Entries :=
  descend false (fun _ entries =>
    if double then pushTable key content entries else some (putTable key content entries))
    .heading path entries

/-- What a value is, in words, if that can be told. -/
def kind? : Toml → Option String
  | text value => some ("string " ++ Text.quoted value)
  | integer value =>
    some <| "integer `" ++ toString value ++ "`" ++
      (if Word.fits 64 value then ""
       else if Word.isSigned 128 value then " as i128"
       else " as u128")
  | real value => some ("floating point `" ++ value.text ++ "`")
  | illegible => none
  | bool value => some ("boolean `" ++ toString value ++ "`")
  | array _ | tables _ => some "sequence"
  | datetime | table _ _ => some "map"

end Toml

end Patchwise

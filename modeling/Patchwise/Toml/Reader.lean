import Patchwise.Toml.Scalar

/-!
# Reading TOML

What a document tells. First the whole document is cut into tokens and outlined, and only if it has
an outline are its lines gone through: a heading opens a table, and a key gives the table that is
open an entry. So the order of the tokens is faulted before anything else is.

## Main definitions

- `Toml.ofOutline` — the value that an outline tells
- `Toml.Progress` — what has been read of a document
- `Toml.read` — the entries of a document

## Design notes

A heading between single brackets is refused where it stands if its table is there already. One
between double brackets is refused only when its table is complete, after everything that stands
under it.
-/

namespace Patchwise.Toml

/-- What is there, or else the fault that is not told apart from others. -/
def orFault {α : Type} : Option α → Except Fault α
  | some found => .ok found
  | none => .error .other

/-! ## Values -/

mutual

/-- The value that an outline tells. -/
def ofOutline : Outline → Except Fault Toml
  | .scalar written => scalar written
  | .array items => (ofItemOutlines items).map .array
  | .table entries => (ofEntryOutlines [] entries).map (.table .inline)

/-- The values that outlines tell. -/
def ofItemOutlines : List Outline → Except Fault (List Toml)
  | [] => .ok []
  | item :: rest => do
    let value ← ofOutline item
    return value :: (← ofItemOutlines rest)

/-- Entries with those that outlines tell. -/
def ofEntryOutlines (entries : Entries) : List (RawKey × Outline) → Except Fault Entries
  | [] => .ok entries
  | (key, outline) :: rest => do
    let (path, name) ← keyPath key
    let value ← ofOutline outline
    ofEntryOutlines (← orFault (define path name value entries)) rest

end

/-! ## Documents -/

/-- A heading, as it is told. -/
structure Heading where
  /-- Whether it stands between double brackets. -/
  double : Bool
  path : List String
  key : String
  deriving DecidableEq, Repr

/-- What has been read of a document. -/
structure Progress where
  /-- What is told in front of the heading that is open. -/
  entries : Entries
  /-- The heading that is open, and what the table under it holds. -/
  opened : Option (Heading × Entries)

namespace Progress

def start : Progress := ⟨[], none⟩

/-- What is told once the heading that is open is closed. -/
def finish (p : Progress) : Except Fault Entries :=
  match p.opened with
  | none => .ok p.entries
  | some (heading, content) =>
    orFault (close heading.double heading.path heading.key content p.entries)

/-- Goes on behind a heading. -/
def onHeading (p : Progress) (double : Bool) (key : RawKey) : Except Fault Progress := do
  let entries ← p.finish
  let (path, key) ← keyPath key
  let content ← if double then pure [] else orFault (opened? path key entries)
  return ⟨entries, some (⟨double, path, key⟩, content)⟩

/-- Goes on behind a key with a value. -/
def onEntry (p : Progress) (key : RawKey) (value : Outline) : Except Fault Progress := do
  let (path, key) ← keyPath key
  let value ← ofOutline value
  match p.opened with
  | none => return { p with entries := ← orFault (define path key value p.entries) }
  | some (heading, content) =>
    return { p with opened := some (heading, ← orFault (define path key value content)) }

/-- Goes on behind a line. -/
def onLine (p : Progress) : Line → Except Fault Progress
  | .heading double key => p.onHeading double key
  | .entry key value => p.onEntry key value

end Progress

/-- The entries that lines tell. -/
def ofLines (lines : List Line) : Except Fault Entries := do
  (← lines.foldlM Progress.onLine .start).finish

/-- A text without a byte order mark in front of it. -/
def dropOrderMark : List Char → List Char
  | '\uFEFF' :: rest => rest
  | cs => cs

/-- The entries of a document, or what is wrong with it. -/
def read (text : String) : Except Fault Entries := do
  let tokens ← orFault (tokens? (dropOrderMark text.toList))
  ofLines (← orFault (lines? tokens))

end Patchwise.Toml

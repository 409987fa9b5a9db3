import Patchwise.Requirement

/-!
# Entries of a manifest's text

A manifest is edited in its text, so that the order of its keys, its layout and the operators of its
requirements stay as they are. An entry is found by its key and the key of the section around it,
and everything in front of its value and behind it is kept.

## Main definitions

- `Manifest.search` — the first place in a text where something can be read
- `Manifest.Entry` — an entry, with the text around it
- `Manifest.Entry.find?` — the first entry of a key in the first section of a key
- `Manifest.replaceVersion`, `Manifest.replaceSpec` — the text with another version or requirement

## Design notes

Sections hold only texts, so a section ends at the first closing brace. The two parts of an edit are
kept apart: `Entry.find?` takes the text apart without losing a character of it (`Entry.text`), and
an edit puts it together again with another value (`Entry.withSpec`).
-/

namespace Patchwise.Manifest

/-- The first place in a text where `read?` can read something: the text in front of it, what is
read, and the text behind it. -/
def search {α : Type} (read? : List Char → Option (α × List Char)) :
    List Char → Option (List Char × α × List Char)
  | [] => (read? []).map fun (found, rest) => ([], found, rest)
  | c :: cs =>
    match read? (c :: cs) with
    | some (found, rest) => some ([], found, rest)
    | none => (search read? cs).map fun (before, found, rest) => (c :: before, found, rest)

/-- A key at the start of a text, between quotation marks, with the colon after it and the white
space around the colon. -/
def key? (name cs : List Char) : Option (List Char × List Char) :=
  let quoted := '"' :: name ++ ['"']
  if quoted.isPrefixOf cs then
    let cs := cs.drop quoted.length
    match cs.dropWhile Text.isBlank with
    | ':' :: rest =>
      some (quoted ++ cs.takeWhile Text.isBlank ++ ':' :: rest.takeWhile Text.isBlank,
        rest.dropWhile Text.isBlank)
    | _ => none
  else none

/-- The opening of a section at the start of a text: its key and a brace. -/
def opening? (heading cs : List Char) : Option (List Char × List Char) := do
  match ← key? heading cs with
  | (key, '\x7b' :: rest) => some (key ++ ['\x7b'], rest)
  | _ => none

/-- A key and a quoted value at the start of a text: the key up to the value's quotation mark, the
value, and the text after the value. -/
def pair? (package cs : List Char) : Option ((List Char × List Char) × List Char) := do
  match ← key? package cs with
  | (key, '"' :: rest) =>
    match rest.dropWhile (· != '"') with
    | '"' :: after => some ((key, rest.takeWhile (· != '"')), after)
    | _ => none
  | _ => none

/-- An entry of a manifest, with the text around it. -/
structure Entry where
  /-- The text up to the quotation mark in front of the value. -/
  before : List Char
  /-- The value, as it is written. -/
  spec : List Char
  /-- The text from the quotation mark behind the value on. -/
  after : List Char
  deriving DecidableEq, Repr

namespace Entry

/-- The whole text around an entry with another value in its place. -/
def withSpec (e : Entry) (spec : List Char) : List Char :=
  e.before ++ '"' :: spec ++ '"' :: e.after

/-- The whole text around an entry. -/
def text (e : Entry) : List Char :=
  e.withSpec e.spec

/-- The first entry of a key in the first section of a key. The section must be closed. -/
def find? (heading package cs : List Char) : Option Entry := do
  let (before, opening, inside) ← search (opening? heading) cs
  let body := inside.takeWhile (· != '\x7d')
  let close := inside.dropWhile (· != '\x7d')
  if close.isEmpty then none
  else
    let (lead, (key, spec), rest) ← search (pair? package) body
    return { before := before ++ opening ++ lead ++ key, spec, after := rest ++ close }

end Entry

/-- The text of a manifest in which a package has another version. The operator that is declared
for the package stays. -/
def replaceVersion (heading package version cs : List Char) : Option (List Char) :=
  (Entry.find? heading package cs).map fun e =>
    e.withSpec ((Requirement.ofSpec e.spec).operator ++ version)

/-- The text of a manifest in which a package has another requirement. -/
def replaceSpec (heading package spec cs : List Char) : Option (List Char) :=
  (Entry.find? heading package cs).map fun e => e.withSpec spec

end Patchwise.Manifest

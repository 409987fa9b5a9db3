import Patchwise.Text

/-!
# Paths

Paths of files as texts, with slashes between their parts.

## Main definitions

- `Path.Component` — a part of a path
- `Path.components` — the parts of a path
- `Path.join` — a path seen from a directory
- `Path.relativeTo?` — the rest of a path that leads through a directory

## Design notes

Two texts may have the same components: slashes may be repeated or stand at the end, and a dot
counts only at the beginning.
-/

namespace Patchwise.Path

/-- A part of a path. -/
inductive Component
  | root
  /-- The directory itself, which a relative path may begin with. -/
  | current
  /-- The directory above. -/
  | parent
  | name (text : List Char)
  deriving DecidableEq, Repr

def isAbsolute (path : List Char) : Bool :=
  path.head? = some '/'

/-- What stands between the slashes of a path. -/
def segments (path : List Char) : List (List Char) :=
  Text.split (· == '/') path

/-- Whether a segment other than the first one is no part of a path. -/
def isSilent (segment : List Char) : Bool :=
  segment.isEmpty || segment = ['.']

/-- The part that a segment other than the first one is. -/
def ofSegment (segment : List Char) : Component :=
  if segment = ['.', '.'] then .parent else .name segment

/-- The parts of a path. -/
def components (path : List Char) : List Component :=
  let rest (segments : List (List Char)) := (segments.filter (!isSilent ·)).map ofSegment
  match segments path with
  | [] => []
  | first :: more =>
    if isAbsolute path then .root :: rest more
    else if first = ['.'] then .current :: rest more
    else rest (first :: more)

/-- A path that is meant as seen from a directory, as a path by itself. -/
def join (directory path : List Char) : List Char :=
  if isAbsolute path || directory.isEmpty then path
  else if directory.getLast? = some '/' then directory ++ path
  else directory ++ '/' :: path

/-- Segments without the silent ones at their start. -/
def dropSilent (segments : List (List Char)) : List (List Char) :=
  segments.dropWhile isSilent

/-- Segments without as many parts at their start, and without the silent ones before and after
them. -/
def dropParts : Nat → List (List Char) → List (List Char)
  | 0, segments => dropSilent segments
  | parts + 1, segments => dropParts parts ((dropSilent segments).drop 1)

/-- Segments with slashes between them. -/
def unsplit (segments : List (List Char)) : List Char :=
  List.intercalate ['/'] segments

/-- Segments without the silent ones at their end. -/
def dropSilentEnd (segments : List (List Char)) : List (List Char) :=
  (dropSilent segments.reverse).reverse

/-- A path without the silent segments at its end. What it begins with stays. -/
def trimEnd (path : List Char) : List Char :=
  match segments path with
  | [] => []
  | first :: more =>
    if isAbsolute path then '/' :: unsplit (dropSilentEnd more)
    else unsplit (first :: dropSilentEnd more)

/-- What is left of a path behind the parts of a directory, if the path begins with them. -/
def relativeTo? (directory path : List Char) : Option (List Char) :=
  let parts := components directory
  if parts.isPrefixOf (components path) then
    if parts.isEmpty then some (trimEnd path)
    else
      let anchored := parts.head? = some .root || parts.head? = some .current
      let left :=
        if anchored then dropParts (parts.length - 1) ((segments path).drop 1)
        else dropParts parts.length (segments path)
      some (unsplit (dropSilentEnd left))
  else none

/-! ## On strings -/

/-- A path seen from a directory. -/
def joined (directory path : String) : String :=
  .ofList (join directory.toList path.toList)

/-- A path as it is seen from a directory, if it leads through the directory; any other path stays
as it is. -/
def seenFrom (directory path : String) : String :=
  match relativeTo? directory.toList path.toList with
  | some rest => .ofList rest
  | none => path

end Patchwise.Path

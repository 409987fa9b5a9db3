import Patchwise.Text
import Patchwise.Url.Percent

/-!
# Paths in addresses

The part of an address that says where to go at the host. Most paths are segments with slashes in
front of them; a segment may also mean the place it stands in, or the place above it, and leaves no
trace then.

A segment that names a drive, a letter before a colon or a bar, holds its place: no segment leads
above it.

## Main definitions

- `Url.Path` — where to go
- `Url.Path.walk` — the segments that are left when all places have been gone to
- `Url.Path.ofSegments`, `Url.Path.ofFile` — the path that segments tell
- `Url.Path.toText` — the text of a path
-/

namespace Patchwise.Url

/-- Where to go at a host. -/
inductive Path where
  /-- Segments, each with a slash in front of it. -/
  | segments (all : List (List Char))
  /-- A text that is not divided. -/
  | undivided (cs : List Char)
  deriving DecidableEq, Repr

namespace Path

/-- Whether a character ends a segment where a backslash is as good as a slash. -/
def isSlash (c : Char) : Bool :=
  c == '/' || c == '\\'

/-- Whether a segment means the place it stands in. -/
def isDot (segment : List Char) : Bool :=
  [".", "%2e"].contains (String.ofList (segment.map Char.toLower))

/-- Whether a segment means the place above. -/
def isDoubleDot (segment : List Char) : Bool :=
  ["..", ".%2e", "%2e.", "%2e%2e"].contains (String.ofList (segment.map Char.toLower))

/-- Whether a segment names a drive. -/
def isDrive : List Char → Bool
  | [letter, mark] => letter.isAlpha && (mark == ':' || mark == '|')
  | _ => false

/-- Whether no segment leads above this one: it names a drive, with nothing or a backslash after
it. -/
def holds (segment : List Char) : Bool :=
  isDrive (segment.take 2) && (segment.drop 2).head?.all (· == '\\')

/-- The segments above the last one of those gone through, which come the last one first. -/
def above : List (List Char) → List (List Char)
  | [] => []
  | last :: before => if holds last then last :: before else before

/-- The segments that are left, the last one first, when some have been gone through and some more
follow. A segment that means a place leaves an empty one at the end of a path. -/
def walk (gone : List (List Char)) : List (List Char) → List (List Char)
  | [] => gone
  | segment :: rest =>
    let ending := if rest.isEmpty then [[]] else []
    if isDoubleDot segment then walk (ending ++ above gone) rest
    else if isDot segment then walk (ending ++ gone) rest
    else walk (Percent.encode Percent.pathSet segment :: gone) rest

/-- The segments that are left when all places have been gone to. -/
def settled (segments : List (List Char)) : List (List Char) :=
  (walk [] segments).reverse

/-- The path that segments tell. -/
def ofSegments (all : List (List Char)) : Path :=
  segments (settled all)

/-- The path to a file that segments tell, which has no empty segment in front, and whether it
begins with a drive. The drive has a colon after its letter. -/
def ofFile (all : List (List Char)) : Path × Bool :=
  match settled all with
  | [] => (segments [[]], false)
  | first :: rest =>
    if isDrive first then (segments ((first.take 1 ++ [':']) :: rest), true)
    else
      match (first :: rest).dropWhile (·.isEmpty) with
      | [] => (segments [[]], false)
      | filled => (segments filled, false)

def toText : Path → List Char
  | segments all => all.flatMap ('/' :: ·)
  | undivided cs => cs

end Path

end Patchwise.Url

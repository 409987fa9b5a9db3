import Patchwise.File
import Patchwise.Path

/-!
# Trees of files

A tree of directories and files as a value: the place that a path leads to, and what is read and
written there.

## Main definitions

- `File.Fault` — why nothing can be read or written at a path
- `File.Tree` — what stands at which place
- `File.Tree.locate` — the place that a path leads to
- `File.Tree.content` — what is found at a path
- `File.Tree.write` — the tree with a file at a path

## Design notes

A path is walked part by part. Each part must lead on from a directory that is there, even if the
part after it leads back.
-/

namespace Patchwise.File

/-- Why nothing can be read or written at a path. -/
inductive Fault
  | absent
  | notDirectory
  | isDirectory
  | tooLong
  /-- The path holds a zero, which no path can. -/
  | zero
  deriving DecidableEq, Repr

/-- A fault in the words of the system. -/
def Fault.reason : Fault → String
  | absent => "No such file or directory (os error 2)"
  | notDirectory => "Not a directory (os error 20)"
  | isDirectory => "Is a directory (os error 21)"
  | tooLong => "File name too long (os error 36)"
  | zero => "file name contained an unexpected NUL byte"

/-- The names that lead from the root to a place. -/
abbrev Place : Type := List (List Char)

/-- What stands at a place. -/
inductive Node
  | file (bytes : List UInt8)
  | directory
  deriving DecidableEq, Repr

/-- What stands at which place. -/
structure Tree where
  nodes : List (Place × Node)

namespace Tree

/-- What stands at a place. The root, and what has something below it, is a directory. -/
def node? (t : Tree) (place : Place) : Option Node :=
  if place.isEmpty then some .directory
  else
    (t.nodes.lookup place).or <|
      (t.nodes.find? fun (found, _) => place.isPrefixOf found).map fun _ => .directory

/-- The tree with a file at a place. -/
def put (t : Tree) (place : Place) (bytes : List UInt8) : Tree :=
  ⟨(place, .file bytes) :: t.nodes.filter (·.1 != place)⟩

theorem node?_put (t : Tree) (place : Place) (bytes : List UInt8) (h : place ≠ []) :
    (t.put place bytes).node? place = some (.file bytes) := by
  have hplace : place.isEmpty = false := by simpa using h
  simp [node?, put, hplace]

/-! ## Paths -/

/-- How many bytes a name may have. -/
def longestName : Nat := 255

/-- How many bytes a path may have. -/
def longestPath : Nat := 4095

def byteCount (cs : List Char) : Nat :=
  (String.ofList cs).utf8ByteSize

/-- The segments of a path that can be walked at all. -/
def segments? (path : List Char) : Except Fault (List (List Char)) :=
  if path.contains '\x00' then .error .zero
  else if path.isEmpty then .error .absent
  else if longestPath < byteCount path then .error .tooLong
  else .ok (Path.segments path)

/-- The place that segments lead to. Only the last of them may lead to nothing. -/
def walk (t : Tree) (place : Place) : List (List Char) → Except Fault Place
  | [] => .ok place
  | segment :: rest =>
    match t.node? place with
    | none => .error .absent
    | some (.file _) => .error .notDirectory
    | some .directory =>
      if Path.isSilent segment then t.walk place rest
      else if segment = ['.', '.'] then t.walk place.dropLast rest
      else if longestName < byteCount segment then .error .tooLong
      else t.walk (place ++ [segment]) rest

/-- Where a path begins that is seen from a place. -/
def startOf (here : Place) (path : List Char) : Place :=
  if Path.isAbsolute path then [] else here

/-- The place that a path seen from a place leads to. -/
def locate (t : Tree) (here : Place) (path : List Char) : Except Fault Place := do
  t.walk (startOf here path) (← segments? path)

def find (t : Tree) (here : Place) (path : List Char) : Except Fault Node := do
  match t.node? (← t.locate here path) with
  | some node => return node
  | none => throw .absent

/-- What is found at a path. -/
def content (t : Tree) (here : Place) (path : List Char) : Content :=
  match t.find here path with
  | .error _ => .absent
  | .ok .directory => .unreadable Fault.isDirectory.reason
  | .ok (.file bytes) => .bytes bytes

/-- The tree with a file at a path. No file is at a path that ends with a slash, whatever its last
name leads to. -/
def write (t : Tree) (here : Place) (path : List Char) (bytes : List UInt8) : Except Fault Tree := do
  let segments ← segments? path
  let start := startOf here path
  if path.getLast? = some '/' then
    let parents := ((segments.reverse.dropWhile List.isEmpty).drop 1).reverse
    let _ ← t.walk start (parents ++ [[]])
    throw .isDirectory
  let place ← t.walk start segments
  match t.node? place with
  | some .directory => throw .isDirectory
  | _ => return t.put place bytes

end Tree

end Patchwise.File

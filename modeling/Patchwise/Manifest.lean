import Patchwise.Failure
import Patchwise.File
import Patchwise.Json.Reader
import Patchwise.Manifest.Entry

/-!
# Manifests

A project's manifest, held in memory: its text, and the JSON value that the text tells. Edits are
made in the text and reach the file only when the manifest is written.

## Main definitions

- `Manifest` — a manifest's path, text and value
- `Manifest.parse`, `Manifest.ofFile` — the manifest that a text or a file holds
- `Manifest.specOf`, `Manifest.declares` — what a manifest declares for a package
- `Manifest.setVersion`, `Manifest.setSpec` — edits

## Design notes

The value is part of the manifest together with the fact that it is what the text tells, so an edit
cannot leave the two apart. An edit whose text would not be JSON is refused.
-/

namespace Patchwise

/-- A manifest in memory. -/
structure Manifest where
  path : String
  /-- The text, as it would be written. -/
  content : String
  /-- What the text tells. -/
  value : Json
  read_content : Json.read content = some value

namespace Manifest

/-- The name of a manifest's file, unless another one is configured. -/
def fileName : String := "package.json"

/-- The manifest that a text holds. -/
def parse (path content : String) : Except InputError Manifest :=
  match h : Json.read content with
  | some value => .ok ⟨path, content, value, h⟩
  | none => .error (.notJson path Json.syntaxMessage)

/-- The manifest in a file. -/
def ofFile (path : String) : File.Content → Except InputError Manifest
  | .absent => .error (.manifestNotFound path)
  | .unreadable reason => .error (.unreadable path reason)
  | .bytes bytes =>
    match File.text bytes with
    | .ok content => parse path content
    | .error reason => .error (.unreadable path reason)

def hasSection (m : Manifest) (dependencyType : String) : Bool :=
  ((m.value.member? dependencyType).map Json.isObject).getD false

/-- What a manifest declares for a package, such as `^4.17.20`. -/
def specOf (m : Manifest) (dependencyType package : String) : Option String := do
  (← (← m.value.member? dependencyType).member? package).text?

/-- The version that a manifest declares for a package, without an operator. -/
def versionOf (m : Manifest) (dependencyType package : String) : Option String :=
  (m.specOf dependencyType package).map fun spec =>
    .ofList (Requirement.ofSpec spec.toList).version

def declares (m : Manifest) (dependencyType package : String) : Bool :=
  (m.specOf dependencyType package).isSome

/-- The manifest with another text, or none if an edit found nothing to replace. -/
def edited (m : Manifest) (dependencyType package : String) :
    Option (List Char) → Except InputError Manifest
  | some content => parse m.path (.ofList content)
  | none => .error (.notDeclared m.path dependencyType package)

/-- Points a package at a version. The operator that is declared for it stays. -/
def setVersion (m : Manifest) (dependencyType package version : String) :
    Except InputError Manifest :=
  m.edited dependencyType package <|
    replaceVersion dependencyType.toList package.toList version.toList m.content.toList

/-- Declares a requirement for a package, operator and all. -/
def setSpec (m : Manifest) (dependencyType package spec : String) : Except InputError Manifest :=
  m.edited dependencyType package <|
    replaceSpec dependencyType.toList package.toList spec.toList m.content.toList

end Manifest

end Patchwise

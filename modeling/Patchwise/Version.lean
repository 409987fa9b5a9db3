import Patchwise.Text

/-!
# Versions and the size of a change

How large the step from one version to another is. A version is a text of components between dots,
and components are compared as they are written, so `1.02.0` and `1.2.0` differ in their second
component.

## Main definitions

- `Severity` — the size of a version change, ordered by risk
- `MalformedVersion` — a version that has no major, minor and patch component
- `Version.leading` — the major and the minor component of a version
- `Severity.between` — the size of the change from one version to another
-/

namespace Patchwise

/-- How large a version change is. -/
inductive Severity
  /-- The versions are the same text. -/
  | unchanged
  /-- Only the third component, or what follows it, changed. -/
  | patch
  /-- The second component changed. -/
  | minor
  /-- The first component changed. -/
  | major
  deriving DecidableEq, Repr, Inhabited

namespace Severity

/-- The risk of a change: the larger the number, the larger the change. -/
def rank : Severity → Nat
  | unchanged => 0
  | patch => 1
  | minor => 2
  | major => 3

def all : List Severity :=
  [unchanged, patch, minor, major]

instance : LE Severity :=
  ⟨fun a b => a.rank ≤ b.rank⟩

instance : DecidableLE Severity :=
  fun a b => inferInstanceAs (Decidable (a.rank ≤ b.rank))

instance : Ord Severity :=
  ⟨fun a b => compare a.rank b.rank⟩

instance : Max Severity :=
  ⟨fun a b => if a ≤ b then b else a⟩

def label : Severity → String
  | unchanged => "none"
  | patch => "patch"
  | minor => "minor"
  | major => "major"

def ofLabel? (word : String) : Option Severity :=
  all.find? (·.label == word)

theorem ofLabel?_label (s : Severity) : ofLabel? s.label = some s := by
  cases s <;> rfl

theorem rank_injective {s t : Severity} (h : s.rank = t.rank) : s = t := by
  revert h
  cases s <;> cases t <;> decide

end Severity

/-- A version that cannot be told apart into major, minor and patch. -/
structure MalformedVersion where
  version : String
  deriving DecidableEq, Repr

def MalformedVersion.message (e : MalformedVersion) : String :=
  "malformed version '" ++ e.version ++ "': expected major.minor.patch"

namespace Version

/-- The texts between the dots of a version. -/
def components (version : String) : List (List Char) :=
  Text.split (· == '.') version.toList

/-- The first two components of a version that has at least three. -/
def leading (version : String) : Except MalformedVersion (List Char × List Char) :=
  match components version with
  | major :: minor :: _ :: _ => .ok (major, minor)
  | _ => .error ⟨version⟩

end Version

/-- The size of the change from `current` to `target`. Two equal texts are no change, whatever their
shape; otherwise both must have three components, and the current version is looked at first. -/
def Severity.between (current target : String) : Except MalformedVersion Severity :=
  if current = target then
    .ok .unchanged
  else do
    let here ← Version.leading current
    let there ← Version.leading target
    if here.1 ≠ there.1 then
      return .major
    else if here.2 ≠ there.2 then
      return .minor
    else
      return .patch

end Patchwise

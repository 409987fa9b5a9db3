import Patchwise.Version

/-!
# Outdated packages

A record is one package that is not at its newest version, together with the two versions it could
move to and the sizes of the two steps.

## Main definitions

- `Record` — one outdated package
- `Reach` — which of a record's two newer versions is meant
- `Record.target`, `Record.delta` — the version that a reach means and the size of the step to it
-/

namespace Patchwise

/-- Which of the newer versions of a package an upgrade goes for. -/
inductive Reach
  /-- The highest version that the declared range allows. -/
  | wanted
  /-- The highest version that has been published. -/
  | latest
  deriving DecidableEq, Repr

def Reach.label : Reach → String
  | .wanted => "wanted"
  | .latest => "latest"

/-- One outdated package. -/
structure Record where
  name : String
  current : String
  wanted : String
  latest : String
  /-- The size of the step from the current version to the wanted one. -/
  wantedDelta : Severity
  /-- The size of the step from the current version to the latest one. -/
  latestDelta : Severity
  /-- The manifest section that the package belongs to, where the report says so. -/
  packageType : Option String
  deriving DecidableEq, Repr, Inhabited

namespace Record

def target (r : Record) : Reach → String
  | .wanted => r.wanted
  | .latest => r.latest

/-- The size of the step to the version that a reach means. -/
def delta (r : Record) : Reach → Severity
  | .wanted => r.wantedDelta
  | .latest => r.latestDelta

def display (r : Record) : String :=
  r.name ++ " " ++ r.current ++ " (wanted " ++ r.wanted ++ " [" ++ r.wantedDelta.label ++
    "], latest " ++ r.latest ++ " [" ++ r.latestDelta.label ++ "])"

end Record

end Patchwise

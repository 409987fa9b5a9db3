import Patchwise.Strategy

/-!
# The options of a run

## Main definitions

- `Upgrade.Options` — what a run is to do
- `Upgrade.Options.admits` — whether a package passes the filters
-/

namespace Patchwise.Upgrade

/-- What a run is to do. -/
structure Options where
  strategy : Strategy
  /-- The manifest sections, in the order in which they are processed. -/
  dependencyTypes : List String
  /-- The only packages to consider, if there are any. -/
  only : List String
  /-- The packages that are not to be considered. -/
  exclude : List String
  /-- Whether to select packages without doing anything to them. -/
  dryRun : Bool
  deriving DecidableEq, Repr

namespace Options

/-- The manifest sections that are processed unless others are configured. -/
def usualSections : List String :=
  ["dependencies", "devDependencies"]

def usual : Options :=
  { strategy := .conservative, dependencyTypes := usualSections, only := [], exclude := [],
    dryRun := false }

/-- Whether a package passes the filters. If some packages are named as the only ones, the excluded
ones do not matter. -/
def admits (o : Options) (package : String) : Bool :=
  if o.only.isEmpty then !o.exclude.contains package else o.only.contains package

end Options

end Patchwise.Upgrade

import Patchwise.Console
import Patchwise.PackageTool.Outdated
import Patchwise.Path

/-!
# Driving a package manager

Starting a package manager's commands in a project, and telling which package manager a project
uses.

## Main definitions

- `PackageTool.Runner` — a package manager in a project
- `PackageTool.Runner.outdated`, `PackageTool.Runner.upgrade`, `PackageTool.Runner.add`
- `PackageTool.detect` — the package manager of a project
-/

namespace Patchwise.PackageTool

/-- A package manager whose commands are started in a directory. -/
structure Runner where
  tool : PackageTool
  directory : String
  console : Console
  deriving DecidableEq, Repr

namespace Runner

def command (r : Runner) (args : List String) : Command :=
  ⟨r.tool.program, args, r.directory⟩

/-- The report in what the package manager has printed for a manifest section. The command may say
that it failed and still have printed a report: package managers do so when anything is outdated. -/
def reportOf (r : Runner) (dependencyType : String) (f : Finished) : Except Failure Report :=
  match r.tool.readOutdated (Text.Utf8.decodeLossy f.stdout) with
  | .error cause => .error (.report cause)
  | .ok (some report) => .ok (report.ofSection dependencyType)
  | .ok none =>
    if f.success then .ok (Report.empty.ofSection dependencyType)
    else .error (.tool (Console.failure (r.command r.tool.outdatedArgs) f))

def outdated (r : Runner) (dependencyType : String) :
    Session Host.interface (Except Failure Report) :=
  (r.console.start (r.command r.tool.outdatedArgs)).bind fun answer =>
    .done <|
      match answer with
      | .error cause => .error (.tool cause)
      | .ok finished => r.reportOf dependencyType finished

/-- Starts a command for a package at a version, unless one of them is refused. -/
def perform (r : Runner) (package version : String) (args : String → List String) :
    Session Host.interface (Except ToolError Unit) :=
  match r.tool.argument package version with
  | .error cause => .done (.error cause)
  | .ok spec => r.console.perform (r.command (args spec))

def upgrade (r : Runner) (package version : String) :
    Session Host.interface (Except ToolError Unit) :=
  r.perform package version r.tool.upgradeArgs

def add (r : Runner) (package version dependencyType : String) :
    Session Host.interface (Except ToolError Unit) :=
  r.perform package version fun spec => r.tool.addArgs spec dependencyType

end Runner

/-- The package manager of the first of some lock files that is there. -/
def detectAmong (directory : String) :
    List (String × PackageTool) → Session Host.interface PackageTool
  | [] => .done usual
  | (file, tool) :: rest =>
    .call (Host.Call.isThere (Path.joined directory file)) fun (found : Bool) =>
      if found then .done tool else detectAmong directory rest

/-- The package manager of the project in a directory, told by its lock files. -/
def detect (directory : String) : Session Host.interface PackageTool :=
  detectAmong directory lockfiles

end Patchwise.PackageTool

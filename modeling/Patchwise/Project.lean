import Patchwise.PackageTool.Commands
import Patchwise.Upgrade.Run
import Patchwise.Verifier

/-!
# Projects

A project together with the collaborators that a run works through, so that a run becomes a session
with the machine.

## Main definitions

- `Upgrade.Notice.line` — how a notice is shown
- `Project` — a project's package manager, repository and way of verifying
- `Project.upgrade` — a run in a project
-/

namespace Patchwise

/-- The line that shows a notice. -/
def Upgrade.Notice.line (terminal : Bool) : Notice → String
  | step text => text
  | success text => Style.green.paint terminal "✓" ++ " " ++ text
  | warning text => Style.boldYellow.paint terminal "!" ++ " " ++ text
  | error text => Style.boldRed.paint terminal "✗" ++ " " ++ text
  | detail text => Style.dimmed.paint terminal text

namespace Console

/-- Whether a notice is shown. What failed is shown even if little is told. -/
def shows (c : Console) : Upgrade.Notice → Bool
  | .error _ => true
  | .detail _ => c.verbose && !c.quiet
  | _ => !c.quiet

def tell (c : Console) (notice : Upgrade.Notice) : Session Host.interface Unit :=
  if c.shows notice then report (notice.line c.terminal) else .done ()

end Console

/-- A project's package manager, repository and way of verifying. -/
structure Project where
  directory : String
  tool : PackageTool
  verifier : Verifier
  console : Console
  deriving DecidableEq, Repr

namespace Project

/-- The project's package manager, with what it is driven by. -/
def runner (p : Project) : PackageTool.Runner :=
  { tool := p.tool, directory := p.directory, console := p.console }

def repository (p : Project) : Repository :=
  { directory := p.directory, console := p.console }

/-- What a call of a run is to the machine. -/
def call (p : Project) : (call : Upgrade.Call) → Session Host.interface call.Answer
  | .outdated dependencyType => p.runner.outdated dependencyType
  | .upgrade package version => p.runner.upgrade package version
  | .add package version dependencyType => p.runner.add package version dependencyType
  | .verify _ => p.verifier.verify p.repository
  | .addAll => p.repository.addAll
  | .commit message => p.repository.commit message
  | .push => p.repository.push
  | .checkout path => p.repository.checkout path
  | .contentOf path => .ask (I := Host.interface) (Host.Call.contentOf path)
  | .store path text => .ask (I := Host.interface) (Host.Call.store path text)
  | .isCancelled => .ask (I := Host.interface) Host.Call.isCancelled
  | .clock => .ask (I := Host.interface) Host.Call.clock
  | .tell notice => p.console.tell notice

def upgrade (p : Project) (o : Upgrade.Options) (m : Manifest) :
    Session Host.interface (Summary × Manifest) :=
  (Upgrade.run o m).interpret p.call

end Project

end Patchwise

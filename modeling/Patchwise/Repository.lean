import Patchwise.Console
import Patchwise.Path

/-!
# Version control

The project's repository, driven by commands.

## Main definitions

- `Repository` — a repository in a directory
- `Repository.ensure` — whether the directory is one
- `Repository.addAll`, `Repository.commit`, `Repository.push`, `Repository.checkout`,
  `Repository.currentBranch` — what a run needs of it
-/

namespace Patchwise

/-- A repository whose commands are started in a directory. -/
structure Repository where
  directory : String
  console : Console
  deriving DecidableEq, Repr

namespace Repository

def program : String := "git"

/-- A command of version control. -/
def command (r : Repository) (args : List String) : Command :=
  ⟨program, args, r.directory⟩

/-- Starts a command that must say that it did its work. -/
def perform (r : Repository) (args : List String) :
    Session Host.interface (Except ToolError Unit) :=
  r.console.perform (r.command args)

/-- Fails if there is no version control, or if the directory is in no repository. -/
def ensure (r : Repository) : Session Host.interface (Except ToolError Unit) :=
  r.perform ["rev-parse", "--is-inside-work-tree"]

def addAll (r : Repository) : Session Host.interface (Except ToolError Unit) :=
  r.perform ["add", "--all"]

def commit (r : Repository) (message : String) : Session Host.interface (Except ToolError Unit) :=
  r.perform ["commit", "-m", message]

def push (r : Repository) : Session Host.interface (Except ToolError Unit) :=
  r.perform ["push"]

def checkout (r : Repository) (path : String) : Session Host.interface (Except ToolError Unit) :=
  r.perform ["checkout", "--", Path.seenFrom r.directory path]

def currentBranch (r : Repository) : Session Host.interface (Except ToolError String) :=
  (r.console.startChecked (r.command ["rev-parse", "--abbrev-ref", "HEAD"])).bind fun answer =>
    .done (answer.map fun finished => Text.trimmed (Text.Utf8.decodeLossy finished.stdout))

end Repository

end Patchwise

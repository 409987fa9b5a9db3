import Patchwise.Attempt
import Patchwise.Failure
import Patchwise.File
import Patchwise.Session
import Patchwise.Verdict

/-!
# The collaborators of a run

A run works through a package manager, a verification, version control and the manifest's file. It
also looks at the clock, asks whether the user wants it to stop, and tells how it gets on.

## Main definitions

- `Upgrade.Notice` — what a run tells while it works
- `Upgrade.Call`, `Upgrade.interface` — the calls that a run makes
- `Upgrade.Call.acts` — whether a call reaches the project
-/

namespace Patchwise.Upgrade

/-- What a run tells while it works. -/
inductive Notice
  | step (text : String)
  | success (text : String)
  | warning (text : String)
  | error (text : String)
  /-- More about the notice before. -/
  | detail (text : String)
  deriving DecidableEq, Repr

/-- The calls that a run makes. -/
inductive Call
  | outdated (dependencyType : String)
  | upgrade (package version : String)
  /-- Pins a package at a version in a manifest section. -/
  | add (package version dependencyType : String)
  /-- Whether the project is well with an attempt applied. -/
  | verify (attempt : Attempt)
  | addAll
  | commit (message : String)
  | push
  | checkout (path : String)
  | contentOf (path : String)
  | store (path text : String)
  | isCancelled
  | clock
  | tell (notice : Notice)

@[reducible]
def Call.Answer : Call → Type
  | outdated _ => Except Failure Report
  | upgrade _ _ => Except ToolError Unit
  | add _ _ _ => Except ToolError Unit
  | verify _ => Except VerifyError Verdict
  | addAll => Except ToolError Unit
  | commit _ => Except ToolError Unit
  | push => Except ToolError Unit
  | checkout _ => Except ToolError Unit
  | contentOf _ => File.Content
  | store _ _ => Except String Unit
  | isCancelled => Bool
  | clock => Timestamp
  | tell _ => Unit

abbrev interface : Interface := ⟨Call, Call.Answer⟩

/-- Whether a call reaches the project, its tools or its files. The others are about the user and
the time. -/
def Call.acts : Call → Bool
  | isCancelled | clock | tell _ => false
  | _ => true

def tell (notice : Notice) : Session interface Unit :=
  .ask (I := interface) (Call.tell notice)

def now : Session interface Timestamp :=
  .ask (I := interface) Call.clock

end Patchwise.Upgrade

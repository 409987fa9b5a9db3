import Patchwise.Host
import Patchwise.Failure
import Patchwise.Style

/-!
# The user's console

What is told to the user while the program works, and commands that are shown before they are
started.

## Main definitions

- `Console` — how much is told, and whether to a terminal
- `Console.start` — starts a command, showing it if much is told
- `Console.startChecked` — the same, for a command that must say that it did its work
-/

namespace Patchwise

/-- How much is told to the user, and whether to a terminal. -/
structure Console where
  verbose : Bool
  quiet : Bool
  terminal : Bool
  deriving DecidableEq, Repr

namespace Console

def report (line : String) : Session Host.interface Unit :=
  .ask (I := Host.interface) (Host.Call.report line)

def reportAll : List String → Session Host.interface Unit
  | [] => .done ()
  | line :: rest => (report line).bind fun _ => reportAll rest

/-- Shows a command before it is started, if much is told. -/
def echo (c : Console) (command : Command) : Session Host.interface Unit :=
  if c.verbose then report (Style.dimmed.paint c.terminal ("$ " ++ command.line)) else .done ()

def start (c : Console) (command : Command) :
    Session Host.interface (Except ToolError Finished) :=
  (c.echo command).bind fun _ =>
    match command.flaw? with
    | some reason => .done (.error (.notStarted command.line reason))
    | none =>
      .call (Host.Call.start command) fun (answer : Except String Finished) =>
        .done (answer.mapError (.notStarted command.line))

/-- The error of a command that says it failed. -/
def failure (command : Command) (f : Finished) : ToolError :=
  .failed command.line (Text.trimmed (Text.Utf8.decodeLossy f.stderr))

/-- What a command that must say that it did its work came to. -/
def checked (command : Command) (answer : Except ToolError Finished) :
    Except ToolError Finished :=
  match answer with
  | .error cause => .error cause
  | .ok finished => if finished.success then .ok finished else .error (failure command finished)

/-- Starts a command that must say that it did its work. -/
def startChecked (c : Console) (command : Command) :
    Session Host.interface (Except ToolError Finished) :=
  (c.start command).bind fun answer => .done (checked command answer)

/-- Starts a command that must say that it did its work, for the sake of what it does. -/
def perform (c : Console) (command : Command) : Session Host.interface (Except ToolError Unit) :=
  (c.startChecked command).bind fun answer => .done (answer.map fun _ => ())

end Console

end Patchwise

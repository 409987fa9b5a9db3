import Patchwise.File
import Patchwise.Session
import Patchwise.Timestamp

/-!
# The machine that the program runs on

Everything the program asks of the machine: files, commands, requests over the network, the clock
and the user's terminal.

## Main definitions

- `Command`, `Finished` — a command that is started, and what comes of it
- `Command.flaw?` — why a command cannot be started at all
- `Http.Request`, `Http.Response` — a request, and what comes of it
- `Host.Call`, `Host.interface` — the calls to the machine

## Design notes

What is printed and what is reported is taken without an answer: an output that cannot be written is
not modelled.
-/

namespace Patchwise

/-- A command that is started in a directory. -/
structure Command where
  program : String
  args : List String
  directory : String
  deriving DecidableEq, Repr

def Command.line (c : Command) : String :=
  " ".intercalate (c.program :: c.args)

/-- Why a command cannot be started on any machine, if it cannot: no text that is handed to a machine
may hold a zero. -/
def Command.flaw? (c : Command) : Option String :=
  if (c.program :: c.directory :: c.args).any (·.contains '\x00') then
    some "nul byte found in provided data"
  else none

/-- What comes of a command that was started. -/
structure Finished where
  success : Bool
  stdout : List UInt8
  stderr : List UInt8
  deriving DecidableEq, Repr

namespace Http

/-- A request to a server. -/
structure Request where
  method : String
  url : String
  headers : List (String × String)
  body : Option String
  deriving DecidableEq, Repr

/-- What a server answers. -/
structure Response where
  status : Nat
  body : List UInt8
  deriving DecidableEq, Repr

end Http

namespace Host

/-- The calls to the machine. -/
inductive Call
  | contentOf (path : String)
  | store (path text : String)
  | isThere (path : String)
  | environment (name : String)
  | start (command : Command)
  /-- Starts a command and waits for its end or the user's wish to stop. -/
  | startUnlessCancelled (command : Command)
  | send (request : Http.Request)
  /-- Waits some milliseconds, or until the user asks to stop. -/
  | wait (milliseconds : Nat)
  /-- Whether the user has asked to stop. -/
  | isCancelled
  | clock
  | print (text : String)
  | report (line : String)

@[reducible]
def Call.Answer : Call → Type
  | contentOf _ => File.Content
  | store _ _ => Except String Unit
  | isThere _ => Bool
  | environment _ => Option String
  | start _ => Except String Finished
  /- Nothing, if the user asked to stop. -/
  | startUnlessCancelled _ => Option (Except String Finished)
  /- Nothing, if the server could not be reached. -/
  | send _ => Option Http.Response
  /- Whether the user asked to stop. -/
  | wait _ => Bool
  | isCancelled => Bool
  | clock => Timestamp
  | print _ => Unit
  | report _ => Unit

abbrev interface : Interface := ⟨Call, Call.Answer⟩

end Host

end Patchwise

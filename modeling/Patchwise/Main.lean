import Patchwise.Program
import Std.Time.DateTime.Timestamp

/-!
# The executable

The program held with a real machine.

## Design notes

The executable is built without the means to start commands or to reach a network. Both are answered
as by a machine that has no commands and no network.
-/

namespace Patchwise.Main

/-- The code and the text of an error of the machine. -/
def errorDetails : IO.Error → Option (UInt32 × String)
  | .alreadyExists _ code text => some (code, text)
  | .otherError code text => some (code, text)
  | .resourceBusy code text => some (code, text)
  | .resourceVanished code text => some (code, text)
  | .unsupportedOperation code text => some (code, text)
  | .hardwareFault code text => some (code, text)
  | .unsatisfiedConstraints code text => some (code, text)
  | .illegalOperation code text => some (code, text)
  | .protocolError code text => some (code, text)
  | .timeExpired code text => some (code, text)
  | .interrupted _ code text => some (code, text)
  | .noFileOrDirectory _ code text => some (code, text)
  | .invalidArgument _ code text => some (code, text)
  | .permissionDenied _ code text => some (code, text)
  | .resourceExhausted _ code text => some (code, text)
  | .inappropriateType _ code text => some (code, text)
  | .noSuchThing _ code text => some (code, text)
  | .unexpectedEof => none
  | .userError _ => none

/-- An error of the machine, in its own words. -/
def errorText (code : UInt32) (text : String) : String :=
  text ++ " (os error " ++ toString code ++ ")"

def reason (e : IO.Error) : String :=
  match errorDetails e with
  | some (code, text) => errorText code text
  | none => toString e

/-- The codes of errors that say that there is nothing at a path: no entry, no directory on the way,
a name that is too long, and links that lead in a circle. -/
def absentCodes : List UInt32 := [2, 20, 36, 40]

/-- Whether an error says that there is nothing at a path. -/
def saysAbsent (e : IO.Error) : Bool :=
  match errorDetails e with
  | some (code, _) => absentCodes.contains code
  | none => false

def contentOf (path : String) : IO File.Content := do
  try
    return .bytes (← IO.FS.readBinFile path).toList
  catch e =>
    return if saysAbsent e then .absent else .unreadable (reason e)

def store (path text : String) : IO (Except String Unit) := do
  try
    IO.FS.writeFile path text
    return .ok ()
  catch e =>
    return .error (reason e)

def clock : IO Timestamp := do
  return .ofNanoseconds (← Std.Time.Timestamp.now).toNanosecondsSinceUnixEpoch.val.toNat

/-- What comes of starting a command. -/
def unavailable : Except String Finished :=
  .error (errorText 38 "Function not implemented")

def serve : (call : Host.Call) → IO call.Answer
  | .contentOf path => contentOf path
  | .store path text => store path text
  | .isThere path => return (← contentOf path) != .absent
  | .environment name => IO.getEnv name
  | .start _ => return unavailable
  | .startUnlessCancelled _ => return some unavailable
  | .send _ => return none
  | .wait milliseconds => do
    IO.sleep milliseconds.toUInt32
    return false
  | .isCancelled => return false
  | .clock => clock
  | .print text => do (← IO.getStdout).putStr text
  | .report line => do (← IO.getStderr).putStrLn line

/-- Holds a session with the machine. -/
def hold {α : Type} : Session Host.interface α → IO α
  | .done value => return value
  | .call request next => do hold (next (← serve request))

end Patchwise.Main

def main (arguments : List String) : IO UInt32 := do
  let terminal ← (← IO.getStdout).isTty
  return (← Patchwise.Main.hold (Patchwise.Program.start terminal arguments)).toUInt32

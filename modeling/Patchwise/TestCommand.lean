import Patchwise.Failure
import Patchwise.Host
import Patchwise.Verdict

/-!
# Verification by a test command

The project's own test command says whether an upgrade is safe.

## Main definitions

- `TestOutcome` — what came of the test command
- `TestOutcome.tail` — the last lines of its output
- `TestCommand.run`, `TestCommand.verify` — running the tests, and the verdict on them
-/

namespace Patchwise

/-- What came of a test command. -/
structure TestOutcome where
  success : Bool
  output : String
  deriving DecidableEq, Repr

namespace TestOutcome

/-- The last members of a list. -/
def lastOf (count : Nat) (lines : List String) : List String :=
  lines.drop (lines.length - count)

/-- The last lines of the output. -/
def tail (o : TestOutcome) (count : Nat) : String :=
  Text.unlines (lastOf count (Text.linesOf o.output))

end TestOutcome

namespace TestCommand

/-- What this way of verifying is called in notices. -/
def name : String := "local tests"

/-- How many lines of output are kept of tests that fail. -/
def tailLength : Nat := 20

/-- The outcome of a command that has ended. -/
def outcome (f : Finished) : TestOutcome :=
  ⟨f.success, Text.Utf8.decodeLossy f.stdout ++ Text.Utf8.decodeLossy f.stderr⟩

def line (words : List String) : String :=
  " ".intercalate words

/-- Runs a test command, given by its words, in a directory. -/
def run (words : List String) (directory : String) :
    Session Host.interface (Except VerifyError TestOutcome) :=
  match words with
  | [] => .done (.error (.notStarted "" "empty test command"))
  | program :: args =>
    let command : Command := ⟨program, args, directory⟩
    let notStarted (reason : String) : Except VerifyError TestOutcome :=
      .error (.notStarted (line words) reason)
    match command.flaw? with
    | some reason => .done (notStarted reason)
    | none =>
      .call (Host.Call.startUnlessCancelled command)
        fun (answer : Option (Except String Finished)) =>
          .done <|
            match answer with
            | none => .error .cancelled
            | some (.error reason) => notStarted reason
            | some (.ok finished) => .ok (outcome finished)

def verdict (words : List String) (o : TestOutcome) : Verdict :=
  if o.success then .passed
  else .failed ("'" ++ line words ++ "' failed\n" ++ o.tail tailLength)

/-- Runs a test command and judges its outcome. -/
def verify (words : List String) (directory : String) :
    Session Host.interface (Except VerifyError Verdict) :=
  (run words directory).bind fun outcome => .done (outcome.map (verdict words))

end TestCommand

end Patchwise

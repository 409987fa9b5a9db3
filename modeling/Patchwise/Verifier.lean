import Patchwise.Pipeline.CircleCi
import Patchwise.Repository
import Patchwise.TestCommand

/-!
# Verifiers

The two ways of verifying an upgrade, as sessions with the machine.

## Main definitions

- `Verifier` — a way of verifying with all that it needs
- `Verifier.verify` — the verification of the project in a directory
-/

namespace Patchwise

/-- A way of verifying with all that it needs. -/
inductive Verifier
  /-- The project's own tests, run by a command of the given words. -/
  | testCommand (words : List String)
  /-- A pipeline of the CI service. -/
  | pipeline (service : CircleCi) (polling : Pipeline.Polling)
  deriving DecidableEq, Repr

namespace Verifier

/-- What a call of a verification by a pipeline is to the machine. -/
def pipelineCall (service : CircleCi) (repository : Repository) :
    (call : Pipeline.Call) → Session Host.interface call.Answer
  | .currentBranch => repository.currentBranch
  | .push => repository.push
  | .trigger branch => service.trigger branch
  | .wait milliseconds => .ask (I := Host.interface) (Host.Call.wait milliseconds)
  | .status name => service.status name

/-- Verifies the project that a repository holds. -/
def verify (v : Verifier) (repository : Repository) :
    Session Host.interface (Except VerifyError Verdict) :=
  match v with
  | testCommand words => TestCommand.verify words repository.directory
  | pipeline service polling =>
    (Pipeline.verify CircleCi.name polling).interpret (pipelineCall service repository)

end Verifier

end Patchwise

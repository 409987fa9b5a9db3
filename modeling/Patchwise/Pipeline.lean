import Patchwise.Failure
import Patchwise.Session
import Patchwise.Verdict
import Patchwise.Word

/-!
# Verification by a pipeline

A CI service runs the project's pipeline on the current branch, and is asked again and again how far
it has come. The upgrade is not committed yet when the branch is pushed, so the pipeline runs on
what was committed last.

## Main definitions

- `Pipeline.Status` — how far a pipeline has come
- `Pipeline.Status.ofWorkflows` — the status that the statuses of its workflows add up to
- `Pipeline.Polling` — how often and at which intervals the service is asked
- `Pipeline.interface` — the calls that a verification makes
- `Pipeline.waitFor`, `Pipeline.verify` — waiting for a pipeline, and the whole verification
-/

namespace Patchwise.Pipeline

/-- How far a pipeline has come. -/
inductive Status
  | running
  | success
  | failed
  deriving DecidableEq, Repr

namespace Status

def label : Status → String
  | running => "running"
  | success => "success"
  | failed => "failed"

/-- Whether a pipeline will not come any further. -/
def isTerminal : Status → Bool
  | running => false
  | _ => true

/-- The statuses of workflows that fail their pipeline. -/
def failing : List String :=
  ["failed", "error", "failing", "canceled", "unauthorized", "not_run"]

def succeeded : String := "success"

/-- The status of a pipeline whose workflows have the given statuses. One that failed fails the
pipeline, and the pipeline succeeds when each workflow has; without any it is still running. -/
def ofWorkflows (statuses : List String) : Status :=
  if statuses.any failing.contains then failed
  else if !statuses.isEmpty && statuses.all (· == succeeded) then success
  else running

end Status

/-- How often a service is asked for a pipeline's status, and at which intervals. -/
structure Polling where
  interval : Nat
  maxPolls : Nat
  deriving DecidableEq, Repr

namespace Polling

/-- Every ten seconds for half an hour. -/
def usual : Polling := ⟨10000, 180⟩

def maxSeconds : Nat := Word.count 64 - 1

/-- The longest time that is waited at once, in milliseconds: thirty years of 365 days. -/
def longestWait : Nat := 30 * 365 * 24 * 60 * 60 * 1000

/-- How long it is waited before each time that the service is asked, in milliseconds. -/
def wait (p : Polling) : Nat :=
  min p.interval longestWait

/-- What is said of a time that is too long to be told. -/
def overflowMessage : String :=
  "overflow when multiplying duration by scalar"

/-- The longest time that is waited, in milliseconds, unless it is too long to be told. -/
def deadline (p : Polling) : Option Nat :=
  let total := p.interval * p.maxPolls
  if total / 1000 ≤ maxSeconds then some total else none

end Polling

/-- The calls that a verification makes. -/
inductive Call
  /-- The name of the branch that is checked out. -/
  | currentBranch
  | push
  /-- Starts a pipeline for a branch, and answers its name. -/
  | trigger (branch : String)
  /-- Waits some milliseconds, and answers whether the user asked to stop meanwhile. -/
  | wait (milliseconds : Nat)
  /-- How far a pipeline has come. -/
  | status (pipeline : String)
  deriving DecidableEq, Repr

@[reducible]
def Call.Answer : Call → Type
  | currentBranch => Except ToolError String
  | push => Except ToolError Unit
  | trigger _ => Except VerifyError String
  | wait _ => Bool
  | status _ => Except VerifyError Status

abbrev interface : Interface := ⟨Call, Call.Answer⟩

/-- Asks for a pipeline's status until it is known how it ended, waiting before each time. -/
def poll (wait maxPolls : Nat) (pipeline : String) :
    Nat → Session interface (Except VerifyError Status)
  | 0 => .done (.error (.timeout pipeline maxPolls))
  | polls + 1 =>
    .call (Call.wait wait) fun (cancelled : Bool) =>
      if cancelled then .done (.error .cancelled)
      else
        .call (Call.status pipeline) fun (answer : Except VerifyError Status) =>
          match answer with
          | .error cause => .done (.error cause)
          | .ok status =>
            if status.isTerminal then .done (.ok status)
            else poll wait maxPolls pipeline polls

def waitFor (polling : Polling) (pipeline : String) :
    Session interface (Except VerifyError Status) :=
  poll polling.wait polling.maxPolls pipeline polling.maxPolls

def verdict (service pipeline : String) : Status → Verdict
  | .success => .passed
  | _ => .failed (service ++ " pipeline " ++ pipeline ++ " failed")

/-- Pushes the current branch, starts a pipeline for it and waits for the pipeline to end. -/
def verify (service : String) (polling : Polling) :
    Session interface (Except VerifyError Verdict) :=
  .call Call.currentBranch fun (branch : Except ToolError String) =>
    match branch with
    | .error cause => .done (.error (.tool cause))
    | .ok branch =>
      .call Call.push fun (pushed : Except ToolError Unit) =>
        match pushed with
        | .error cause => .done (.error (.tool cause))
        | .ok () =>
          .call (Call.trigger branch) fun (pipeline : Except VerifyError String) =>
            match pipeline with
            | .error cause => .done (.error cause)
            | .ok pipeline =>
              (waitFor polling pipeline).bind fun ended =>
                .done (ended.map (verdict service pipeline))

end Patchwise.Pipeline

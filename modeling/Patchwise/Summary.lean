import Patchwise.Attempt
import Patchwise.Strategy

/-!
# Run summaries

What a run found and did, one entry for each manifest section it came to.

## Main definitions

- `SectionResult` — what was found and done for one manifest section
- `Summary` — what was found and done in a run
- `Summary.count` — how many attempts ended in a state
- `Summary.errors` — what needs someone's attention
-/

namespace Patchwise

/-- What a run found and did for one manifest section. -/
structure SectionResult where
  dependencyType : String
  /-- How many outdated packages were considered. -/
  outdated : Nat
  groups : Nat
  attempts : List Attempt
  /-- Why the section could not be processed, if it could not. -/
  error : Option String
  deriving DecidableEq, Repr

namespace SectionResult

def empty (dependencyType : String) : SectionResult :=
  { dependencyType, outdated := 0, groups := 0, attempts := [], error := none }

def failed (dependencyType error : String) : SectionResult :=
  { empty dependencyType with error := some error }

def attemptsIn (r : SectionResult) (state : Attempt.State) : List Attempt :=
  r.attempts.filter (·.state = state)

end SectionResult

/-- What a run found and did. -/
structure Summary where
  strategy : Strategy
  /-- Whether the run only planned. -/
  dryRun : Bool
  startedAt : Timestamp
  finishedAt : Option Timestamp
  sections : List SectionResult
  /-- Why the run stopped early, if it did. -/
  halted : Option String
  deriving DecidableEq, Repr

namespace Summary

def start (strategy : Strategy) (dryRun : Bool) (now : Timestamp) : Summary :=
  { strategy, dryRun, startedAt := now, finishedAt := none, sections := [], halted := none }

def add (s : Summary) (result : SectionResult) : Summary :=
  { s with sections := s.sections ++ [result] }

def finish (s : Summary) (now : Timestamp) : Summary :=
  { s with finishedAt := some now }

def attempts (s : Summary) : List Attempt :=
  s.sections.flatMap (·.attempts)

/-- How many attempts ended in a state. -/
def count (s : Summary) (state : Attempt.State) : Nat :=
  s.attempts.countP (·.state = state)

def committed (s : Summary) : Nat :=
  s.count .committed

def reverted (s : Summary) : Nat :=
  s.count .reverted

/-- What an attempt that failed has to say. -/
def attemptError (a : Attempt) : String :=
  a.package ++ " (" ++ a.state.label ++ "): " ++ a.note.getD "no details"

/-- What a section has to say: why it was not processed, and which of its attempts failed. -/
def sectionErrors (r : SectionResult) : List String :=
  (r.error.map fun error => r.dependencyType ++ ": " ++ error).toList ++
    (r.attempts.filter (·.state.isFailure)).map attemptError

/-- What needs someone's attention, in the order in which it came up. -/
def errors (s : Summary) : List String :=
  s.sections.flatMap sectionErrors

/-- Whether anything needs someone's attention. -/
def hasErrors (s : Summary) : Bool :=
  !s.errors.isEmpty || s.halted.isSome

end Summary

end Patchwise

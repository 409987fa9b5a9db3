import Patchwise.Record
import Patchwise.Timestamp

/-!
# Upgrade attempts

An attempt is one package's way through an upgrade: it is selected, applied, verified, and then
either committed or undone. The states and the moves between them are

```text
selected --> applying --> verifying --> committed
   |             |            |-------> commit failed
   |             |            |-------> reverted
   |             |            `-------> revert failed
   |             `-> apply failed
   `-> planned
```

## Main definitions

- `Attempt.State` — where an attempt stands
- `Attempt.State.canMoveTo` — the moves of the diagram
- `Attempt` — an attempt, with what is needed to undo it
- `Attempt.moveTo`, `Attempt.finish`, `Attempt.fail` — moves that the caller shows to be in the
  diagram
- `Attempt.advance`, `Attempt.failAs` — a move that is checked, and refused if it is none

## Design notes

A move takes the proof that it is one of the diagram, so an illegal move cannot be written down; a
caller that does not know where an attempt stands has the checked forms.
-/

namespace Patchwise

namespace Attempt

/-- Where an attempt stands. -/
inductive State
  | selected
  | applying
  | verifying
  /-- Verified, written, committed and pushed. -/
  | committed
  /-- Verified, but writing, committing or pushing failed. -/
  | commitFailed
  /-- Not verified, and the former version is back. -/
  | reverted
  /-- Not verified, and the former version could not be put back. -/
  | revertFailed
  /-- The package manager refused the upgrade. -/
  | applyFailed
  /-- Selected in a dry run, which applies nothing. -/
  | planned
  deriving DecidableEq, Repr, Inhabited

namespace State

def all : List State :=
  [selected, applying, verifying, committed, commitFailed, reverted, revertFailed, applyFailed,
   planned]

def isTerminal : State → Bool
  | selected | applying | verifying => false
  | _ => true

/-- Whether one state may follow another. -/
def canMoveTo : State → State → Bool
  | selected, applying | selected, planned => true
  | applying, verifying | applying, applyFailed => true
  | verifying, committed | verifying, commitFailed => true
  | verifying, reverted | verifying, revertFailed => true
  | _, _ => false

/-- The words that name a state to a reader. -/
def label : State → String
  | selected => "selected"
  | applying => "applying"
  | verifying => "verifying"
  | committed => "committed"
  | commitFailed => "commit failed"
  | reverted => "reverted"
  | revertFailed => "revert failed"
  | applyFailed => "apply failed"
  | planned => "planned"

/-- The word that stands for a state in a document. -/
def key : State → String
  | commitFailed => "commit_failed"
  | reverted => "reverted_cleanly"
  | revertFailed => "revert_failed"
  | applyFailed => "apply_failed"
  | state => state.label

def ofKey? (word : String) : Option State :=
  all.find? (·.key == word)

theorem ofKey?_key (s : State) : ofKey? s.key = some s := by
  cases s <;> rfl

/-- Whether an attempt that ended in a state needs someone's attention. -/
def isFailure : State → Bool
  | applyFailed | commitFailed | revertFailed => true
  | _ => false

end State

/-- A move that the diagram does not have. -/
structure IllegalMove where
  source : State
  target : State
  deriving DecidableEq, Repr

def IllegalMove.message (e : IllegalMove) : String :=
  "illegal transition " ++ e.source.label ++ " -> " ++ e.target.label

end Attempt

/-- One package's way through an upgrade. -/
structure Attempt where
  record : Record
  dependencyType : String
  /-- The version to go back to. -/
  previous : String
  /-- What the manifest declares before the attempt, such as `^4.17.0`. -/
  declared : Option String
  /-- The version that is applied. -/
  target : String
  state : Attempt.State
  /-- Why the attempt ended as it did, if it failed. -/
  note : Option String
  finishedAt : Option Timestamp
  deriving DecidableEq, Repr

namespace Attempt

/-- The attempt to move a package to a version, before anything is done. -/
def start (record : Record) (dependencyType target : String) : Attempt :=
  { record, dependencyType, previous := record.current, declared := none, target,
    state := .selected, note := none, finishedAt := none }

/-- Remembers what the manifest declares, to be put back if the attempt is undone. -/
def declaredAs (a : Attempt) (spec : String) : Attempt :=
  { a with declared := some spec }

def package (a : Attempt) : String :=
  a.record.name

/-- Takes an attempt to a state that may follow its own. -/
def moveTo (a : Attempt) (next : State) (_ : a.state.canMoveTo next) : Attempt :=
  { a with state := next }

def finish (a : Attempt) (next : State) (now : Timestamp) (h : a.state.canMoveTo next) : Attempt :=
  { a.moveTo next h with finishedAt := some now }

/-- Ends an attempt in a state that may follow its own and says why. -/
def fail (a : Attempt) (next : State) (note : String) (now : Timestamp)
    (h : a.state.canMoveTo next) : Attempt :=
  { a.finish next now h with note := some note }

/-- Takes an attempt to a state, unless that state may not follow its own. If the attempt ends there
the time is kept. -/
def advance (a : Attempt) (next : State) (now : Timestamp) : Except IllegalMove Attempt :=
  if h : a.state.canMoveTo next then
    .ok (if next.isTerminal then a.finish next now h else a.moveTo next h)
  else
    .error ⟨a.state, next⟩

/-- Takes an attempt to a state and says why, unless that state may not follow its own. -/
def failAs (a : Attempt) (next : State) (note : String) (now : Timestamp) :
    Except IllegalMove Attempt :=
  (a.advance next now).map fun moved => { moved with note := some note }

def severity (a : Attempt) : Severity :=
  if a.target = a.record.wanted then a.record.wantedDelta else a.record.latestDelta

def isCommitted (a : Attempt) : Bool :=
  a.state = .committed

def commitMessage (a : Attempt) : String :=
  "Update " ++ a.record.name ++ " to " ++ a.target

def display (a : Attempt) : String :=
  a.record.name ++ ": " ++ a.previous ++ " → " ++ a.target ++ " (" ++ a.state.label ++ ")"

@[simp]
theorem start_state (record : Record) (dependencyType target : String) :
    (start record dependencyType target).state = .selected :=
  rfl

@[simp]
theorem declaredAs_state (a : Attempt) (spec : String) : (a.declaredAs spec).state = a.state :=
  rfl

@[simp]
theorem moveTo_state (a : Attempt) (next : State) (h : a.state.canMoveTo next) :
    (a.moveTo next h).state = next :=
  rfl

@[simp]
theorem finish_state (a : Attempt) (next : State) (now : Timestamp)
    (h : a.state.canMoveTo next) : (a.finish next now h).state = next :=
  rfl

@[simp]
theorem fail_state (a : Attempt) (next : State) (note : String) (now : Timestamp)
    (h : a.state.canMoveTo next) : (a.fail next note now h).state = next :=
  rfl

end Attempt

end Patchwise

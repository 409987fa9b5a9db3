import Patchwise.Json.Printer
import Patchwise.Json.Reader
import Patchwise.Summary.Listing

/-!
# Summaries as documents

A run summary as a JSON document, which other programs read: the summary itself, its totals and its
errors. Reading such a document gives the summary back.

## Main definitions

- `Summary.toJson`, `Summary.ofJson?` — a summary as a JSON value, and back
- `Summary.Totals` — how many attempts ended in which way
- `Summary.cutNotes` — a summary with the first lines of its notes only
- `Summary.document` — the document of a summary
-/

namespace Patchwise

open Json (lookup?)

/-- The members of an object, some of which may be left out. -/
def Json.ofFields (fields : List (String × Option Json)) : Json :=
  .object (fields.filterMap fun (name, value) => value.map (name, ·))

def Json.ofNat (n : Nat) : Json :=
  .number (.integer n)

def Json.toNat? : Json → Option Nat
  | .number (.integer (.ofNat n)) => some n
  | _ => none

def Json.toBool? : Json → Option Bool
  | .bool b => some b
  | _ => none

def Json.items? : Json → Option (List Json)
  | .array items => some items
  | _ => none

/-- A member that may be missing or null. -/
def Json.optional? {α : Type} (value : Json) (name : String) (read : Json → Option α) :
    Option (Option α) :=
  match value.member? name with
  | none => some none
  | some .null => some none
  | some found => (read found).map some

namespace Record

def toJson (r : Record) : Json :=
  .ofFields
    [("name", some (.text r.name)), ("current_version", some (.text r.current)),
     ("wanted_version", some (.text r.wanted)), ("latest_version", some (.text r.latest)),
     ("wanted_delta", some (.text r.wantedDelta.label)),
     ("latest_delta", some (.text r.latestDelta.label)),
     ("package_type", r.packageType.map .text)]

def ofJson? (value : Json) : Option Record := do
  return {
    name := ← (← value.member? "name").text?
    current := ← (← value.member? "current_version").text?
    wanted := ← (← value.member? "wanted_version").text?
    latest := ← (← value.member? "latest_version").text?
    wantedDelta := ← Severity.ofLabel? (← (← value.member? "wanted_delta").text?)
    latestDelta := ← Severity.ofLabel? (← (← value.member? "latest_delta").text?)
    packageType := ← value.optional? "package_type" Json.text? }

end Record

def Timestamp.toJson (t : Timestamp) : Json :=
  .text t.toText

def Timestamp.ofJson? (value : Json) : Option Timestamp := do
  Timestamp.ofText? (← value.text?)

namespace Attempt

def toJson (a : Attempt) : Json :=
  .ofFields
    [("record", some a.record.toJson), ("dependency_type", some (.text a.dependencyType)),
     ("previous_version", some (.text a.previous)),
     ("previous_manifest_entry", a.declared.map .text),
     ("target_version", some (.text a.target)), ("state", some (.text a.state.key)),
     ("note", a.note.map .text), ("finished_at", a.finishedAt.map Timestamp.toJson)]

def ofJson? (value : Json) : Option Attempt := do
  return {
    record := ← Record.ofJson? (← value.member? "record")
    dependencyType := ← (← value.member? "dependency_type").text?
    previous := ← (← value.member? "previous_version").text?
    declared := ← value.optional? "previous_manifest_entry" Json.text?
    target := ← (← value.member? "target_version").text?
    state := ← State.ofKey? (← (← value.member? "state").text?)
    note := ← value.optional? "note" Json.text?
    finishedAt := ← value.optional? "finished_at" Timestamp.ofJson? }

end Attempt

namespace SectionResult

def toJson (r : SectionResult) : Json :=
  .ofFields
    [("dependency_type", some (.text r.dependencyType)), ("outdated", some (.ofNat r.outdated)),
     ("groups", some (.ofNat r.groups)),
     ("attempts", some (.array (r.attempts.map Attempt.toJson))),
     ("error", r.error.map .text)]

def ofJson? (value : Json) : Option SectionResult := do
  return {
    dependencyType := ← (← value.member? "dependency_type").text?
    outdated := ← (← value.member? "outdated").toNat?
    groups := ← (← value.member? "groups").toNat?
    attempts := ← (← (← value.member? "attempts").items?).mapM Attempt.ofJson?
    error := ← value.optional? "error" Json.text? }

def document (r : SectionResult) : String :=
  r.toJson.pretty ++ "\n"

end SectionResult

namespace Summary

def fields (s : Summary) : List (String × Option Json) :=
  [("strategy", some (.text s.strategy.label)), ("dry_run", some (.bool s.dryRun)),
   ("started_at", some s.startedAt.toJson), ("finished_at", s.finishedAt.map Timestamp.toJson),
   ("dependency_types", some (.array (s.sections.map SectionResult.toJson))),
   ("halted", s.halted.map .text)]

def toJson (s : Summary) : Json :=
  .ofFields s.fields

/-- The summary that a JSON value is. Members that a summary does not have are read over. -/
def ofJson? (value : Json) : Option Summary := do
  return {
    strategy := ← Strategy.ofLabel? (← (← value.member? "strategy").text?)
    dryRun := ← (← value.member? "dry_run").toBool?
    startedAt := ← Timestamp.ofJson? (← value.member? "started_at")
    finishedAt := ← value.optional? "finished_at" Timestamp.ofJson?
    sections := ← (← (← value.member? "dependency_types").items?).mapM SectionResult.ofJson?
    halted := ← value.optional? "halted" Json.text? }

structure Totals where
  committed : Nat
  reverted : Nat
  planned : Nat
  failed : Nat
  deriving DecidableEq, Repr

def totals (s : Summary) : Totals where
  committed := s.committed
  reverted := s.reverted
  planned := s.count .planned
  failed := s.count .applyFailed + s.count .commitFailed + s.count .revertFailed

def Totals.toJson (t : Totals) : Json :=
  .ofFields
    [("committed", some (.ofNat t.committed)), ("reverted", some (.ofNat t.reverted)),
     ("planned", some (.ofNat t.planned)), ("failed", some (.ofNat t.failed))]

/-- A summary in which each note ends in front of its first line feed. -/
def cutNotes (s : Summary) : Summary :=
  let cut (a : Attempt) : Attempt := { a with note := a.note.map Text.firstLine }
  { s with sections := s.sections.map fun r => { r with attempts := r.attempts.map cut } }

/-- The part of a summary that a document tells. Notes may carry pages of test output, which only a
verbose document keeps. -/
def shown (verbosity : Verbosity) (s : Summary) : Summary :=
  if verbosity = .verbose then s else s.cutNotes

/-- A summary with its totals and its errors, if it has any, as a JSON value. -/
def report (verbosity : Verbosity) (s : Summary) : Json :=
  let told := s.shown verbosity
  let errors := told.errors
  .ofFields (told.fields ++
    [("totals", some s.totals.toJson),
     ("errors", if errors.isEmpty then none else some (.array (errors.map .text)))])

def document (verbosity : Verbosity) (s : Summary) : String :=
  (s.report verbosity).pretty ++ "\n"

end Summary

end Patchwise

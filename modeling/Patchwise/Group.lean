import Patchwise.Record

/-!
# Groups of related packages

Packages whose names begin alike and whose steps are of one size form a group. A run acts on one
member of a group, its first, and leaves the others to later runs.

## Main definitions

- `Record.stem` — what the names of related packages have in common
- `Group` — the records of one severity and stem
- `Group.partition` — the groups of a list of records
- `Group.inOnePass` — the same groups, collected while going through the sorted list once
- `Group.candidates` — the first member of each group of patch steps

## Design notes

Groups are ordered by severity, and those of one severity by their first member's place in the
list. `Group.partition` says so directly: it goes through the severities in order, and for each of
them through the stems in the order in which they first appear. `Group.inOnePass` comes to the same
because the sort is stable: records of one severity stay in the order of the list.
-/

namespace Patchwise

/-- What the name of a package has in front of its first hyphen, or the whole name if it has none. A
scope is part of it. -/
def Record.stemOf (name : String) : String :=
  .ofList (name.toList.takeWhile (· != '-'))

/-- What a package's name has in common with those of related packages. -/
def Record.stem (r : Record) : String :=
  stemOf r.name

/-- The records that share a severity and a stem. -/
structure Group where
  severity : Severity
  stem : String
  /-- The records, in the order of the list they come from. -/
  members : List Record
  deriving DecidableEq, Repr

namespace Group

/-- The members of a list without repetitions, each where it first appears. -/
def distinct : List String → List String
  | [] => []
  | a :: rest => a :: (distinct rest).filter (· ≠ a)

/-- The groups of records that all have one severity. -/
def ofSeverity (severity : Severity) (records : List Record) : List Group :=
  (distinct (records.map Record.stem)).map fun stem =>
    ⟨severity, stem, records.filter (·.stem = stem)⟩

/-- The groups of a list of records, where `reach` says which of a record's steps is sized. -/
def partition (records : List Record) (reach : Reach) : List Group :=
  Severity.all.flatMap fun severity =>
    ofSeverity severity (records.filter (·.delta reach = severity))

/-- Puts a record behind the members of its group, or into a new group behind all others if there is
none of its severity and stem yet. -/
def place (reach : Reach) (r : Record) : List Group → List Group
  | [] => [⟨r.delta reach, r.stem, [r]⟩]
  | g :: groups =>
    if g.severity = r.delta reach ∧ g.stem = r.stem then
      { g with members := g.members ++ [r] } :: groups
    else g :: place reach r groups

/-- Records by severity. Those of one severity stay in the order of the list. -/
def sorted (records : List Record) (reach : Reach) : List Record :=
  records.mergeSort fun a b => decide (a.delta reach ≤ b.delta reach)

/-- The groups of a list of records, in which the sorted records are placed one after the other. -/
def inOnePass (records : List Record) (reach : Reach) : List Group :=
  (sorted records reach).foldl (fun groups r => place reach r groups) []

/-- The member that a run acts on. -/
def representative (g : Group) : Option Record :=
  g.members.head?

/-- The records that a run acts on: one for each group of patch steps. -/
def candidates (groups : List Group) : List Record :=
  (groups.filter (·.severity = .patch)).filterMap representative

end Group

end Patchwise

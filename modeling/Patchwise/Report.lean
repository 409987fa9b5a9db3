import Patchwise.Record

/-!
# Outdated reports

A package manager reports outdated packages as a table: column names, and rows of cells that stand
under them. Reading a report as records needs four of its columns and knows a fifth.

## Main definitions

- `Report` — a table of outdated packages
- `Report.keepRows` — the report without the rows whose cell in one column is not wanted
- `Report.records` — the packages that a report tells of
- `ReportError` — why a report tells of none
-/

namespace Patchwise

/-- A table of outdated packages. -/
structure Report where
  head : List String
  rows : List (List String)
  deriving DecidableEq, Repr

/-- Why a report cannot be read. -/
inductive ReportError
  /-- A column that every report must have is not there. -/
  | missingColumn (column : String)
  /-- A row does not have a cell for each column. -/
  | rowLength (row expected actual : Nat)
  /-- A step of a package cannot be sized. -/
  | malformedVersion (package : String) (cause : MalformedVersion)
  /-- What a tool printed holds no report. -/
  | unreadable (tool detail : String)
  deriving DecidableEq, Repr

def ReportError.message : ReportError → String
  | .missingColumn column => "outdated report is missing required column '" ++ column ++ "'"
  | .rowLength row expected actual =>
    "outdated report row " ++ toString row ++ " has " ++ toString actual ++ " cells, expected " ++
      toString expected
  | .malformedVersion package cause =>
    "outdated report row for '" ++ package ++ "': " ++ cause.message
  | .unreadable tool detail => "no outdated report found in " ++ tool ++ " output: " ++ detail

namespace Report

def packageColumn : String := "Package"

def currentColumn : String := "Current"

def wantedColumn : String := "Wanted"

def latestColumn : String := "Latest"

/-- The column of manifest sections, which a report need not have. -/
def typeColumn : String := "Package Type"

/-- The report of a package manager that finds nothing outdated. -/
def empty : Report := ⟨[], []⟩

def isEmpty (r : Report) : Bool :=
  r.rows.isEmpty

def column? (r : Report) (name : String) : Option Nat :=
  r.head.idxOf? name

/-- The report with only those rows whose cell in a column is wanted. A row too short to have the
cell stays, so that it is still complained of, and so do all rows if there is no such column. -/
def keepRows (r : Report) (name : String) (wanted : String → Bool) : Report :=
  match r.column? name with
  | none => r
  | some i => { r with rows := r.rows.filter fun row => (row[i]?.map wanted).getD true }

/-- Where the columns that matter stand in a report. -/
structure Columns where
  package : Nat
  current : Nat
  wanted : Nat
  latest : Nat
  packageType : Option Nat
  deriving DecidableEq, Repr

def requireColumn (r : Report) (name : String) : Except ReportError Nat :=
  match r.column? name with
  | some i => .ok i
  | none => .error (.missingColumn name)

/-- The places of the columns that matter. Of several missing ones the first is complained of, in
the order package, current, wanted, latest. -/
def columns (r : Report) : Except ReportError Columns := do
  let package ← r.requireColumn packageColumn
  let current ← r.requireColumn currentColumn
  let wanted ← r.requireColumn wantedColumn
  let latest ← r.requireColumn latestColumn
  return ⟨package, current, wanted, latest, r.column? typeColumn⟩

/-- The size of a step of a package, or the complaint that names the package. -/
def step (package current target : String) : Except ReportError Severity :=
  (Severity.between current target).mapError (.malformedVersion package)

/-- The record in a row that has a cell for each of `width` columns. -/
def Columns.record (c : Columns) (width index : Nat) (row : List String) :
    Except ReportError Record := do
  let cell (i : Nat) : String := row[i]?.getD ""
  if row.length ≠ width then
    throw (.rowLength index width row.length)
  let name := cell c.package
  let current := cell c.current
  let wanted := cell c.wanted
  let latest := cell c.latest
  let wantedDelta ← step name current wanted
  let latestDelta ← step name current latest
  return { name, current, wanted, latest, wantedDelta, latestDelta,
           packageType := c.packageType.map cell }

/-- The records in a list of rows, of which the first has the given index. -/
def Columns.records (c : Columns) (width : Nat) :
    Nat → List (List String) → Except ReportError (List Record)
  | _, [] => .ok []
  | index, row :: rows => do
    let record ← c.record width index row
    return record :: (← c.records width (index + 1) rows)

/-- The packages that a report tells of, one for each row. A report with neither columns nor rows
tells of none. -/
def records (r : Report) : Except ReportError (List Record) :=
  if r.head.isEmpty && r.rows.isEmpty then
    .ok []
  else do
    (← r.columns).records r.head.length 0 r.rows

end Report

end Patchwise

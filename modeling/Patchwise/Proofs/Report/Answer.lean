import Mathlib.Data.List.Forall2
import Patchwise.Proofs.Report
import Patchwise.Proofs.Version

/-!
# What a report is read as

A report is read as one record for each of its rows, or as the first complaint about it. Here it is
said without places which cells of a row count, and of several faults which one is complained of.
The reader goes by places, so that it is said, too, that it never looks for a cell that a row does
not have.

## Main definitions

- `Report.cell?` — the cell of a row under a column
- `Report.Cells` — what a row holds under the columns that matter
- `Report.IsRecord`, `Report.IsFault` — what a row is read as, and what is wrong with it
- `Report.Answers` — what a report is read as
- `Report.strictRecords` — a reading that gives up where a cell is missing

## Main results

- `Report.records_eq_iff` — what a report is read as, whatever its columns and rows
- `Report.reports_are_read_by_columns` — that, and that no cell is missing where one is looked for
-/

namespace Patchwise.Report

/-! ## Rows -/

/-- The cell of a row under the first column of a name. -/
def cell? (head row : List String) (name : String) : Option String :=
  (head.zip row).lookup name

/-- What a row holds under the columns that matter. -/
structure Cells where
  name : String
  current : String
  wanted : String
  latest : String
  packageType : Option String

/-- Some cells are those of a row that has one for each column. -/
structure Cells.StandIn (cells : Cells) (head row : List String) : Prop where
  length_eq : row.length = head.length
  name_eq : cell? head row packageColumn = some cells.name
  current_eq : cell? head row currentColumn = some cells.current
  wanted_eq : cell? head row wantedColumn = some cells.wanted
  latest_eq : cell? head row latestColumn = some cells.latest
  /-- The column of manifest sections may be missing. -/
  packageType_eq : cell? head row typeColumn = cells.packageType

/-- What a record takes from a row. -/
def cellsOf (r : Record) : Cells :=
  ⟨r.name, r.current, r.wanted, r.latest, r.packageType⟩

/-- A row is read as a record. -/
structure IsRecord (head row : List String) (r : Record) : Prop where
  standIn : (cellsOf r).StandIn head row
  isSized : r.IsSized

/-- What is wrong with a row. Its length is looked at first, then the wanted version, then the
latest one. -/
inductive IsFault (head : List String) (index : Nat) (row : List String) : ReportError → Prop
  | rowLength (h : row.length ≠ head.length) :
      IsFault head index row (.rowLength index head.length row.length)
  | wanted {cells : Cells} {version : String} (hcells : cells.StandIn head row)
      (h : Version.Offends cells.current cells.wanted version) :
      IsFault head index row (.malformedVersion cells.name ⟨version⟩)
  | latest {cells : Cells} {delta : Severity} {version : String} (hcells : cells.StandIn head row)
      (hdelta : Severity.between cells.current cells.wanted = .ok delta)
      (h : Version.Offends cells.current cells.latest version) :
      IsFault head index row (.malformedVersion cells.name ⟨version⟩)

/-! ## Reports -/

/-- The columns that every report must have. -/
def requiredColumns : List String :=
  [packageColumn, currentColumn, wantedColumn, latestColumn]

/-- The first of some names that is missing in a head. -/
def FirstMissing (head names : List String) (column : String) : Prop :=
  ∃ front back, names = front ++ column :: back ∧ (∀ name ∈ front, name ∈ head) ∧ column ∉ head

/-- What a report is read as. -/
inductive Answers (report : Report) : Except ReportError (List Record) → Prop
  /-- A report with neither columns nor rows has no records. -/
  | nothing (hhead : report.head = []) (hrows : report.rows = []) : Answers report (.ok [])
  /-- The first of the required columns that is missing is complained of. -/
  | missingColumn {column : String} (hsome : ¬(report.head = [] ∧ report.rows = []))
      (hmissing : FirstMissing report.head requiredColumns column) :
      Answers report (.error (.missingColumn column))
  /-- Otherwise the first row with a fault is complained of. -/
  | fault {front back : List (List String)} {row : List String} {complaint : ReportError}
      (hrequired : ∀ name ∈ requiredColumns, name ∈ report.head)
      (hrows : report.rows = front ++ row :: back)
      (hfront : ∀ row ∈ front, ∃ r, IsRecord report.head row r)
      (h : IsFault report.head front.length row complaint) : Answers report (.error complaint)
  /-- Otherwise there is a record for each row. -/
  | records {records : List Record} (hrequired : ∀ name ∈ requiredColumns, name ∈ report.head)
      (h : List.Forall₂ (IsRecord report.head) report.rows records) : Answers report (.ok records)

/-! ## Cells and places -/

theorem cell?_eq_bind (head row : List String) (name : String) :
    cell? head row name = (head.idxOf? name).bind (row[·]?) := by
  induction head generalizing row with
  | nil => rfl
  | cons column head ih =>
    rw [List.idxOf?_cons]
    cases row with
    | nil => simp [cell?]
    | cons cell row =>
      rw [cell?, List.zip_cons_cons, List.lookup_cons]
      by_cases heq : column = name
      · subst heq
        simp
      · have hrest := ih row
        rw [cell?] at hrest
        have hne : (name == column) = false := beq_false_of_ne (Ne.symm heq)
        have hne' : (column == name) = false := beq_false_of_ne heq
        simp only [hne, hne', hrest]
        cases head.idxOf? name <;> rfl

/-- The places of the columns that matter in a head. -/
structure Columns.AreOf (c : Columns) (head : List String) : Prop where
  package_eq : head.idxOf? packageColumn = some c.package
  current_eq : head.idxOf? currentColumn = some c.current
  wanted_eq : head.idxOf? wantedColumn = some c.wanted
  latest_eq : head.idxOf? latestColumn = some c.latest
  packageType_eq : head.idxOf? typeColumn = c.packageType

theorem requireColumn_eq_ok_iff {report : Report} {name : String} {i : Nat} :
    report.requireColumn name = .ok i ↔ report.head.idxOf? name = some i := by
  rw [requireColumn, column?]
  cases report.head.idxOf? name <;> simp

theorem columns_eq_ok_iff {report : Report} {c : Columns} :
    report.columns = .ok c ↔ c.AreOf report.head := by
  simp only [columns, Except.bind_eq_ok_iff, requireColumn_eq_ok_iff]
  constructor
  · rintro ⟨package, hpackage, current, hcurrent, wanted, hwanted, latest, hlatest, heq⟩
    cases heq
    exact ⟨hpackage, hcurrent, hwanted, hlatest, rfl⟩
  · intro h
    refine ⟨_, h.package_eq, _, h.current_eq, _, h.wanted_eq, _, h.latest_eq, ?_⟩
    rw [column?, h.packageType_eq]
    rfl

theorem requireColumn_eq_error_iff {report : Report} {name : String} {complaint : ReportError} :
    report.requireColumn name = .error complaint ↔
      name ∉ report.head ∧ complaint = .missingColumn name := by
  rw [requireColumn, column?, ← List.idxOf?_eq_none_iff]
  cases report.head.idxOf? name <;> simp [eq_comm]

theorem firstMissing_cons {head names : List String} {name column : String} :
    FirstMissing head (name :: names) column ↔
      name ∉ head ∧ column = name ∨ name ∈ head ∧ FirstMissing head names column := by
  constructor
  · rintro ⟨front, back, hnames, hfront, hcolumn⟩
    cases front with
    | nil =>
      cases hnames
      exact .inl ⟨hcolumn, rfl⟩
    | cons first front =>
      cases hnames
      obtain ⟨hname, hfront⟩ := List.forall_mem_cons.1 hfront
      exact .inr ⟨hname, front, back, rfl, hfront, hcolumn⟩
  · rintro (⟨hname, rfl⟩ | ⟨hname, front, back, rfl, hfront, hcolumn⟩)
    · exact ⟨[], names, rfl, by simp, hname⟩
    · exact ⟨name :: front, back, rfl, List.forall_mem_cons.2 ⟨hname, hfront⟩, hcolumn⟩

/-- Whether a column is missing that is looked for before some others. -/
theorem requireColumn_bind_eq_error_iff {α : Type} {report : Report} {name : String}
    {names : List String} {rest : Nat → Except ReportError α} {complaint : ReportError}
    (h : ∀ i, rest i = .error complaint ↔
      ∃ column, FirstMissing report.head names column ∧ complaint = .missingColumn column) :
    report.requireColumn name >>= rest = .error complaint ↔
      ∃ column, FirstMissing report.head (name :: names) column ∧
        complaint = .missingColumn column := by
  simp only [Except.bind_eq_error_iff, requireColumn_eq_ok_iff, requireColumn_eq_error_iff, h,
    firstMissing_cons, exists_and_right, ← Option.isSome_iff_exists, List.isSome_idxOf?]
  constructor
  · rintro (⟨hname, rfl⟩ | ⟨hname, column, hmissing, rfl⟩)
    · exact ⟨name, .inl ⟨hname, rfl⟩, rfl⟩
    · exact ⟨column, .inr ⟨hname, hmissing⟩, rfl⟩
  · rintro ⟨column, ⟨hname, rfl⟩ | ⟨hname, hmissing⟩, rfl⟩
    · exact .inl ⟨hname, rfl⟩
    · exact .inr ⟨hname, column, hmissing, rfl⟩

/-- The first required column that is missing is complained of. -/
theorem columns_eq_error_iff {report : Report} {complaint : ReportError} :
    report.columns = .error complaint ↔
      ∃ column, FirstMissing report.head requiredColumns column ∧
        complaint = .missingColumn column := by
  unfold columns requiredColumns
  refine requireColumn_bind_eq_error_iff fun package => ?_
  refine requireColumn_bind_eq_error_iff fun current => ?_
  refine requireColumn_bind_eq_error_iff fun wanted => ?_
  refine requireColumn_bind_eq_error_iff fun latest => ?_
  refine iff_of_false nofun ?_
  rintro ⟨column, ⟨front, back, hnames, -⟩, -⟩
  simp at hnames

section Row

variable {c : Columns} {head row : List String}

/-- At the place of a column is the cell under it. -/
theorem exists_cell {name : String} {i : Nat} (h : head.idxOf? name = some i)
    (hlength : row.length = head.length) :
    ∃ cell, row[i]? = some cell ∧ cell? head row name = some cell := by
  obtain ⟨hi, -⟩ := List.idxOf?_eq_some_iff.1 h
  have hcell : row[i]? = some row[i] := List.getElem?_eq_getElem (hlength ▸ hi)
  refine ⟨row[i], hcell, ?_⟩
  rw [cell?_eq_bind, h, Option.bind_some, hcell]

/-- The cells of a row that has one for each column. -/
theorem Columns.AreOf.exists_cells (hc : c.AreOf head) (hlength : row.length = head.length) :
    ∃ cells : Cells, cells.StandIn head row ∧ row[c.package]? = some cells.name ∧
      row[c.current]? = some cells.current ∧ row[c.wanted]? = some cells.wanted ∧
      row[c.latest]? = some cells.latest ∧
      c.packageType.mapM (row[·]?) = some cells.packageType := by
  obtain ⟨name, hname, hname'⟩ := exists_cell hc.package_eq hlength
  obtain ⟨current, hcurrent, hcurrent'⟩ := exists_cell hc.current_eq hlength
  obtain ⟨wanted, hwanted, hwanted'⟩ := exists_cell hc.wanted_eq hlength
  obtain ⟨latest, hlatest, hlatest'⟩ := exists_cell hc.latest_eq hlength
  obtain ⟨packageType, htype, htype'⟩ : ∃ packageType,
      c.packageType.mapM (row[·]?) = some packageType ∧
        cell? head row typeColumn = packageType := by
    cases hplace : c.packageType with
    | none =>
      refine ⟨none, rfl, ?_⟩
      rw [cell?_eq_bind, hc.packageType_eq, hplace]
      rfl
    | some i =>
      obtain ⟨cell, hcell, hcell'⟩ := exists_cell (hc.packageType_eq.trans hplace) hlength
      refine ⟨some cell, ?_, hcell'⟩
      simp [hcell]
  exact ⟨⟨name, current, wanted, latest, packageType⟩,
    ⟨hlength, hname', hcurrent', hwanted', hlatest', htype'⟩,
    hname, hcurrent, hwanted, hlatest, htype⟩

theorem Cells.StandIn.unique {cells cells' : Cells} (h : cells.StandIn head row)
    (h' : cells'.StandIn head row) : cells = cells' := by
  obtain ⟨name, current, wanted, latest, packageType⟩ := cells
  obtain ⟨-, hname, hcurrent, hwanted, hlatest, htype⟩ := h
  obtain ⟨-, hname', hcurrent', hwanted', hlatest', htype'⟩ := h'
  rw [hname, Option.some.injEq] at hname'
  rw [hcurrent, Option.some.injEq] at hcurrent'
  rw [hwanted, Option.some.injEq] at hwanted'
  rw [hlatest, Option.some.injEq] at hlatest'
  rw [htype] at htype'
  subst hname' hcurrent' hwanted' hlatest' htype'
  rfl

/-- The record that some cells make up. -/
def Cells.record (cells : Cells) : Except ReportError Record := do
  let wantedDelta ← step cells.name cells.current cells.wanted
  let latestDelta ← step cells.name cells.current cells.latest
  return ⟨cells.name, cells.current, cells.wanted, cells.latest, wantedDelta, latestDelta,
    cells.packageType⟩

theorem step_eq_error_iff {package current target : String} {complaint : ReportError} :
    step package current target = .error complaint ↔
      ∃ version, Version.Offends current target version ∧
        complaint = .malformedVersion package ⟨version⟩ := by
  unfold step
  constructor
  · intro h
    cases hbetween : Severity.between current target with
    | ok severity =>
      rw [hbetween] at h
      cases h
    | error e =>
      rw [hbetween] at h
      cases h
      exact ⟨e.version, Severity.between_eq_error_iff.1 hbetween, rfl⟩
  · rintro ⟨version, hoffends, rfl⟩
    rw [Severity.between_of_offends hoffends]
    rfl

theorem Cells.record_eq_ok_iff {cells : Cells} {r : Record} :
    cells.record = .ok r ↔ cellsOf r = cells ∧ r.IsSized := by
  simp only [Cells.record, Except.bind_eq_ok_iff, step_eq_ok_iff]
  constructor
  · rintro ⟨wantedDelta, hwanted, latestDelta, hlatest, heq⟩
    cases heq
    refine ⟨rfl, fun reach => ?_⟩
    cases reach with
    | wanted => exact hwanted
    | latest => exact hlatest
  · rintro ⟨rfl, hsized⟩
    exact ⟨r.wantedDelta, hsized .wanted, r.latestDelta, hsized .latest, rfl⟩

theorem Cells.record_eq_error_iff {cells : Cells} {complaint : ReportError} :
    cells.record = .error complaint ↔
      (∃ version, Version.Offends cells.current cells.wanted version ∧
        complaint = .malformedVersion cells.name ⟨version⟩) ∨
      ∃ delta, Severity.between cells.current cells.wanted = .ok delta ∧
        ∃ version, Version.Offends cells.current cells.latest version ∧
          complaint = .malformedVersion cells.name ⟨version⟩ := by
  have hpure : ∀ r : Record, (pure r : Except ReportError Record) ≠ .error complaint := nofun
  simp only [Cells.record, Except.bind_eq_error_iff, step_eq_ok_iff, step_eq_error_iff, hpure,
    and_false, exists_false, or_false]

/-- The record in a row, read strictly: a row is given up if a cell that is looked for is not
there. -/
def Columns.strictRecord (c : Columns) (width index : Nat) (row : List String) :
    Option (Except ReportError Record) :=
  if row.length ≠ width then
    some (.error (.rowLength index width row.length))
  else do
    let name ← row[c.package]?
    let current ← row[c.current]?
    let wanted ← row[c.wanted]?
    let latest ← row[c.latest]?
    let packageType ← c.packageType.mapM (row[·]?)
    return Cells.record ⟨name, current, wanted, latest, packageType⟩

variable (hc : c.AreOf head) (index : Nat)

include hc

theorem Columns.AreOf.record_eq {cells : Cells} (hcells : cells.StandIn head row) :
    c.record head.length index row = cells.record := by
  obtain ⟨cells', hcells', hname, hcurrent, hwanted, hlatest, htype⟩ :=
    hc.exists_cells hcells.length_eq
  rw [hcells.unique hcells']
  have hkind : c.packageType.map (fun i => row[i]?.getD "") = cells'.packageType := by
    cases hplace : c.packageType with
    | none => simpa [hplace] using htype
    | some i =>
      rw [hplace] at htype
      cases hcell : row[i]? with
      | none => simp [hcell] at htype
      | some cell => simpa [hcell] using htype
  simp only [Columns.record, hcells.length_eq, ne_eq, not_true_eq_false, if_false, hname, hcurrent,
    hwanted, hlatest, hkind, Option.getD_some]
  rfl

theorem Columns.AreOf.strictRecord_eq :
    c.strictRecord head.length index row = some (c.record head.length index row) := by
  by_cases hlength : row.length = head.length
  · obtain ⟨cells, hcells, hname, hcurrent, hwanted, hlatest, htype⟩ := hc.exists_cells hlength
    rw [hc.record_eq index hcells, strictRecord, if_neg (not_not_intro hlength), hname, hcurrent,
      hwanted, hlatest, htype]
    rfl
  · rw [strictRecord, if_pos hlength, Columns.record, if_pos hlength]
    rfl

theorem Columns.AreOf.record_eq_ok_iff {r : Record} :
    c.record head.length index row = .ok r ↔ IsRecord head row r := by
  by_cases hlength : row.length = head.length
  · obtain ⟨cells, hcells, -⟩ := hc.exists_cells hlength
    rw [hc.record_eq index hcells, Cells.record_eq_ok_iff]
    constructor
    · rintro ⟨rfl, hsized⟩
      exact ⟨hcells, hsized⟩
    · intro h
      exact ⟨h.standIn.unique hcells, h.isSized⟩
  · rw [Columns.record, if_pos hlength]
    exact iff_of_false nofun fun h => hlength h.standIn.length_eq

theorem Columns.AreOf.record_eq_error_iff {complaint : ReportError} :
    c.record head.length index row = .error complaint ↔ IsFault head index row complaint := by
  by_cases hlength : row.length = head.length
  · obtain ⟨cells, hcells, -⟩ := hc.exists_cells hlength
    rw [hc.record_eq index hcells, Cells.record_eq_error_iff]
    constructor
    · rintro (⟨version, hoffends, rfl⟩ | ⟨delta, hdelta, version, hoffends, rfl⟩)
      · exact .wanted hcells hoffends
      · exact .latest hcells hdelta hoffends
    · intro h
      cases h with
      | rowLength h => exact absurd hlength h
      | wanted hcells' hoffends =>
        obtain rfl := hcells.unique hcells'
        exact .inl ⟨_, hoffends, rfl⟩
      | latest hcells' hdelta hoffends =>
        obtain rfl := hcells.unique hcells'
        exact .inr ⟨_, hdelta, _, hoffends, rfl⟩
  · rw [Columns.record, if_pos hlength]
    constructor
    · intro h
      cases h
      exact .rowLength hlength
    · intro h
      cases h with
      | rowLength => rfl
      | wanted hcells => exact absurd hcells.length_eq hlength
      | latest hcells => exact absurd hcells.length_eq hlength

end Row

/-! ## All rows -/

/-- The records in a list of rows, read strictly. -/
def Columns.strictRecords (c : Columns) (width : Nat) :
    Nat → List (List String) → Option (Except ReportError (List Record))
  | _, [] => some (.ok [])
  | index, row :: rows => do
    match ← c.strictRecord width index row with
    | .ok record => return (← c.strictRecords width (index + 1) rows).map (record :: ·)
    | .error complaint => return .error complaint

/-- The packages that a report tells of, read strictly. -/
def strictRecords (report : Report) : Option (Except ReportError (List Record)) :=
  if report.head.isEmpty && report.rows.isEmpty then
    some (.ok [])
  else
    match report.columns with
    | .ok c => c.strictRecords report.head.length 0 report.rows
    | .error complaint => some (.error complaint)

section Rows

variable {c : Columns} {head : List String} (hc : c.AreOf head)

include hc

theorem Columns.AreOf.records_eq_ok_iff {rows : List (List String)} (index : Nat)
    {records : List Record} :
    c.records head.length index rows = .ok records ↔
      List.Forall₂ (IsRecord head) rows records := by
  induction rows generalizing index records with
  | nil => simp [Columns.records, eq_comm]
  | cons row rows ih =>
    simp only [Columns.records, Except.bind_eq_ok_iff, hc.record_eq_ok_iff, ih,
      List.forall₂_cons_left_iff]
    constructor
    · rintro ⟨r, hr, rest, hrest, heq⟩
      cases heq
      exact ⟨r, rest, hr, hrest, rfl⟩
    · rintro ⟨r, rest, hr, hrest, rfl⟩
      exact ⟨r, hr, rest, hrest, rfl⟩

theorem Columns.AreOf.records_eq_error_iff {rows : List (List String)} (index : Nat)
    {complaint : ReportError} :
    c.records head.length index rows = .error complaint ↔
      ∃ front row back, rows = front ++ row :: back ∧
        (∀ row ∈ front, ∃ r, IsRecord head row r) ∧
          IsFault head (index + front.length) row complaint := by
  induction rows generalizing index with
  | nil =>
    refine iff_of_false nofun ?_
    rintro ⟨front, row, back, hrows, -⟩
    simp at hrows
  | cons row rows ih =>
    have hpure : ∀ records : List Record,
        (pure records : Except ReportError (List Record)) ≠ .error complaint := nofun
    simp only [Columns.records, Except.bind_eq_error_iff, hc.record_eq_ok_iff,
      hc.record_eq_error_iff, ih, hpure, and_false, exists_false, or_false]
    constructor
    · rintro (hfault | ⟨r, hr, front, row', back, rfl, hfront, hfault⟩)
      · exact ⟨[], row, rows, rfl, by simp, hfault⟩
      · refine ⟨row :: front, row', back, rfl, List.forall_mem_cons.2 ⟨⟨r, hr⟩, hfront⟩, ?_⟩
        rwa [List.length_cons, Nat.add_comm front.length, ← Nat.add_assoc]
    · rintro ⟨front, row', back, hrows, hfront, hfault⟩
      cases front with
      | nil =>
        cases hrows
        exact .inl hfault
      | cons first front =>
        cases hrows
        obtain ⟨⟨r, hr⟩, hfront⟩ := List.forall_mem_cons.1 hfront
        rw [List.length_cons, Nat.add_comm front.length, ← Nat.add_assoc] at hfault
        exact .inr ⟨r, hr, front, row', back, rfl, hfront, hfault⟩

theorem Columns.AreOf.strictRecords_eq (rows : List (List String)) (index : Nat) :
    c.strictRecords head.length index rows = some (c.records head.length index rows) := by
  induction rows generalizing index with
  | nil => rfl
  | cons row rows ih =>
    rw [Columns.strictRecords, hc.strictRecord_eq, Columns.records]
    cases hrecord : c.record head.length index row with
    | error => rfl
    | ok r =>
      change (c.strictRecords head.length (index + 1) rows).bind
        (fun rest => some (rest.map (r :: ·))) = _
      rw [ih]
      cases c.records head.length (index + 1) rows <;> rfl

end Rows

/-! ## Reports and their answers -/

theorem strictRecords_eq (report : Report) : report.strictRecords = some report.records := by
  unfold strictRecords records
  split
  next => rfl
  next =>
    cases hcolumns : report.columns with
    | error => rfl
    | ok c => exact (columns_eq_ok_iff.1 hcolumns).strictRecords_eq report.rows 0

theorem Columns.AreOf.mem_head {c : Columns} {head : List String} (hc : c.AreOf head) :
    ∀ name ∈ requiredColumns, name ∈ head := by
  have hmem : ∀ {name : String} {i : Nat}, head.idxOf? name = some i → name ∈ head := by
    intro name i h
    rw [← List.isSome_idxOf?, h]
    rfl
  simp only [requiredColumns, List.forall_mem_cons, List.not_mem_nil, false_implies, implies_true,
    and_true]
  exact ⟨hmem hc.package_eq, hmem hc.current_eq, hmem hc.wanted_eq, hmem hc.latest_eq⟩

theorem FirstMissing.not_forall_mem {head names : List String} {column : String}
    (h : FirstMissing head names column) : ¬ ∀ name ∈ names, name ∈ head := by
  obtain ⟨front, back, rfl, -, hcolumn⟩ := h
  exact fun hall => hcolumn (hall column (by simp))

/-- A report is read as what it answers. -/
theorem answers_records (report : Report) : Answers report report.records := by
  unfold records
  split
  next hnothing =>
    simp only [Bool.and_eq_true, List.isEmpty_iff] at hnothing
    exact .nothing hnothing.1 hnothing.2
  next hsome =>
    simp only [Bool.and_eq_true, List.isEmpty_iff] at hsome
    cases hcolumns : report.columns with
    | error complaint =>
      obtain ⟨column, hmissing, rfl⟩ := columns_eq_error_iff.1 hcolumns
      exact .missingColumn hsome hmissing
    | ok c =>
      have hc := columns_eq_ok_iff.1 hcolumns
      change Answers report (c.records report.head.length 0 report.rows)
      cases hrecords : c.records report.head.length 0 report.rows with
      | ok records => exact .records hc.mem_head ((hc.records_eq_ok_iff 0).1 hrecords)
      | error complaint =>
        obtain ⟨front, row, back, hrows, hfront, hfault⟩ := (hc.records_eq_error_iff 0).1 hrecords
        rw [Nat.zero_add] at hfault
        exact .fault hc.mem_head hrows hfront hfault

theorem records_of_columns {report : Report} {c : Columns} (hc : report.columns = .ok c) :
    report.records = c.records report.head.length 0 report.rows := by
  have hmem := (columns_eq_ok_iff.1 hc).mem_head packageColumn (by simp [requiredColumns])
  have hhead : report.head.isEmpty = false := by simpa using List.ne_nil_of_mem hmem
  rw [records, hhead, hc]
  rfl

theorem exists_columns {report : Report} (h : ∀ name ∈ requiredColumns, name ∈ report.head) :
    ∃ c, report.columns = .ok c := by
  cases hcolumns : report.columns with
  | ok c => exact ⟨c, rfl⟩
  | error complaint =>
    obtain ⟨column, hmissing, -⟩ := columns_eq_error_iff.1 hcolumns
    exact absurd h hmissing.not_forall_mem

/-- A report is read as nothing else. -/
theorem Answers.records_eq {report : Report} {answer : Except ReportError (List Record)}
    (h : Answers report answer) : report.records = answer := by
  cases h with
  | nothing hhead hrows =>
    rw [Report.records, hhead, hrows]
    rfl
  | missingColumn hsome hmissing =>
    have hnot : ¬(report.head.isEmpty && report.rows.isEmpty) = true := by
      simpa only [Bool.and_eq_true, List.isEmpty_iff] using hsome
    rw [Report.records, if_neg hnot, columns_eq_error_iff.2 ⟨_, hmissing, rfl⟩]
    rfl
  | fault hrequired hrows hfront hfault =>
    obtain ⟨c, hc⟩ := exists_columns hrequired
    rw [records_of_columns hc, (columns_eq_ok_iff.1 hc).records_eq_error_iff]
    exact ⟨_, _, _, hrows, hfront, by rwa [Nat.zero_add]⟩
  | records hrequired hrecords =>
    obtain ⟨c, hc⟩ := exists_columns hrequired
    rw [records_of_columns hc, (columns_eq_ok_iff.1 hc).records_eq_ok_iff]
    exact hrecords

theorem records_eq_iff {report : Report} {answer : Except ReportError (List Record)} :
    report.records = answer ↔ Answers report answer :=
  ⟨fun h => h ▸ answers_records report, Answers.records_eq⟩

/-- A report has one answer: no records if it has neither columns nor rows; otherwise the complaint
about the first required column that is missing, or about the first row that is too short or too
long or has a step that cannot be sized; otherwise a record for each row, in order, with the cells
under the first column of each name. No cell is looked for in a row that does not have it. -/
theorem reports_are_read_by_columns (report : Report) :
    (∀ answer, report.records = answer ↔ Answers report answer) ∧
      report.strictRecords = some report.records :=
  ⟨fun _ => records_eq_iff, strictRecords_eq report⟩

end Patchwise.Report

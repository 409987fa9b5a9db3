import Mathlib.Data.List.Nodup
import Patchwise.Proofs.Report.Answer

/-!
# Reports whose columns are laid out differently

A report is read by the names of its columns. So it is read alike whichever order they are in, and
whichever other columns stand between them.

## Main definitions

- `Report.Origin` — where a column of a rearranged report comes from
- `Report.rearranged` — a report with its columns in another order and further ones between them
- `Report.IsLayout` — a layout that keeps every column once

## Main results

- `Report.records_of_rearranged` — a rearranged report is read as the report is
-/

namespace Patchwise.Report

/-! ## Layouts -/

/-- Where a column of a rearranged report comes from. -/
inductive Origin
  /-- It is the column of the report at a place. -/
  | own (place : Nat)
  /-- It is a further column, with a cell for the row of each index. -/
  | further (name : String) (cell : Nat → String)

namespace Origin

def name (head : List String) : Origin → String
  | own place => head[place]?.getD ""
  | further name _ => name

def cell (row : List String) (index : Nat) : Origin → String
  | own place => row[place]?.getD ""
  | further _ cell => cell index

def place? : Origin → Option Nat
  | own place => some place
  | further _ _ => none

end Origin

/-- A report with its columns laid out as said, from left to right. -/
def rearranged (report : Report) (layout : List Origin) : Report where
  head := layout.map (Origin.name report.head)
  rows := report.rows.mapIdx fun index row => layout.map (Origin.cell row index)

/-- The names of columns that are looked at. -/
def knownColumns : List String :=
  requiredColumns ++ [typeColumn]

/-- A layout has every column of a report once, in any order, and between them any number of further
columns that are not looked at. -/
structure IsLayout (width : Nat) (layout : List Origin) : Prop where
  perm : (layout.filterMap Origin.place?).Perm (List.range width)
  not_known : ∀ name cell, .further name cell ∈ layout → name ∉ knownColumns

/-! ## The same cells under the same names -/

/-- Where the pairs of a name are all alike, any of them is found. -/
theorem lookup_eq_some_iff_mem {pairs : List (String × String)} {name cell : String}
    (h : ∀ cell cell', (name, cell) ∈ pairs → (name, cell') ∈ pairs → cell = cell') :
    pairs.lookup name = some cell ↔ (name, cell) ∈ pairs := by
  have hmem : ∀ {cell}, pairs.lookup name = some cell → (name, cell) ∈ pairs := by
    intro cell hlookup
    obtain ⟨front, back, rfl, -⟩ := List.lookup_eq_some_iff.1 hlookup
    simp
  refine ⟨hmem, fun hcell => ?_⟩
  cases hlookup : pairs.lookup name with
  | none => simpa using List.lookup_eq_none_iff.1 hlookup _ hcell
  | some cell' => rw [h cell cell' hcell (hmem hlookup)]

section Rearranged

variable {head row : List String} {layout : List Origin} {name : String}

theorem IsLayout.own_mem_iff (h : IsLayout head.length layout) {place : Nat} :
    .own place ∈ layout ↔ place < head.length := by
  rw [← List.mem_range, ← h.perm.mem_iff, List.mem_filterMap]
  constructor
  · intro hmem
    exact ⟨_, hmem, rfl⟩
  · rintro ⟨origin, hmem, hplace⟩
    cases origin with
    | own =>
      cases hplace
      exact hmem
    | further => cases hplace

variable (hlayout : IsLayout head.length layout) (hname : name ∈ knownColumns)

include hlayout hname

theorem IsLayout.mem_pairs_iff (hlength : row.length = head.length) (index : Nat) {cell : String} :
    (name, cell) ∈ layout.map (fun origin => (origin.name head, origin.cell row index)) ↔
      (name, cell) ∈ head.zip row := by
  rw [List.mem_map, List.mem_iff_getElem]
  constructor
  · rintro ⟨origin, hmem, heq⟩
    obtain ⟨rfl, rfl⟩ := Prod.mk.inj heq
    cases origin with
    | own place =>
      have hplace := hlayout.own_mem_iff.1 hmem
      refine ⟨place, by simp [hlength, hplace], ?_⟩
      simp [Origin.name, Origin.cell, hlength, hplace]
    | further name cell => exact absurd hname (hlayout.not_known name cell hmem)
  · rintro ⟨place, hplace, heq⟩
    rw [List.length_zip, hlength, Nat.min_self] at hplace
    refine ⟨.own place, hlayout.own_mem_iff.2 hplace, ?_⟩
    rw [← heq]
    simp [Origin.name, Origin.cell, hlength, hplace]

/-- Under a name that is looked at stands the same cell as before. -/
theorem IsLayout.cell?_eq (hnodup : head.Nodup) (hlength : row.length = head.length) (index : Nat) :
    cell? (layout.map (Origin.name head)) (layout.map (Origin.cell row index)) name =
      cell? head row name := by
  have hunique : ∀ cell cell', (name, cell) ∈ head.zip row → (name, cell') ∈ head.zip row →
      cell = cell' := by
    have hkeys : ((head.zip row).map Prod.fst).Nodup := by
      rwa [List.map_fst_zip (Nat.le_of_eq hlength.symm)]
    intro cell cell' hcell hcell'
    exact congrArg Prod.snd (List.inj_on_of_nodup_map hkeys hcell hcell' rfl)
  apply Option.ext
  intro cell
  rw [cell?, cell?, List.zip_map', lookup_eq_some_iff_mem hunique, lookup_eq_some_iff_mem,
    hlayout.mem_pairs_iff hname hlength]
  simpa only [hlayout.mem_pairs_iff hname hlength] using hunique

omit hname in
theorem IsLayout.mem_head_iff (hname : name ∈ knownColumns) :
    name ∈ layout.map (Origin.name head) ↔ name ∈ head := by
  have hpairs : ∀ pairs : List (String × String),
      name ∈ pairs.map Prod.fst ↔ ∃ cell, (name, cell) ∈ pairs := by
    intro pairs
    simp
  have hkeys : (layout.map fun origin => (origin.name head, origin.cell head 0)).map Prod.fst =
      layout.map (Origin.name head) := by
    rw [List.map_map]
    rfl
  have hkeys' : (head.zip head).map Prod.fst = head := List.map_fst_zip (Nat.le_refl _)
  rw [← hkeys, hpairs, ← hkeys', hpairs, hkeys']
  simp only [hlayout.mem_pairs_iff hname rfl]

end Rearranged

/-! ## Rows that are read alike -/

/-- Two rows under two heads hold the same under the names that are looked at. -/
structure Alike (head head' row row' : List String) : Prop where
  length_eq : row.length = head.length
  length_eq' : row'.length = head'.length
  cell?_eq : ∀ name ∈ knownColumns, cell? head' row' name = cell? head row name

section Alike

variable {head head' row row' : List String} (h : Alike head head' row row')

include h

theorem Alike.standIn {cells : Cells} (hcells : cells.StandIn head row) :
    cells.StandIn head' row' where
  length_eq := h.length_eq'
  name_eq := (h.cell?_eq _ (by decide)).trans hcells.name_eq
  current_eq := (h.cell?_eq _ (by decide)).trans hcells.current_eq
  wanted_eq := (h.cell?_eq _ (by decide)).trans hcells.wanted_eq
  latest_eq := (h.cell?_eq _ (by decide)).trans hcells.latest_eq
  packageType_eq := (h.cell?_eq _ (by decide)).trans hcells.packageType_eq

theorem Alike.isRecord {r : Record} (hr : IsRecord head row r) : IsRecord head' row' r :=
  ⟨h.standIn hr.standIn, hr.isSized⟩

theorem Alike.isFault {index : Nat} {complaint : ReportError}
    (hfault : IsFault head index row complaint) : IsFault head' index row' complaint := by
  cases hfault with
  | rowLength hlength => exact absurd h.length_eq hlength
  | wanted hcells hoffends => exact .wanted (h.standIn hcells) hoffends
  | latest hcells hdelta hoffends => exact .latest (h.standIn hcells) hdelta hoffends

end Alike

theorem exists_of_forall₂_append {α β : Type} {R : α → β → Prop} {front back : List α} {a : α}
    {bs : List β} (h : List.Forall₂ R (front ++ a :: back) bs) :
    ∃ front' b back', bs = front' ++ b :: back' ∧ List.Forall₂ R front front' ∧ R a b := by
  induction front generalizing bs with
  | nil =>
    cases h with
    | cons hab => exact ⟨[], _, _, rfl, .nil, hab⟩
  | cons first front ih =>
    cases h with
    | cons hfirst hrest =>
      obtain ⟨front', b, back', rfl, hfront, hab⟩ := ih hrest
      exact ⟨_ :: front', b, back', rfl, .cons hfirst hfront, hab⟩

theorem isRecords_of_alike {head head' : List String} {rows rows' : List (List String)}
    (h : List.Forall₂ (Alike head head') rows rows') {records : List Record}
    (hrecords : List.Forall₂ (IsRecord head) rows records) :
    List.Forall₂ (IsRecord head') rows' records := by
  induction h generalizing records with
  | nil => simpa using hrecords
  | cons halike _ ih =>
    cases hrecords with
    | cons hr hrest => exact .cons (halike.isRecord hr) (ih hrest)

theorem exists_isRecord_of_alike {head head' : List String} {rows rows' : List (List String)}
    (h : List.Forall₂ (Alike head head') rows rows')
    (hrecords : ∀ row ∈ rows, ∃ r, IsRecord head row r) :
    ∀ row ∈ rows', ∃ r, IsRecord head' row r := by
  induction h with
  | nil => simp
  | cons halike _ ih =>
    obtain ⟨⟨r, hr⟩, hrest⟩ := List.forall_mem_cons.1 hrecords
    exact List.forall_mem_cons.2 ⟨⟨r, halike.isRecord hr⟩, ih hrest⟩

/-- Reports with columns, whose rows hold the same under the names that are looked at, are read
alike. -/
theorem Answers.of_alike {report report' : Report} {answer : Except ReportError (List Record)}
    (h : Answers report answer) (hhead : report.head ≠ []) (hhead' : report'.head ≠ [])
    (hmem : ∀ name ∈ knownColumns, (name ∈ report'.head ↔ name ∈ report.head))
    (hrows : List.Forall₂ (Alike report.head report'.head) report.rows report'.rows) :
    Answers report' answer := by
  have hrequired : ∀ name ∈ requiredColumns, (name ∈ report'.head ↔ name ∈ report.head) :=
    fun name hname => hmem name (List.mem_append_left _ hname)
  cases h with
  | nothing hnone => exact absurd hnone hhead
  | missingColumn hsome hmissing =>
    obtain ⟨front, back, hnames, hfront, hcolumn⟩ := hmissing
    refine .missingColumn (fun hnone => hhead' hnone.1) ⟨front, back, hnames, ?_, ?_⟩
    · intro name hname
      exact (hrequired name (by simp [hnames, hname])).2 (hfront name hname)
    · rwa [hrequired _ (by simp [hnames])]
  | fault hcolumns hsplit hfront hfault =>
    rw [hsplit] at hrows
    obtain ⟨front', row', back', hsplit', halike, hrow⟩ := exists_of_forall₂_append hrows
    refine .fault (fun name hname => (hrequired name hname).2 (hcolumns name hname)) hsplit'
      (exists_isRecord_of_alike halike hfront) ?_
    rw [← halike.length_eq]
    exact hrow.isFault hfault
  | records hcolumns hrecords =>
    exact .records (fun name hname => (hrequired name hname).2 (hcolumns name hname))
      (isRecords_of_alike hrows hrecords)

/-! ## Rearranged reports -/

theorem forall₂_mapIdx {α β : Type} {R : α → β → Prop} {f : Nat → α → β} {as : List α}
    (h : ∀ i, ∀ a ∈ as, R a (f i a)) : List.Forall₂ R as (as.mapIdx f) := by
  induction as generalizing f with
  | nil => exact .nil
  | cons a as ih =>
    rw [List.mapIdx_cons]
    exact .cons (h 0 a List.mem_cons_self)
      (ih fun i b hb => h (i + 1) b (List.mem_cons_of_mem _ hb))

/-- A report with columns of different names, none of whose rows is too short or too long, is read
alike whichever order its columns are in, and whichever further columns stand between them, as long
as none of these has a name that is looked at. -/
theorem records_of_rearranged (report : Report) (layout : List Origin) (hhead : report.head ≠ [])
    (hnodup : report.head.Nodup) (hrows : ∀ row ∈ report.rows, row.length = report.head.length)
    (hlayout : IsLayout report.head.length layout) :
    (report.rearranged layout).records = report.records := by
  have hhead' : (report.rearranged layout).head ≠ [] := by
    have hfirst := hlayout.own_mem_iff.2 (List.length_pos_of_ne_nil hhead)
    exact List.ne_nil_of_mem (List.mem_map_of_mem hfirst)
  have halike : List.Forall₂ (Alike report.head (report.rearranged layout).head) report.rows
      (report.rearranged layout).rows := by
    apply forall₂_mapIdx
    intro index row hrow
    refine ⟨hrows row hrow, ?_, fun name hname => ?_⟩
    · simp [rearranged]
    · exact hlayout.cell?_eq hname hnodup (hrows row hrow) index
  exact records_eq_iff.2
    ((answers_records report).of_alike hhead hhead' (fun _ => hlayout.mem_head_iff) halike)

/-- A report with a version that cannot be sized in its second row. -/
def halfReadable : Report :=
  ⟨[packageColumn, currentColumn, wantedColumn, latestColumn],
    [["left", "1.0.0", "1.0.1", "2.0.0"], ["right", "2", "2.0.1", "3"]]⟩

/-- The columns of it from right to left, with a further one among them. -/
def backwards : List Origin :=
  [.own 3, .own 2, .further "URL" (fun index => toString index), .own 1, .own 0]

theorem records_of_rearranged_backwards :
    halfReadable.head ≠ [] ∧ halfReadable.head.Nodup ∧
      (∀ row ∈ halfReadable.rows, row.length = halfReadable.head.length) ∧
      IsLayout halfReadable.head.length backwards ∧
      halfReadable.rearranged backwards =
        ⟨[latestColumn, wantedColumn, "URL", currentColumn, packageColumn],
          [["2.0.0", "1.0.1", "0", "1.0.0", "left"], ["3", "2.0.1", "1", "2", "right"]]⟩ ∧
      (halfReadable.rearranged backwards).records = .error (.malformedVersion "right" ⟨"2"⟩) := by
  have hhead : halfReadable.head ≠ [] := by decide
  have hnodup : halfReadable.head.Nodup := by decide
  have hrows : ∀ row ∈ halfReadable.rows, row.length = halfReadable.head.length := by decide
  have hlayout : IsLayout halfReadable.head.length backwards := by
    refine ⟨by decide, fun name cell hmem => ?_⟩
    obtain ⟨rfl, -⟩ : name = "URL" ∧ _ := by simpa [backwards] using hmem
    decide
  refine ⟨hhead, hnodup, hrows, hlayout, rfl, ?_⟩
  rw [records_of_rearranged halfReadable backwards hhead hnodup hrows hlayout]
  rfl

end Patchwise.Report

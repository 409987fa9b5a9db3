import Patchwise.Proofs.Report.Layout

/-!
# Reports that are restricted to some sections

Packages of other manifest sections can be left out before a report is read, with their rows, or
afterwards, with their records. Both come to the same where the report can be read at all. Leaving
out rows brings no fault with it that was not there, and a row that is too short to tell its section
is complained of either way.

## Main definitions

- `Report.isKept` — whether a row stays, by the section that it tells
- `Report.IsRestricted` — what a report is read as without some of its rows

## Main results

- `Report.keepRows_isRestricted` — rows are left out as records would be
-/

namespace Patchwise.Report

/-! ## Rows that stay -/

/-- A row stays unless it tells a section that is not wanted. -/
def isKept (head : List String) (wanted : String → Bool) (row : List String) : Bool :=
  (cell? head row typeColumn).all wanted

/-- Of several columns of a name, the first decides. -/
theorem keepRows_eq (report : Report) (name : String) (wanted : String → Bool) :
    report.keepRows name wanted =
      ⟨report.head, report.rows.filter fun row => (cell? report.head row name).all wanted⟩ := by
  unfold keepRows column?
  simp only [cell?_eq_bind]
  cases report.head.idxOf? name with
  | none => simp
  | some i =>
    have hstays : ∀ row : List String, (row[i]?.map wanted).getD true = row[i]?.all wanted := by
      intro row
      cases row[i]? <;> rfl
    simp only [hstays, Option.bind_some]

theorem IsRecord.isKept_eq {head row : List String} {r : Record} (h : IsRecord head row r)
    (wanted : String → Bool) : isKept head wanted row = r.packageType.all wanted :=
  congrArg (Option.all wanted) h.standIn.packageType_eq

/-- A row that lacks the cell under a column is not as long as the head. -/
theorem length_ne_of_cell?_eq_none {head row : List String} {name : String} (hname : name ∈ head)
    (h : cell? head row name = none) : row.length ≠ head.length := by
  intro hlength
  obtain ⟨i, hi⟩ : ∃ i, head.idxOf? name = some i := by
    rwa [← Option.isSome_iff_exists, List.isSome_idxOf?]
  obtain ⟨cell, -, hcell⟩ := exists_cell hi hlength
  rw [h] at hcell
  cases hcell

theorem forall₂_filter {α β : Type} {R : α → β → Prop} {p : α → Bool} {q : β → Bool}
    {as : List α} {bs : List β} (h : List.Forall₂ R as bs) (hpq : ∀ a b, R a b → p a = q b) :
    List.Forall₂ R (as.filter p) (bs.filter q) := by
  induction h with
  | nil => exact .nil
  | @cons a b as bs hab _ ih =>
    rw [List.filter_cons, List.filter_cons, hpq a b hab]
    by_cases hb : q b = true
    · rw [if_pos hb, if_pos hb]
      exact .cons hab ih
    · rw [if_neg hb, if_neg hb]
      exact ih

/-! ## What is read of them -/

/-- What a report is read as without the rows of sections that are not wanted, `kept`, next to what
it is read as with them. -/
structure IsRestricted (report : Report) (wanted : String → Bool) (kept : Report) : Prop where
  head_eq : kept.head = report.head
  /-- The rows that stay are in order, and a row that lacks the cell is among them. -/
  rows_eq : kept.rows = report.rows.filter (isKept report.head wanted)
  /-- The records are those of the report that are of a wanted section or do not tell any. -/
  records_eq : ∀ records, report.records = .ok records →
    kept.records = .ok (records.filter fun r => r.packageType.all wanted)
  /-- If there is a complaint about what is left, then there is one about the report. -/
  fails : ∀ complaint, kept.records = .error complaint →
    ∃ complaint', report.records = .error complaint'
  /-- A complaint about what is left is about the columns of the report or about one of its rows. -/
  held : ∀ complaint, kept.records = .error complaint →
    (∃ column, FirstMissing report.head requiredColumns column ∧
      complaint = .missingColumn column) ∨
    ∃ row ∈ report.rows, ∃ index, IsFault report.head index row complaint
  /-- A row that is too short to tell its section stays, so that what is left cannot be read. -/
  short : ∀ row ∈ report.rows, typeColumn ∈ report.head → cell? report.head row typeColumn = none →
    row ∈ kept.rows ∧ ∃ complaint, kept.records = .error complaint
  /-- If the report is complained of because of such a row, then so is what is left, where only the
  rows in front of it that stay are counted. -/
  reported : ∀ front row back, report.rows = front ++ row :: back →
    typeColumn ∈ report.head → cell? report.head row typeColumn = none →
    report.records = .error (.rowLength front.length report.head.length row.length) →
    kept.records = .error (.rowLength (front.countP (isKept report.head wanted))
      report.head.length row.length)

section Restriction

variable {report kept : Report} {wanted : String → Bool} (hhead : kept.head = report.head)
  (hrows : kept.rows = report.rows.filter (isKept report.head wanted))

include hhead hrows

theorem records_restricted {records : List Record} (h : report.records = .ok records) :
    kept.records = .ok (records.filter fun r => r.packageType.all wanted) := by
  apply Answers.records_eq
  cases records_eq_iff.1 h with
  | nothing hnone hempty =>
    refine .nothing (hhead.trans hnone) ?_
    rw [hrows, hempty]
    rfl
  | records hrequired hrecords =>
    refine .records (hhead ▸ hrequired) ?_
    rw [hhead, hrows]
    exact forall₂_filter hrecords fun _ _ hr => hr.isKept_eq wanted

theorem exists_error_of_restricted {complaint : ReportError}
    (h : kept.records = .error complaint) : ∃ complaint', report.records = .error complaint' := by
  cases hrecords : report.records with
  | error complaint' => exact ⟨complaint', rfl⟩
  | ok records =>
    rw [records_restricted hhead hrows hrecords] at h
    cases h

theorem held_of_restricted {complaint : ReportError} (h : kept.records = .error complaint) :
    (∃ column, FirstMissing report.head requiredColumns column ∧
      complaint = .missingColumn column) ∨
    ∃ row ∈ report.rows, ∃ index, IsFault report.head index row complaint := by
  cases records_eq_iff.1 h with
  | missingColumn _ hmissing => exact .inl ⟨_, hhead ▸ hmissing, rfl⟩
  | @fault front back row _ _ hsplit _ hfault =>
    have hmem : row ∈ report.rows.filter (isKept report.head wanted) := by
      rw [← hrows, hsplit]
      simp
    exact .inr ⟨row, List.mem_of_mem_filter hmem, front.length, hhead ▸ hfault⟩

variable {row : List String} (htype : typeColumn ∈ report.head)
  (hcell : cell? report.head row typeColumn = none)

include htype hcell

theorem error_of_short (hmem : row ∈ report.rows) :
    row ∈ kept.rows ∧ ∃ complaint, kept.records = .error complaint := by
  have hkept : row ∈ kept.rows := by
    rw [hrows, List.mem_filter]
    exact ⟨hmem, by rw [isKept, hcell]; rfl⟩
  refine ⟨hkept, ?_⟩
  cases hrecords : kept.records with
  | error complaint => exact ⟨complaint, rfl⟩
  | ok records =>
    exfalso
    cases records_eq_iff.1 hrecords with
    | nothing _ hempty => simp [hempty] at hkept
    | records _ hall =>
      obtain ⟨front, back, hsplit⟩ := List.append_of_mem hkept
      rw [hsplit] at hall
      obtain ⟨-, r, -, -, -, hr⟩ := exists_of_forall₂_append hall
      have hlength := hr.standIn.length_eq
      rw [hhead] at hlength
      exact length_ne_of_cell?_eq_none htype hcell hlength

theorem reported_of_short {front back : List (List String)}
    (hsplit : report.rows = front ++ row :: back)
    (h : report.records = .error (.rowLength front.length report.head.length row.length)) :
    kept.records = .error (.rowLength (front.countP (isKept report.head wanted))
      report.head.length row.length) := by
  have hkept : isKept report.head wanted row = true := by
    rw [isKept, hcell]
    rfl
  have hlength := length_ne_of_cell?_eq_none htype hcell
  generalize hcomplaint :
    ReportError.rowLength front.length report.head.length row.length = complaint at h
  cases records_eq_iff.1 h with
  | missingColumn => cases hcomplaint
  | @fault front' back' row' _ hrequired hsplit' hfront hfault =>
    cases hfault with
    | wanted => cases hcomplaint
    | latest => cases hcomplaint
    | rowLength =>
      obtain ⟨hplace, -, -⟩ := ReportError.rowLength.inj hcomplaint
      obtain ⟨rfl, htail⟩ := List.append_inj (hsplit.symm.trans hsplit') hplace
      obtain ⟨rfl, rfl⟩ := List.cons.inj htail
      have hrest : kept.rows = front.filter (isKept report.head wanted) ++
          row :: back.filter (isKept report.head wanted) := by
        rw [hrows, hsplit, List.filter_append, List.filter_cons_of_pos hkept]
      have hrecords : ∀ row' ∈ front.filter (isKept report.head wanted),
          ∃ r, IsRecord kept.head row' r := by
        intro row' hmem
        rw [hhead]
        exact hfront row' (List.mem_of_mem_filter hmem)
      have hfault : IsFault kept.head (front.filter (isKept report.head wanted)).length row
          (.rowLength (front.countP (isKept report.head wanted)) report.head.length row.length) := by
        rw [List.countP_eq_length_filter, hhead]
        exact .rowLength hlength
      exact Answers.records_eq (.fault (hhead ▸ hrequired) hrest hrecords hfault)

end Restriction

/-- Leaving out rows of sections that are not wanted before a report is read comes to the same as
leaving out their records afterwards, and it can only take faults away. -/
theorem keepRows_isRestricted (report : Report) (wanted : String → Bool) :
    IsRestricted report wanted (report.keepRows typeColumn wanted) := by
  have hkept := keepRows_eq report typeColumn wanted
  have hhead : (report.keepRows typeColumn wanted).head = report.head := by rw [hkept]
  have hrows : (report.keepRows typeColumn wanted).rows =
      report.rows.filter (isKept report.head wanted) := by
    rw [hkept]
    rfl
  exact
    { head_eq := hhead
      rows_eq := hrows
      records_eq := fun _ => records_restricted hhead hrows
      fails := fun _ => exists_error_of_restricted hhead hrows
      held := fun _ => held_of_restricted hhead hrows
      short := fun _ hmem htype hcell => error_of_short hhead hrows htype hcell hmem
      reported := fun _ _ _ hsplit htype hcell =>
        reported_of_short hhead hrows htype hcell hsplit }

end Patchwise.Report

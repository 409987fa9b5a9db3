import Patchwise.Report

/-!
# What the records of a report tell

A report is read row by row, and each record carries the sizes of its own two steps. So a record can
be relied on without the report that it comes from.

## Main definitions

- `Record.IsSized` — the deltas of a record are the sizes of its steps

## Main results

- `Report.isSized_of_records` — the records of a report are sized
-/

namespace Patchwise

theorem Except.bind_eq_ok_iff {ε α β : Type} {x : Except ε α} {f : α → Except ε β} {b : β} :
    x >>= f = .ok b ↔ ∃ a, x = .ok a ∧ f a = .ok b := by
  cases x <;> simp [bind, Except.bind]

theorem Except.bind_eq_error_iff {ε α β : Type} {x : Except ε α} {f : α → Except ε β} {e : ε} :
    x >>= f = .error e ↔ x = .error e ∨ ∃ a, x = .ok a ∧ f a = .error e := by
  cases x <;> simp [bind, Except.bind]

theorem Except.eq_ok_of_mapError {ε ε' α : Type} {f : ε → ε'} {x : Except ε α} {a : α}
    (h : x.mapError f = .ok a) : x = .ok a := by
  cases x with
  | ok b =>
    cases h
    rfl
  | error e => cases h

theorem Except.exists_of_mapError {ε ε' α : Type} {f : ε → ε'} {x : Except ε α} {e' : ε'}
    (h : x.mapError f = .error e') : ∃ e, x = .error e ∧ e' = f e := by
  cases x with
  | ok b => cases h
  | error e => exact ⟨e, rfl, (Except.error.inj h).symm⟩

/-- The deltas of a record are the sizes of the steps to its two newer versions. -/
def Record.IsSized (r : Record) : Prop :=
  ∀ reach, Severity.between r.current (r.target reach) = .ok (r.delta reach)

namespace Report

theorem step_eq_ok_iff {package current target : String} {severity : Severity} :
    step package current target = .ok severity ↔ Severity.between current target = .ok severity := by
  unfold step
  cases Severity.between current target with
  | error => exact iff_of_false nofun nofun
  | ok found =>
    constructor <;>
      intro h <;>
      cases h <;>
      rfl

theorem Columns.isSized_of_record {c : Columns} {width index : Nat} {row : List String}
    {r : Record} (h : c.record width index row = .ok r) : r.IsSized := by
  unfold Columns.record at h
  split at h
  · cases h
  · simp only [Except.bind_eq_ok_iff, step_eq_ok_iff] at h
    obtain ⟨wantedDelta, hwanted, latestDelta, hlatest, heq⟩ := h
    cases heq
    intro reach
    cases reach with
    | wanted => exact hwanted
    | latest => exact hlatest

theorem Columns.isSized_of_records {c : Columns} {width index : Nat} {rows : List (List String)}
    {records : List Record} (h : c.records width index rows = .ok records) :
    ∀ r ∈ records, r.IsSized := by
  induction rows generalizing index records with
  | nil =>
    cases h
    simp
  | cons row rows ih =>
    simp only [Columns.records, Except.bind_eq_ok_iff] at h
    obtain ⟨first, hfirst, rest, hrest, heq⟩ := h
    cases heq
    exact List.forall_mem_cons.2 ⟨isSized_of_record hfirst, ih hrest⟩

/-- The deltas of the records that a report tells of are the sizes of their steps. -/
theorem isSized_of_records {report : Report} {records : List Record}
    (h : report.records = .ok records) : ∀ r ∈ records, r.IsSized := by
  unfold Report.records at h
  split at h
  · cases h
    simp
  · obtain ⟨columns, -, hrecords⟩ := Except.bind_eq_ok_iff.1 h
    exact Columns.isSized_of_records hrecords

end Report

end Patchwise

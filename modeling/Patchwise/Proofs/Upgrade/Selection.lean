import Patchwise.Proofs.Group
import Patchwise.Proofs.Report
import Patchwise.Proofs.Upgrade.Course

/-!
# What a run attempts

Which packages of a section a run attempts can be told from the section's report and the manifest as
the run finds it there. Of the records that are considered, those of patch steps are attempted, one
for each stem, in the order of the report, until the run is to stop.

## Main definitions

- `Upgrade.considered` — the records of a report that count
- `Upgrade.Attempts` — what is found and done for a section by its records

## Main results

- `Upgrade.attempts_are_leaders` — what a run attempts in each of its sections

## Design notes

The program forms groups and takes the first member of each. Here the records are told apart without
groups, by what stands in front of them (`Record.leaders`).
-/

namespace Patchwise.Upgrade

open Session

/-- The records that a run considers: those of packages that the manifest declares and that pass the
filters. -/
def considered (o : Options) (m : Manifest) (dependencyType : String) (records : List Record) :
    List Record :=
  records.filter fun r => m.declares dependencyType r.name && o.admits r.name

theorem selection_eq_ok_iff {o : Options} {m : Manifest} {dependencyType : String}
    {report : Report} {found : List Record} :
    selection o m dependencyType report = .ok found ↔
      ∃ records, report.records = .ok records ∧ considered o m dependencyType records = found := by
  rw [selection, Except.bind_eq_ok_iff]
  simp only [pure, Except.pure, Except.ok.injEq, considered]

/-- What is found and done for a section whose report has some records. The run is given as halted
or not, because one that is to stop may leave the last of the attempts out. -/
structure Attempts (o : Options) (m : Manifest) (dependencyType : String) (records : List Record)
    (halted : Option String) (result : SectionResult) : Prop where
  /-- The attempts are those of the first record of each stem, in order. -/
  records_prefix : result.attempts.map (·.record) <+: Record.leaders
    ((considered o m dependencyType records).filter (·.delta o.strategy.reach = .patch))
  /-- Nothing is left out in a run that goes on to its end. -/
  records_eq : halted = none → result.attempts.map (·.record) = Record.leaders
    ((considered o m dependencyType records).filter (·.delta o.strategy.reach = .patch))
  stems_pairwise : result.attempts.Pairwise fun a b => a.record.stem ≠ b.record.stem
  packages_nodup : (result.attempts.map (·.package)).Nodup
  dependencyType_eq : ∀ a ∈ result.attempts, a.dependencyType = dependencyType
  target_eq : ∀ a ∈ result.attempts, a.target =
    match o.strategy with
    | .conservative => a.record.wanted
    | .aggressive => a.record.latest
  /-- Every attempt is a patch step, however it is told. -/
  step_eq : ∀ a ∈ result.attempts, Severity.between a.previous a.target = .ok .patch
  severity_eq : ∀ a ∈ result.attempts, a.severity = .patch
  outdated_eq : result.outdated = (considered o m dependencyType records).length
  groups_eq : result.groups = ((considered o m dependencyType records).map
    fun r => (r.delta o.strategy.reach, r.stem)).toFinset.card
  error_eq : result.error = none

/-! ## Attempts and their records -/

/-- What an attempt takes from the record that it is made for. -/
structure IsFor (o : Options) (dependencyType : String) (r : Record) (a : Attempt) : Prop where
  record_eq : a.record = r
  dependencyType_eq : a.dependencyType = dependencyType
  previous_eq : a.previous = r.current
  target_eq : a.target = r.target o.strategy.reach

theorem Attempted.isFor {o : Options} {dependencyType : String} {r : Record} {m : Manifest}
    {a : Attempt} {course : Course} {events : List Step}
    (h : Attempted o dependencyType r m (a, course) events) : IsFor o dependencyType r a := by
  obtain ⟨time, -⟩ | ⟨-, state, note, time, hlast, -⟩ := h
  · exact ⟨rfl, rfl, rfl, rfl⟩
  · dsimp only at hlast
    subst hlast
    exact ⟨rfl, rfl, rfl, rfl⟩

namespace IsFor

variable {o : Options} {dependencyType : String} {r : Record} {a : Attempt}

theorem target_eq_match (h : IsFor o dependencyType r a) : a.target =
    match o.strategy with
    | .conservative => a.record.wanted
    | .aggressive => a.record.latest := by
  rw [h.target_eq, h.record_eq]
  cases o.strategy <;> rfl

theorem between_eq (h : IsFor o dependencyType r a) (hsized : r.IsSized) :
    Severity.between a.previous a.target = .ok (r.delta o.strategy.reach) := by
  rw [h.previous_eq, h.target_eq, hsized]

/-- An attempt has the severity of its record's step. If both newer versions of the record are the
same, then so are the sizes of the steps to them. -/
theorem severity_eq (h : IsFor o dependencyType r a) (hsized : r.IsSized) :
    a.severity = r.delta o.strategy.reach := by
  have hstep := h.between_eq hsized
  rw [h.previous_eq] at hstep
  rw [Attempt.severity, h.record_eq]
  split
  next hwanted =>
    rw [hwanted, show r.wanted = r.target .wanted from rfl, hsized] at hstep
    exact Except.ok.inj hstep
  next hwanted =>
    have hlatest : o.strategy.reach = .latest := by
      cases hreach : o.strategy.reach with
      | wanted => exact absurd (h.target_eq.trans (by rw [hreach]; rfl)) hwanted
      | latest => rfl
    rw [hlatest]
    rfl

end IsFor

theorem map_record_of_forall₂ {o : Options} {dependencyType : String} {records : List Record}
    {attempts : List Attempt} (h : List.Forall₂ (IsFor o dependencyType) records attempts) :
    attempts.map (·.record) = records := by
  induction h with
  | nil => rfl
  | cons hfor hrest ih => rw [List.map_cons, hfor.record_eq, ih]

theorem isFor_of_mem {o : Options} {dependencyType : String} {records : List Record}
    {attempts : List Attempt} (h : List.Forall₂ (IsFor o dependencyType) records attempts)
    {a : Attempt} (ha : a ∈ attempts) : IsFor o dependencyType a.record a := by
  induction h with
  | nil => cases ha
  | cons hfor hrest ih =>
    cases ha with
    | head => exact hfor.record_eq.symm ▸ hfor
    | tail _ hmem => exact ih hmem

/-! ## Sections -/

/-- The attempts of a section are made for the records that the run acts on, in order, and for all
of them if the run goes on. -/
theorem Processed.exists_records {o : Options} {dependencyType : String} {m : Manifest}
    {result : SectionResult} {course : Course} {events : List Step} {report : Report}
    {records : List Record} (h : Processed o dependencyType m (result, course) events)
    (hreport : events.head? = some ⟨.outdated dependencyType, .ok report⟩)
    (hrecords : report.records = .ok records) :
    ∃ done left, Record.leaders ((considered o m dependencyType records).filter
        (·.delta o.strategy.reach = .patch)) = done ++ left ∧
      (course.halted = none → left = []) ∧
      List.Forall₂ (IsFor o dependencyType) done result.attempts ∧
      result.outdated = (considered o m dependencyType records).length ∧
      result.groups = (Group.partition (considered o m dependencyType records)
        o.strategy.reach).length ∧
      result.error = none := by
  cases h with
  | notReported cause => simp at hreport
  | notRead hselect =>
    simp only [List.head?_cons, Option.some.injEq, Event.mk.injEq, heq_eq_eq, true_and,
      Except.ok.injEq] at hreport
    subst hreport
    rw [selection, hrecords] at hselect
    cases hselect
  | processed hselect hseries =>
    simp only [List.head?_cons, Option.some.injEq, Event.mk.injEq, heq_eq_eq, true_and,
      Except.ok.injEq] at hreport
    subst hreport
    obtain ⟨found, hfound, rfl⟩ := selection_eq_ok_iff.1 hselect
    obtain rfl : found = records := Except.ok.inj (hfound.symm.trans hrecords)
    obtain ⟨done, left, hsplit, hleft, hall⟩ := hseries.exists_done
    rw [Group.candidates_partition] at hsplit
    refine ⟨done, left, hsplit, hleft, hall.imp ?_, rfl, rfl, rfl⟩
    rintro r a ⟨m', course', events', hattempt⟩
    exact hattempt.isFor

/-- What is found and done for a section goes by the records of its report. -/
theorem Processed.attempts {o : Options} {dependencyType : String} {m : Manifest}
    {result : SectionResult} {course : Course} {events : List Step} {report : Report}
    {records : List Record} (h : Processed o dependencyType m (result, course) events)
    (hreport : events.head? = some ⟨.outdated dependencyType, .ok report⟩)
    (hrecords : report.records = .ok records) :
    Attempts o m dependencyType records course.halted result := by
  obtain ⟨done, left, hsplit, hleft, hall, houtdated, hgroups, herror⟩ :=
    h.exists_records hreport hrecords
  have hmap := map_record_of_forall₂ hall
  have hprefix : result.attempts.map (·.record) <+: Record.leaders
      ((considered o m dependencyType records).filter (·.delta o.strategy.reach = .patch)) :=
    ⟨left, by rw [hmap, hsplit]⟩
  have hstems : result.attempts.Pairwise fun a b => a.record.stem ≠ b.record.stem := by
    have hleaders := (Record.pairwise_leaders _).sublist hprefix.sublist
    rwa [List.pairwise_map] at hleaders
  -- what holds of every attempt because of the record that it is made for
  have hfor : ∀ a ∈ result.attempts, IsFor o dependencyType a.record a ∧ a.record.IsSized ∧
      a.record.delta o.strategy.reach = .patch := by
    intro a ha
    have hleader := hprefix.subset (List.mem_map_of_mem ha)
    obtain ⟨hkept, hpatch⟩ := List.mem_filter.1 (Record.mem_of_mem_leaders hleader)
    have hmem : a.record ∈ records := List.mem_of_mem_filter hkept
    exact ⟨isFor_of_mem hall ha, Report.isSized_of_records hrecords _ hmem,
      of_decide_eq_true hpatch⟩
  refine
    { records_prefix := hprefix
      records_eq := fun hgoesOn => by rw [hmap, hsplit, hleft hgoesOn, List.append_nil]
      stems_pairwise := hstems
      packages_nodup := ?_
      dependencyType_eq := fun a ha => (hfor a ha).1.dependencyType_eq
      target_eq := fun a ha => (hfor a ha).1.target_eq_match
      step_eq := fun a ha => ?_
      severity_eq := fun a ha => ?_
      outdated_eq := houtdated
      groups_eq := hgroups.trans (Group.length_partition _ _)
      error_eq := herror }
  · refine List.pairwise_map.2 (hstems.imp fun hne hname => hne ?_)
    exact congrArg Record.stemOf hname
  · obtain ⟨hisFor, hsized, hpatch⟩ := hfor a ha
    rw [hisFor.between_eq hsized, hpatch]
  · obtain ⟨hisFor, hsized, hpatch⟩ := hfor a ha
    rw [hisFor.severity_eq hsized, hpatch]

/-- A section is processed, and if its report can be read then the report's records tell what is
found and done. -/
def ProcessedByRecords (o : Options) (halted : Option String) (dependencyType : String)
    (m : Manifest) (last : SectionResult × Course) (events : List Step) : Prop :=
  Processed o dependencyType m last events ∧
    ∀ report records, events.head? = some ⟨.outdated dependencyType, .ok report⟩ →
      report.records = .ok records → Attempts o m dependencyType records halted last.1

/-- What a run attempts: in each of its sections, whose manifest is the one that the sections before
it left, the records of patch steps that the manifest declares and the filters admit, one for each
stem, in the order of the report. A run that is halted may leave the last of them out. -/
theorem attempts_are_leaders (o : Options) (m : Manifest) {σ : Type}
    (serve : Collaborator interface σ) (s : σ) :
    Series (ProcessedByRecords o ((run o m).exec serve s).1.1.halted) o.dependencyTypes ⟨m, none⟩
      (((run o m).exec serve s).1.1.sections,
        ⟨((run o m).exec serve s).1.2, ((run o m).exec serve s).1.1.halted⟩)
      ((run o m).journal Call.isNotable serve s) := by
  refine (run_ensures o m serve s).mono fun {dependencyType m result course events}
    hprocessed hgoesOn => ⟨hprocessed, fun report records hreport hrecords => ?_⟩
  have hattempts := hprocessed.attempts hreport hrecords
  exact { hattempts with records_eq := fun hrun => hattempts.records_eq (hgoesOn hrun) }

end Patchwise.Upgrade

import Patchwise.Proofs.Upgrade.Course

/-!
# The sections of a run by position

A run over some sections goes through the first of them and then goes on with the others from where
that left it. So what a run finds at one of its positions can be told from the part in front of the
position.

## Main definitions

- `Upgrade.approach`, `Upgrade.remainder` — the parts of a run in front of a position and from it on
- `Upgrade.Call.isOutdated` — whether a call asks for a report

## Main results

- `Upgrade.processSections_append` — sections are processed in two parts as in one
- `Upgrade.exec_run` — a run goes on from the approach to a position
- `Upgrade.exists_next` — a run that goes on goes through the next section
- `Upgrade.exists_processed` — what a run does at a position that it reaches
-/

namespace Patchwise.Upgrade

open Session

theorem processSections_of_halted (o : Options) (dependencyTypes : List String) (m : Manifest)
    (reason : String) :
    processSections o dependencyTypes ⟨m, some reason⟩ = .done ([], ⟨m, some reason⟩) := by
  cases dependencyTypes <;> rfl

/-- Sections are processed in two parts as in one. -/
theorem processSections_append (o : Options) (first second : List String) (course : Course) :
    processSections o (first ++ second) course =
      (processSections o first course).bind fun (results, course) =>
        (processSections o second course).bind fun (more, course) =>
          .done (results ++ more, course) := by
  induction first generalizing course with
  | nil =>
    show processSections o second course =
      (processSections o second course).bind fun last => .done last
    exact (bind_done _).symm
  | cons dependencyType rest ih =>
    obtain ⟨m, _ | reason⟩ := course
    · simp only [List.cons_append, processSections, shouldStop, call_bind]
      congr 1
      funext cancelled
      cases cancelled with
      | true =>
        simp only [if_true, done_bind, processSections_of_halted, List.append_nil]
      | false =>
        simp only [Bool.false_eq_true, if_false, done_bind, bind_assoc, ih, List.cons_append]
    · simp only [processSections_of_halted, done_bind, List.nil_append]

/-- The part of a run that is in front of the section at a position. -/
def approach (o : Options) (m : Manifest) (i : ℕ) :
    Session interface (List SectionResult × Course) :=
  now.bind fun _ => processSections o (o.dependencyTypes.take i) ⟨m, none⟩

/-- The part in front of the next position goes on from the part in front of this one. -/
theorem approach_succ (o : Options) (m : Manifest) {i : ℕ} {dependencyType : String}
    (ht : o.dependencyTypes[i]? = some dependencyType) :
    approach o m (i + 1) = (approach o m i).bind fun (results, course) =>
      (processSections o [dependencyType] course).bind fun (more, course) =>
        .done (results ++ more, course) := by
  simp only [approach, List.take_add_one, ht, Option.toList_some, processSections_append,
    bind_assoc]

section Next

variable {o : Options} {dependencyType : String} {rest : List String} {m : Manifest} {σ : Type}
  {serve : Collaborator interface σ} {s : σ}

/-- A run that the user stops in front of a section does not come to it. -/
theorem exec_processSections_of_cancelled (h : (serve .isCancelled s).1 = true) :
    (processSections o (dependencyType :: rest) ⟨m, none⟩).exec serve s =
      (([], ⟨m, some "cancelled by user"⟩), (serve .isCancelled s).2) := by
  simp only [processSections, shouldStop, call_bind, exec, h, if_true, done_bind]

/-- A run that goes on goes through the next section and then through the others. -/
theorem exec_processSections_cons (h : (serve .isCancelled s).1 = false) :
    (processSections o (dependencyType :: rest) ⟨m, none⟩).exec serve s =
      ((processSection o dependencyType ⟨m, none⟩).bind fun (result, course) =>
        (processSections o rest course).bind fun (results, course) =>
          .done (result :: results, course)).exec serve (serve .isCancelled s).2 := by
  simp only [processSections, shouldStop, call_bind, exec, h, Bool.false_eq_true, if_false,
    done_bind]

end Next

/-- Whether a call asks for a report. -/
def Call.isOutdated : Call → Bool
  | outdated _ => true
  | _ => false

theorem Call.isNotable_of_isOutdated (request : Call) (h : request.isOutdated = true) :
    request.isNotable = true := by
  cases request <;> first | rfl | cases h

theorem Call.isNotable_of_acts (request : Call) (h : request.acts = true) :
    request.isNotable = true := by
  cases request <;> first | rfl | cases h

/-- The part of a run from some section on, if there are results of the sections before it. -/
def remainder (o : Options) (started : Timestamp) (results : List SectionResult)
    (dependencyTypes : List String) (course : Course) : Session interface (Summary × Manifest) :=
  (processSections o dependencyTypes course).bind fun (more, course) =>
    now.bind fun finished =>
      .done ({ strategy := o.strategy, dryRun := o.dryRun, startedAt := started,
               finishedAt := some finished, sections := results ++ more, halted := course.halted },
        course.manifest)

/-- A run goes through the sections in front of a position and then through the others. -/
theorem run_eq (o : Options) (m : Manifest) (i : ℕ) :
    run o m = now.bind fun started =>
      (processSections o (o.dependencyTypes.take i) ⟨m, none⟩).bind fun (results, course) =>
        remainder o started results (o.dependencyTypes.drop i) course := by
  have hsplit := processSections_append o (o.dependencyTypes.take i) (o.dependencyTypes.drop i)
    ⟨m, none⟩
  rw [List.take_append_drop] at hsplit
  simp only [run, hsplit, bind_assoc, done_bind]
  rfl

section Position

variable (o : Options) (m : Manifest) {σ : Type} (serve : Collaborator interface σ) (s : σ) (i : ℕ)

theorem exec_run :
    (run o m).exec serve s =
      (remainder o (serve .clock s).1 ((approach o m i).exec serve s).1.1
        (o.dependencyTypes.drop i) ((approach o m i).exec serve s).1.2).exec serve
          ((approach o m i).exec serve s).2 := by
  rw [run_eq o m i, approach]
  simp only [exec_bind]
  rfl

theorem transcript_run :
    (run o m).transcript serve s =
      (approach o m i).transcript serve s ++
        (remainder o (serve .clock s).1 ((approach o m i).exec serve s).1.1
          (o.dependencyTypes.drop i) ((approach o m i).exec serve s).1.2).transcript serve
            ((approach o m i).exec serve s).2 := by
  rw [run_eq o m i, approach]
  simp only [transcript_bind, exec_bind, List.append_assoc]
  rfl

theorem sections_run :
    ((run o m).exec serve s).1.1.sections =
        ((approach o m i).exec serve s).1.1 ++
          ((processSections o (o.dependencyTypes.drop i) ((approach o m i).exec serve s).1.2).exec
            serve ((approach o m i).exec serve s).2).1.1 := by
  rw [exec_run o m serve s i, remainder, exec_bind]
  rfl

theorem journal_run (keep : Call → Bool) :
    (run o m).journal keep serve s =
      (approach o m i).journal keep serve s ++
        (remainder o (serve .clock s).1 ((approach o m i).exec serve s).1.1
          (o.dependencyTypes.drop i) ((approach o m i).exec serve s).1.2).journal keep serve
            ((approach o m i).exec serve s).2 := by
  rw [journal, transcript_run o m serve s i, List.filter_append]
  rfl

end Position

/-! ## Reports -/

theorem Attempted.filter_isOutdated {o : Options} {dependencyType : String} {r : Record}
    {m : Manifest} {last : Attempt × Course} {events : List Step}
    (h : Attempted o dependencyType r m last events) :
    events.filter (·.request.isOutdated) = [] := by
  cases h with
  | planned => rfl
  | conducted hdry hends =>
    obtain ⟨state, note, time, -, hconduct⟩ := hends
    refine List.filter_eq_nil_iff.2 fun event hevent houtdated => ?_
    have hattempt := hconduct.isOfAttempt event hevent
    obtain ⟨request, answer⟩ := event
    cases request <;> simp [Call.isOutdated, Call.isOfAttempt] at houtdated hattempt

/-- A section asks for one report, and does so first. -/
theorem Processed.filter_isOutdated {o : Options} {dependencyType : String} {m : Manifest}
    {last : SectionResult × Course} {events : List Step}
    (h : Processed o dependencyType m last events) :
    ∃ answer, events.head? = some ⟨.outdated dependencyType, answer⟩ ∧
      events.filter (·.request.isOutdated) = [⟨.outdated dependencyType, answer⟩] := by
  cases h with
  | notReported | notRead => exact ⟨_, rfl, rfl⟩
  | processed hselect hseries =>
    have hrest := hseries.filter_eq_nil Call.isOutdated rfl
      fun hattempt => hattempt.filter_isOutdated
    exact ⟨_, rfl, by rw [List.filter_cons_of_pos rfl, hrest]⟩

/-- A run asks for a report in each section that it comes to. -/
theorem Series.length_filter_isOutdated {o : Options} {dependencyTypes : List String}
    {course : Course} {last : List SectionResult × Course} {events : List Step}
    (h : Series (Processed o) dependencyTypes course last events) :
    (events.filter (·.request.isOutdated)).length = last.1.length := by
  induction h with
  | finished | halted | cancelled => rfl
  | next hpart hrest ih =>
    obtain ⟨answer, -, hfilter⟩ := hpart.filter_isOutdated
    rw [List.filter_cons_of_neg (by simp [Call.isOutdated]), List.filter_append, hfilter,
      List.length_append, ih]
    exact Nat.add_comm 1 _

/-! ## Positions -/

section Position

variable {o : Options} {m : Manifest} {σ : Type} {serve : Collaborator interface σ} {s : σ} {i : ℕ}
  {dependencyType : String}

theorem approach_ensures (o : Options) (m : Manifest) (i : ℕ) :
    Ensures (approach o m i) (Series (Processed o) (o.dependencyTypes.take i) ⟨m, none⟩) :=
  ensures_now fun _ => processSections_ensures o _ _

theorem length_approach_le : ((approach o m i).exec serve s).1.1.length ≤ i := by
  obtain ⟨done, left, hsplit, -, hall⟩ := (approach_ensures o m i serve s).exists_done
  have hlength := congrArg List.length hsplit
  rw [List.length_append, hall.length_eq, List.length_take] at hlength
  omega

/-- A run that is not halted in front of a position has come to all sections there. -/
theorem length_approach (hi : i ≤ o.dependencyTypes.length)
    (h : ((approach o m i).exec serve s).1.2.halted = none) :
    ((approach o m i).exec serve s).1.1.length = i := by
  obtain ⟨done, left, hsplit, hleft, hall⟩ := (approach_ensures o m i serve s).exists_done
  have hlength := congrArg List.length hsplit
  rw [hleft h, List.length_append, hall.length_eq, List.length_take, List.length_nil] at hlength
  omega

theorem length_journal_approach (hi : i ≤ o.dependencyTypes.length)
    (h : ((approach o m i).exec serve s).1.2.halted = none) :
    ((approach o m i).journal Call.isOutdated serve s).length = i := by
  have hreports := (approach_ensures o m i serve s).length_filter_isOutdated
  rw [filter_journal Call.isNotable_of_isOutdated] at hreports
  rw [hreports, length_approach hi h]

/-- A run that is not halted by the end of a section comes to it. -/
theorem exists_section (ht : o.dependencyTypes[i]? = some dependencyType)
    (h : ((approach o m (i + 1)).exec serve s).1.2.halted = none) :
    ∃ result, ((run o m).exec serve s).1.1.sections[i]? = some result := by
  have hi : i + 1 ≤ o.dependencyTypes.length := (List.getElem?_eq_some_iff.1 ht).1
  have hlength := length_approach hi h
  refine ⟨((approach o m (i + 1)).exec serve s).1.1[i], ?_⟩
  rw [sections_run o m serve s (i + 1), List.getElem?_append_left (by omega)]
  exact List.getElem?_eq_getElem _

/-- A run that goes on in front of a section and is not stopped there goes through the section, in
one of the ways in which it can go. -/
theorem exists_next (ht : o.dependencyTypes[i]? = some dependencyType)
    (hgoesOn : ((approach o m i).exec serve s).1.2.halted = none)
    (hasked : (serve .isCancelled ((approach o m i).exec serve s).2).1 = false) :
    ∃ result course events,
      Processed o dependencyType ((approach o m i).exec serve s).1.2.manifest (result, course)
        events ∧
      ((approach o m (i + 1)).exec serve s).1 =
        (((approach o m i).exec serve s).1.1 ++ [result], course) ∧
      ∀ keep : Call → Bool, (∀ request, keep request = true → request.isNotable = true) →
        keep .isCancelled = false →
        (approach o m (i + 1)).journal keep serve s =
          (approach o m i).journal keep serve s ++
            events.filter (fun event => keep event.request) := by
  rw [approach_succ o m ht]
  simp only [exec_bind, journal_bind, exec]
  generalize (approach o m i).exec serve s = front at *
  obtain ⟨⟨results, m₁, halted⟩, s₁⟩ := front
  obtain rfl : halted = none := hgoesOn
  dsimp only at hasked ⊢
  have hprocessed := processSection_ensures o dependencyType m₁ serve (serve .isCancelled s₁).2
  refine ⟨_, _, _, hprocessed, ?_, fun keep hkeep hquestion => ?_⟩
  · rw [exec_processSections_cons hasked]
    simp only [exec_bind, processSections, exec]
  · rw [filter_journal hkeep]
    simp only [journal, processSections, shouldStop, call_bind, transcript, hasked,
      Bool.false_eq_true, if_false, done_bind, transcript_bind, List.filter_cons, hquestion,
      List.filter_nil, List.append_nil]

/-- The report that a run is given in a section stands at the section's position among all its
reports. -/
theorem report_of_next (hi : i ≤ o.dependencyTypes.length)
    (hgoesOn : ((approach o m i).exec serve s).1.2.halted = none) {m₁ : Manifest}
    {last : SectionResult × Course} {events : List Step}
    (hprocessed : Processed o dependencyType m₁ last events)
    (hjournal : (approach o m (i + 1)).journal Call.isOutdated serve s =
      (approach o m i).journal Call.isOutdated serve s ++ events.filter (·.request.isOutdated)) :
    ((run o m).journal Call.isOutdated serve s)[i]? = events.head? := by
  obtain ⟨answer, hhead, hfilter⟩ := hprocessed.filter_isOutdated
  have hlength := length_journal_approach hi hgoesOn
  rw [journal_run o m serve s (i + 1), hjournal, hfilter, List.append_assoc,
    List.getElem?_append_right (by omega), hlength, Nat.sub_self, hhead]
  rfl

/-- What a run does at a position that it comes to is one of the ways in which the section there can
go, on the manifest that the part in front of the position leaves. -/
theorem exists_processed (ht : o.dependencyTypes[i]? = some dependencyType)
    {result : SectionResult}
    (hresult : ((run o m).exec serve s).1.1.sections[i]? = some result) :
    ∃ events, Processed o dependencyType ((approach o m i).exec serve s).1.2.manifest
        (result, ((approach o m (i + 1)).exec serve s).1.2) events ∧
      ((run o m).journal Call.isOutdated serve s)[i]? = events.head? := by
  obtain ⟨hi, hget⟩ := List.getElem?_eq_some_iff.1 ht
  have hrest : o.dependencyTypes.drop i = dependencyType :: o.dependencyTypes.drop (i + 1) := by
    rw [List.drop_eq_getElem_cons hi, hget]
  have hle : ((approach o m i).exec serve s).1.1.length ≤ i := length_approach_le
  -- otherwise the run would have no result at the position
  have hgoesOn : ((approach o m i).exec serve s).1.2.halted = none ∧
      (serve .isCancelled ((approach o m i).exec serve s).2).1 = false := by
    rw [sections_run o m serve s i, hrest, List.getElem?_append_right hle] at hresult
    generalize (approach o m i).exec serve s = front at hresult ⊢
    obtain ⟨⟨results, m₁, _ | reason⟩, s₁⟩ := front
    · refine ⟨rfl, Bool.eq_false_iff.2 fun hcancelled => ?_⟩
      rw [exec_processSections_of_cancelled hcancelled] at hresult
      cases hresult
    · rw [processSections_of_halted] at hresult
      cases hresult
  obtain ⟨found, course, events, hprocessed, hnext, hjournal⟩ :=
    exists_next ht hgoesOn.1 hgoesOn.2
  have hlength := length_approach (Nat.le_of_lt hi) hgoesOn.1
  obtain rfl : found = result := by
    rw [sections_run o m serve s (i + 1), hnext] at hresult
    simpa [hlength] using hresult
  rw [hnext]
  exact ⟨events, hprocessed, report_of_next (Nat.le_of_lt hi) hgoesOn.1 hprocessed
    (hjournal Call.isOutdated Call.isNotable_of_isOutdated rfl)⟩

end Position

end Patchwise.Upgrade

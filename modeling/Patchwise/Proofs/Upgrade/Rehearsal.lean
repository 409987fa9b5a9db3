import Patchwise.Proofs.Upgrade.Approach
import Patchwise.Proofs.Upgrade.Changes
import Patchwise.Proofs.Upgrade.Halting
import Patchwise.Proofs.Upgrade.Selection
import Patchwise.Proofs.Upgrade.WorkingCopy

/-!
# Dry runs

A dry run plans. It asks for reports and calls on nobody else, so the project is as before when it
ends. What it plans is what a run that acts would attempt, as long as both are told the same.

## Main definitions

- `Attempt.plan` — what an attempt is for
- `Upgrade.Accord` — a run that acts and one that plans are told the same in a section
- `Upgrade.Foretells` — what both then have in common there
- `Upgrade.Rehearses` — a dry run that leaves everything as it is

## Main results

- `Upgrade.dryRuns_rehearse` — dry runs leave everything as it is and tell what a run would attempt
-/

namespace Patchwise

namespace Attempt

/-- The package of an attempt, the version it is moved from, and the one it is moved to. -/
def plan (a : Attempt) : String × String × String :=
  (a.package, a.previous, a.target)

/-- An attempt that was planned, and nothing else. -/
structure IsPlanned (a : Attempt) : Prop where
  state_eq : a.state = .planned
  isSome_finishedAt : a.finishedAt.isSome = true
  note_eq : a.note = none

end Attempt

namespace Upgrade

open Session

/-! ## What a dry run does -/

section

variable {o : Options} {dependencyType : String} {m : Manifest} {events : List Step}

theorem Attempted.of_dryRun (hdry : o.dryRun = true) {r : Record} {a : Attempt} {course : Course}
    (h : Attempted o dependencyType r m (a, course) events) :
    a.IsPlanned ∧ course = ⟨m, none⟩ ∧ events = [] := by
  cases h with
  | planned time => exact ⟨⟨rfl, rfl, rfl⟩, rfl, rfl⟩
  | conducted hlive =>
    rw [hdry] at hlive
    cases hlive

theorem Processed.of_dryRun (hdry : o.dryRun = true) {result : SectionResult} {course : Course}
    (h : Processed o dependencyType m (result, course) events) :
    (∀ a ∈ result.attempts, a.IsPlanned) ∧ course.manifest = m ∧
      (events.filter (·.request.acts)).map (·.request) = [.outdated dependencyType] := by
  cases h with
  | notReported | notRead => exact ⟨by simp [SectionResult.failed, SectionResult.empty], rfl, rfl⟩
  | processed hselect hseries =>
    have hplanned := hseries.forall_mem fun hattempt => (hattempt.of_dryRun hdry).1
    have hmanifest := hseries.manifest_eq fun hattempt => by rw [(hattempt.of_dryRun hdry).2.1]
    have hcalls := hseries.filter_eq_nil Call.acts rfl fun hattempt => by
      rw [(hattempt.of_dryRun hdry).2.2]
      rfl
    refine ⟨hplanned, hmanifest, ?_⟩
    rw [List.filter_cons_of_pos rfl, hcalls]
    rfl

/-- A dry run asks for reports, at most one for each of its sections in their order. -/
theorem Series.isPrefix_calls (hdry : o.dryRun = true) {dependencyTypes : List String}
    {course : Course} {last : List SectionResult × Course}
    (h : Series (Processed o) dependencyTypes course last events) :
    (events.filter (·.request.acts)).map (·.request) <+: dependencyTypes.map .outdated := by
  induction h with
  | finished => exact List.prefix_rfl
  | halted | cancelled => exact List.nil_prefix
  | next hpart hrest ih =>
    obtain ⟨-, -, hcalls⟩ := hpart.of_dryRun hdry
    rw [List.filter_cons_of_neg (by simp [Call.acts]), List.filter_append, List.map_append,
      hcalls, List.map_cons, List.singleton_append]
    exact (List.prefix_cons_inj _).2 ih

end

/-! ## What a dry run foretells -/

/-- The records that a run acts on in a section whose report is answered in some way. -/
def candidates (o : Options) (m : Manifest) (dependencyType : String)
    (answer : Except Failure Report) : List Record :=
  match answer with
  | .error _ => []
  | .ok report =>
    match selection o m dependencyType report with
    | .error _ => []
    | .ok records => Group.candidates (Group.partition records o.strategy.reach)

/-- The attempts of a section are made for the first of its candidates, and for all of them if the
run goes on. -/
theorem Processed.exists_candidates {o : Options} {dependencyType : String} {m : Manifest}
    {result : SectionResult} {course : Course} {events : List Step}
    (h : Processed o dependencyType m (result, course) events) :
    ∃ answer done left, events.head? = some ⟨.outdated dependencyType, answer⟩ ∧
      candidates o m dependencyType answer = done ++ left ∧
      (course.halted = none → left = []) ∧
      List.Forall₂ (IsFor o dependencyType) done result.attempts := by
  cases h with
  | notReported cause => exact ⟨_, [], [], rfl, rfl, fun _ => rfl, .nil⟩
  | notRead hselect =>
    refine ⟨_, [], [], rfl, ?_, fun _ => rfl, .nil⟩
    simp only [candidates, hselect, List.append_nil]
  | processed hselect hseries =>
    obtain ⟨done, left, hsplit, hleft, hall⟩ := hseries.exists_done
    refine ⟨_, done, left, rfl, ?_, hleft, hall.imp ?_⟩
    · simpa only [candidates, hselect] using hsplit
    · rintro r a ⟨m', course', events', hattempt⟩
      exact hattempt.isFor

/-- Whether a run only plans makes no difference to what it acts on, and of the manifest only those
packages matter that are declared in the section. -/
theorem candidates_congr {o : Options} {m m' : Manifest} {dependencyType : String}
    (hdeclares : ∀ package, m.declares dependencyType package = m'.declares dependencyType package)
    (dryRun : Bool) (answer : Except Failure Report) :
    candidates { o with dryRun } m dependencyType answer =
      candidates o m' dependencyType answer := by
  have hselection : ∀ report, selection { o with dryRun } m dependencyType report =
      selection o m' dependencyType report := by
    intro report
    simp only [selection, hdeclares]
    rfl
  cases answer with
  | error => rfl
  | ok report => simp only [candidates, hselection]

theorem map_plan_of_forall₂ {o : Options} {dependencyType : String} {records : List Record}
    {attempts : List Attempt} (h : List.Forall₂ (IsFor o dependencyType) records attempts) :
    attempts.map (·.plan) =
      records.map fun r => (r.name, r.current, r.target o.strategy.reach) := by
  induction h with
  | nil => rfl
  | cons hfor hrest ih =>
    rw [List.map_cons, List.map_cons, ih, Attempt.plan, Attempt.package, hfor.record_eq,
      hfor.previous_eq, hfor.target_eq]

/-- What a dry run and a run that acts have in common in a section that both come to: the attempts
that are made are the first of those that are planned, and all of them if the run goes on to the
section's end. -/
structure Foretells (planned result : SectionResult) (halted : Option String) : Prop where
  plan_prefix : result.attempts.map (·.plan) <+: planned.attempts.map (·.plan)
  plan_eq : halted = none → result.attempts.map (·.plan) = planned.attempts.map (·.plan)

theorem Processed.foretells {o : Options} {dependencyType : String} {m m' : Manifest}
    {planned result : SectionResult} {course course' : Course} {events events' : List Step}
    (h : Processed o dependencyType m (planned, course) events) (hgoesOn : course.halted = none)
    (dryRun : Bool) (h' : Processed { o with dryRun } dependencyType m' (result, course') events')
    (hreport : events'.head? = events.head?)
    (hdeclares : ∀ package,
      m'.declares dependencyType package = m.declares dependencyType package) :
    Foretells planned result course'.halted := by
  obtain ⟨answer, done, left, hhead, hsplit, hleft, hall⟩ := h.exists_candidates
  obtain ⟨answer', done', left', hhead', hsplit', hleft', hall'⟩ := h'.exists_candidates
  obtain rfl : answer' = answer := by
    have hevents := hhead'.symm.trans (hreport.trans hhead)
    simpa using hevents
  rw [candidates_congr hdeclares, hsplit, hleft hgoesOn, List.append_nil] at hsplit'
  have hplanned := map_plan_of_forall₂ hall
  have hmade := map_plan_of_forall₂ hall'
  dsimp only at hmade
  rw [hsplit', List.map_append, ← hmade] at hplanned
  refine ⟨⟨_, hplanned.symm⟩, fun hrun => ?_⟩
  rw [hplanned, hleft' hrun, List.map_nil, List.append_nil]

/-- The same options for a run that does not only plan. -/
def Options.acting (o : Options) : Options :=
  { o with dryRun := false }

/-- A run that acts and one that plans are told the same in the section at a position, and there the
first one still finds the packages declared that the manifest declared at the start of both. -/
structure Accord {σ τ : Type} (o : Options) (m : Manifest) (serve : Collaborator interface σ)
    (s : σ) (act : Collaborator interface τ) (t : τ) (i : ℕ) (dependencyType : String) : Prop where
  dependencyType_eq : o.dependencyTypes[i]? = some dependencyType
  report_eq : ((run o.acting m).journal Call.isOutdated act t)[i]? =
    ((run o m).journal Call.isOutdated serve s)[i]?
  declares_eq : ∀ package,
    ((approach o.acting m i).exec act t).1.2.manifest.declares dependencyType package =
      m.declares dependencyType package

/-- A run that leaves everything as it is and tells what a run that acts would attempt. What is seen
of the collaborators is what `view` shows, such as the files on disk. -/
structure Rehearses {σ W : Type} (o : Options) (m : Manifest) (serve : Collaborator interface σ)
    (view : σ → W) (s : σ) (summary : Summary) (s' : σ) : Prop where
  run_eq : (run o m).exec serve s = ((summary, m), s')
  view_eq : view s' = view s
  /-- Of all calls that reach the project it only asks for reports, one for a section at most. -/
  isPrefix_calls : ((run o m).journal Call.acts serve s).map (·.request) <+:
    o.dependencyTypes.map .outdated
  isPlanned : ∀ a ∈ summary.attempts, a.IsPlanned
  /-- What it plans in a section that it goes through is what a run that acts attempts there. If
  that run is not halted by the end of the section, then it does come to the section. -/
  foretells : ∀ {τ : Type} (act : Collaborator interface τ) (t : τ) {i : ℕ}
    {dependencyType : String}, Accord o m serve s act t i dependencyType →
    ((approach o m (i + 1)).exec serve s).1.2.halted = none →
    ∃ planned, summary.sections[i]? = some planned ∧
      (((approach o.acting m (i + 1)).exec act t).1.2.halted = none →
        ∃ result, ((run o.acting m).exec act t).1.1.sections[i]? = some result) ∧
      ∀ result, ((run o.acting m).exec act t).1.1.sections[i]? = some result →
        Foretells planned result ((approach o.acting m (i + 1)).exec act t).1.2.halted

section DryRun

variable {o : Options} (hdry : o.dryRun = true) (m : Manifest) {σ W : Type}
  (serve : Collaborator interface σ) (s : σ)

include hdry

theorem manifest_of_dryRun : ((run o m).exec serve s).1.2 = m :=
  (run_ensures o m serve s).manifest_eq fun hpart => (hpart.of_dryRun hdry).2.1

theorem manifest_approach_of_dryRun (i : ℕ) :
    ((approach o m i).exec serve s).1.2.manifest = m :=
  (approach_ensures o m i serve s).manifest_eq fun hpart => (hpart.of_dryRun hdry).2.1

theorem calls_of_dryRun : ((run o m).journal Call.acts serve s).map (·.request) <+:
    o.dependencyTypes.map .outdated := by
  rw [← filter_journal Call.isNotable_of_acts]
  exact (run_ensures o m serve s).isPrefix_calls hdry

theorem isPlanned_of_dryRun : ∀ a ∈ ((run o m).exec serve s).1.1.attempts, a.IsPlanned := by
  have hsections := (run_ensures o m serve s).forall_mem
    (p := fun result => ∀ a ∈ result.attempts, a.IsPlanned)
    fun hpart => (hpart.of_dryRun hdry).1
  intro a ha
  obtain ⟨result, hresult, hmem⟩ := List.mem_flatMap.1 ha
  exact hsections result hresult a hmem

/-- What no report, question or notice changes is as before after a dry run. -/
theorem view_of_dryRun {view : σ → W}
    (hview : ∀ request s, Call.isOfAttempt request = false → view (serve request s).2 = view s) :
    view ((run o m).exec serve s).2 = view s := by
  have htrail : Trail (fun _ _ _ => True) (view s) ((run o m).journal Call.isOfAttempt serve s)
      (view ((run o m).exec serve s).2) :=
    trail_journal view (fun _ _ _ => trivial) hview (run o m) s
  rw [journal_of_dryRun o m hdry] at htrail
  exact Trail.nil_iff.1 htrail

theorem rehearses {view : σ → W}
    (hview : ∀ request s, Call.isOfAttempt request = false → view (serve request s).2 = view s) :
    Rehearses o m serve view s ((run o m).exec serve s).1.1 ((run o m).exec serve s).2 where
  run_eq := by
    have hmanifest := manifest_of_dryRun hdry m serve s
    generalize (run o m).exec serve s = ran at hmanifest ⊢
    obtain ⟨⟨summary, m'⟩, s'⟩ := ran
    obtain rfl : m' = m := hmanifest
    rfl
  view_eq := view_of_dryRun hdry m serve s hview
  isPrefix_calls := calls_of_dryRun hdry m serve s
  isPlanned := isPlanned_of_dryRun hdry m serve s
  foretells := by
    intro τ act t i dependencyType haccord hgoesOn
    have ht := haccord.dependencyType_eq
    have hacting : o.acting.dependencyTypes[i]? = some dependencyType := ht
    obtain ⟨planned, hplanned⟩ := exists_section ht hgoesOn
    obtain ⟨events, hprocessed, hevents⟩ := exists_processed ht hplanned
    rw [manifest_approach_of_dryRun hdry] at hprocessed
    refine ⟨planned, hplanned, exists_section hacting, fun result hresult => ?_⟩
    obtain ⟨events', hprocessed', hevents'⟩ := exists_processed hacting hresult
    have hreport := hevents'.symm.trans (haccord.report_eq.trans hevents)
    exact hprocessed.foretells hgoesOn false hprocessed' hreport haccord.declares_eq

end DryRun

/-- Dry runs leave everything as it is and foretell the run that acts. However often one is started
after the other, each of them starts and ends with the same manifest, only asks for reports, changes
nothing that its collaborators change on other calls only, ends each of its attempts as a plan, and
plans what a run that acts on the same manifest attempts. -/
theorem dryRuns_rehearse (o : Options) (hdry : o.dryRun = true) (n : ℕ) (m : Manifest)
    {σ W : Type} (serve : Collaborator interface σ) (view : σ → W)
    (hview : ∀ request s, Call.isOfAttempt request = false → view (serve request s).2 = view s)
    (s : σ) :
    ((runs o n ⟨m, none⟩).exec serve s).1.1.length = n ∧
      ((runs o n ⟨m, none⟩).exec serve s).1.2 = ⟨m, none⟩ ∧
      Trail (Rehearses o m serve view) s ((runs o n ⟨m, none⟩).exec serve s).1.1
        ((runs o n ⟨m, none⟩).exec serve s).2 := by
  induction n generalizing s with
  | zero => exact ⟨rfl, rfl, .nil s⟩
  | succ n ih =>
    have hfirst := rehearses hdry m serve s hview
    obtain ⟨hlength, hcourse, htrail⟩ := ih ((run o m).exec serve s).2
    have hresume : (resume o ⟨m, none⟩).exec serve s =
        ((((run o m).exec serve s).1.1, ⟨m, none⟩), ((run o m).exec serve s).2) := by
      rw [resume_eq_run, exec_bind, hfirst.run_eq]
      rfl
    simp only [runs, exec_bind, hresume, exec]
    exact ⟨by rw [List.length_cons, hlength], hcourse, .cons hfirst htrail⟩

/-- The options of a dry run over the packages that a project depends on. -/
def planOnly : Options :=
  { dependenciesOnly with dryRun := true }

/-- Two dry runs with collaborators who would empty every file leave all files as they are. The
first of them plans what a run attempts that keeps one of two upgrades. -/
theorem dryRuns_rehearse_emptying :
    planOnly.dryRun = true ∧
      (∀ request s, Call.isOfAttempt request = false → (emptying.serve request s).2.1 = s.1) ∧
      ((runs planOnly 2 ⟨twoPackages, none⟩).exec emptying.serve (bothDeclared, ())).1.2 =
        ⟨twoPackages, none⟩ ∧
      ((runs planOnly 2 ⟨twoPackages, none⟩).exec emptying.serve (bothDeclared, ())).2.1 =
        bothDeclared ∧
      ∃ planned result,
        ((run planOnly twoPackages).exec emptying.serve (bothDeclared, ())).1.1.sections[0]? =
          some planned ∧
        ((run planOnly.acting twoPackages).exec (leftFails (.ok ())) ()).1.1.sections[0]? =
          some result ∧
        result.attempts.map (·.plan) = planned.attempts.map (·.plan) ∧
        result.attempts.map (·.state) = [.reverted, .committed] := by
  have hview : ∀ request s, Call.isOfAttempt request = false →
      (emptying.serve request s).2.1 = s.1 := by
    intro request s h
    cases request <;> first | rfl | cases h
  obtain ⟨hlength, hcourse, htrail⟩ :=
    dryRuns_rehearse planOnly rfl 2 twoPackages emptying.serve Prod.fst hview (bothDeclared, ())
  obtain ⟨first, second, hsummaries⟩ := List.length_eq_two.1 hlength
  rw [hsummaries] at htrail
  obtain ⟨s₁, hfirst, hrest⟩ := Trail.cons_iff.1 htrail
  obtain ⟨s₂, hsecond, hlast⟩ := Trail.cons_iff.1 hrest
  have hfiles := hsecond.view_eq.trans hfirst.view_eq
  rw [← Trail.nil_iff.1 hlast] at hfiles
  have haccord : Accord planOnly twoPackages emptying.serve (bothDeclared, ())
      (leftFails (.ok ())) () 0 "dependencies" := ⟨rfl, rfl, fun _ => rfl⟩
  obtain ⟨planned, hplanned, hcomes, hforetold⟩ :=
    hfirst.foretells (leftFails (.ok ())) () haccord (by decide +kernel)
  have hgoesOn : ((approach planOnly.acting twoPackages 1).exec (leftFails (.ok ()))
      ()).1.2.halted = none := by
    decide +kernel
  obtain ⟨result, hresult⟩ := hcomes hgoesOn
  have hstates :
      (((run planOnly.acting twoPackages).exec (leftFails (.ok ())) ()).1.1.sections[0]?.map
        fun result => result.attempts.map (·.state)) = some [.reverted, .committed] := by
    decide +kernel
  rw [hresult, Option.map_some, Option.some.injEq] at hstates
  refine ⟨rfl, hview, hcourse, hfiles, planned, result, ?_, hresult, ?_, hstates⟩
  · rw [hfirst.run_eq]
    exact hplanned
  · exact (hforetold result hresult).plan_eq hgoesOn

end Upgrade

end Patchwise

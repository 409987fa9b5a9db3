import Mathlib.Data.List.InsertIdx
import Patchwise.Proofs.InStep
import Patchwise.Proofs.Upgrade.Approach
import Patchwise.Proofs.Upgrade.Selection

/-!
# Sections that are given up

A section whose report is no good is given up. Nothing else is: the run is the one in which that
section is not configured, with an entry for it. The two runs are not held at the same times, so it
has to be shown that no time makes a difference to what a run does.

## Main definitions

- `Summary.untimed` — a summary without the times in it
- `Upgrade.Options.without` — the options without the section at a position
- `Upgrade.complaint?` — why a section with a given report is given up
- `Upgrade.Omits` — what is left of a section that is given up

## Main results

- `Upgrade.processSections_timeless` — times make no difference to what is done for sections
- `Upgrade.bad_report_costs_its_section` — a bad report costs its own section and nothing else
-/

namespace Patchwise

open Session

/-! ## Times -/

/-- An attempt without the time of its end. Whether it has ended can still be seen. -/
def Attempt.untimed (a : Attempt) : Attempt :=
  { a with finishedAt := a.finishedAt.map fun _ => default }

def SectionResult.untimed (result : SectionResult) : SectionResult :=
  { result with attempts := result.attempts.map (·.untimed) }

def Summary.untimed (summary : Summary) : Summary :=
  { summary with
    startedAt := default
    finishedAt := summary.finishedAt.map fun _ => default
    sections := summary.sections.map (·.untimed) }

namespace Upgrade

def Call.isClock : Call → Bool
  | clock => true
  | _ => false

section Timeless

variable {α β : Type} {rel : α → β → Prop}

theorem inStep_tell {notice : Notice} {rest : Unit → Session interface α}
    {rest' : Unit → Session interface β} (h : InStep Call.isClock rel (rest ()) (rest' ())) :
    InStep Call.isClock rel ((tell notice).bind rest) ((tell notice).bind rest') :=
  .call rfl fun _ => h

theorem inStep_now {rest : Timestamp → Session interface α}
    {rest' : Timestamp → Session interface β}
    (h : ∀ time time', InStep Call.isClock rel (rest time) (rest' time')) :
    InStep Call.isClock rel (now.bind rest) (now.bind rest') :=
  .callBlind rfl h

/-- A part of a run does the same at whatever times it is held. If the `mask` takes the times out of
what it ends with, that is the same, too. -/
def Timeless (mask : α → α) (part : Session interface (α × Course)) : Prop :=
  InStep Call.isClock (fun last last' => mask last.1 = mask last'.1 ∧ last.2 = last'.2) part part

theorem andThen_inStep {ε : Type} {cause : ε → Failure} {step : Except ε Unit}
    {rest : Session interface (Except Failure α)} (h : InStep Call.isClock Eq rest rest) :
    InStep Call.isClock Eq (andThen cause step rest) (andThen cause step rest) := by
  cases step with
  | error => exact .done rfl
  | ok => exact h

theorem publish_inStep (a : Attempt) : InStep Call.isClock Eq (publish a) (publish a) := by
  apply InStep.call rfl
  intro staged
  apply andThen_inStep
  apply InStep.call rfl
  intro committed
  apply andThen_inStep
  apply InStep.call rfl
  intro pushed
  exact andThen_inStep (.done rfl)

theorem commitSteps_inStep (a : Attempt) (m : Manifest) :
    InStep Call.isClock Eq (commitSteps a m) (commitSteps a m) := by
  unfold commitSteps
  split
  · exact .done rfl
  · apply InStep.call rfl
    intro written
    rw [done_bind]
    split
    · exact .done rfl
    · apply (publish_inStep a).bind
      rintro published _ rfl
      exact .done rfl

theorem revertSteps_inStep (a : Attempt) (m : Manifest) :
    InStep Call.isClock Eq (revertSteps a m) (revertSteps a m) := by
  apply InStep.call rfl
  intro added
  split
  · exact .done rfl
  · split
    · exact .done rfl
    · apply InStep.call rfl
      intro restored
      split
      · exact .done rfl
      · apply InStep.call rfl
        intro found
        split <;> exact .done rfl

theorem commit_timeless (a : Attempt) (h : a.state = .verifying) (course : Course) :
    Timeless Attempt.untimed (commit a h course) := by
  apply (commitSteps_inStep a course.manifest).bind
  rintro ⟨outcome, manifest⟩ _ rfl
  cases outcome with
  | ok => exact inStep_now fun time time' => .done ⟨rfl, rfl⟩
  | error cause => exact inStep_tell (inStep_now fun time time' => .done ⟨rfl, rfl⟩)

theorem revert_timeless (a : Attempt) (h : a.state = .verifying) (reason : String)
    (course : Course) : Timeless Attempt.untimed (revert a h reason course) := by
  apply (revertSteps_inStep a course.manifest).bind
  rintro ⟨outcome, manifest⟩ _ rfl
  cases outcome with
  | ok => exact inStep_now fun time time' => .done ⟨rfl, rfl⟩
  | error cause => exact inStep_tell (inStep_now fun time time' => .done ⟨rfl, rfl⟩)

theorem conclude_timeless (a : Attempt) (h : a.state = .verifying)
    (answer : Except VerifyError Verdict) (course : Course) :
    Timeless Attempt.untimed (conclude a h answer course) := by
  obtain cause | (_ | reason) := answer
  · apply inStep_tell
    apply (revert_timeless a h cause.message course).bind
    rintro ⟨a₁, course₁⟩ ⟨a₂, course₂⟩ ⟨hmask, hcourse⟩
    dsimp only at hcourse
    subst hcourse
    exact .done ⟨hmask, rfl⟩
  · exact inStep_tell (commit_timeless a h course)
  · exact inStep_tell (inStep_tell (revert_timeless a h reason course))

theorem apply_timeless (a : Attempt) (h : a.state = .selected) (course : Course) :
    Timeless Attempt.untimed (apply a h course) := by
  apply InStep.call rfl
  intro upgraded
  cases upgraded with
  | error cause => exact inStep_tell (inStep_now fun time time' => .done ⟨rfl, rfl⟩)
  | ok =>
    apply InStep.call rfl
    intro answer
    exact conclude_timeless _ rfl answer course

theorem attempt_timeless (o : Options) (dependencyType : String) (r : Record) (course : Course) :
    Timeless Attempt.untimed (attempt o dependencyType r course) := by
  unfold attempt
  dsimp only
  split
  · exact inStep_tell (inStep_now fun time time' => .done ⟨rfl, rfl⟩)
  · exact inStep_tell (apply_timeless _ rfl course)

theorem shouldStop_inStep (course : Course) :
    InStep Call.isClock Eq (shouldStop course) (shouldStop course) := by
  obtain ⟨m, _ | reason⟩ := course
  · apply InStep.call rfl
    intro cancelled
    split <;> exact .done rfl
  · exact .done rfl

/-- Parts in a row do the same at whatever times they are held, if each of them does. -/
theorem series_timeless {part : α → Part β} {loop : List α → Part (List β)} {mask : β → β}
    (hnil : ∀ course, loop [] course = .done ([], course))
    (hcons : ∀ a rest course, loop (a :: rest) course =
      (shouldStop course).bind fun (stop, course) =>
        if stop then .done ([], course)
        else
          (part a course).bind fun (b, course) =>
            (loop rest course).bind fun (bs, course) => .done (b :: bs, course))
    (hpart : ∀ a course, Timeless mask (part a course)) (inputs : List α) (course : Course) :
    Timeless (List.map mask) (loop inputs course) := by
  induction inputs generalizing course with
  | nil =>
    rw [hnil]
    exact .done ⟨rfl, rfl⟩
  | cons a rest ih =>
    rw [hcons]
    apply (shouldStop_inStep course).bind
    rintro ⟨stop, course₁⟩ _ rfl
    cases stop with
    | true => exact .done ⟨rfl, rfl⟩
    | false =>
      apply (hpart a course₁).bind
      rintro ⟨b, course₂⟩ ⟨b', course₃⟩ ⟨hb, hcourse⟩
      dsimp only at hb hcourse
      subst hcourse
      apply (ih course₂).bind
      rintro ⟨bs, last⟩ ⟨bs', last'⟩ ⟨hbs, hlast⟩
      dsimp only at hbs hlast ⊢
      exact .done ⟨by rw [List.map_cons, List.map_cons, hb, hbs], hlast⟩

theorem processSection_timeless (o : Options) (dependencyType : String) (course : Course) :
    Timeless SectionResult.untimed (processSection o dependencyType course) := by
  have hattempts : ∀ records course,
      Timeless (List.map Attempt.untimed) (attempts o dependencyType records course) :=
    series_timeless (fun _ => rfl) (fun _ _ _ => rfl) (attempt_timeless o dependencyType)
  apply inStep_tell
  apply InStep.call rfl
  intro answer
  cases answer with
  | error cause => exact inStep_tell (.done ⟨rfl, rfl⟩)
  | ok report =>
    dsimp only [done_bind]
    cases selection o course.manifest dependencyType report with
    | error cause => exact inStep_tell (.done ⟨rfl, rfl⟩)
    | ok records =>
      apply (hattempts _ course).bind
      rintro ⟨made, last⟩ ⟨made', last'⟩ ⟨hmade, hlast⟩
      dsimp only at hmade hlast ⊢
      exact .done ⟨by rw [SectionResult.untimed, SectionResult.untimed, hmade], hlast⟩

/-- At whatever times they are held, the same is done for sections. -/
theorem processSections_timeless (o : Options) (dependencyTypes : List String) (course : Course) :
    Timeless (List.map SectionResult.untimed) (processSections o dependencyTypes course) :=
  series_timeless (fun _ => rfl) (fun _ _ _ => rfl) (processSection_timeless o) dependencyTypes
    course

end Timeless

/-! ## Options that lack a section -/

/-- The same options without the section at a position. -/
def Options.without (o : Options) (i : ℕ) : Options :=
  { o with dependencyTypes := o.dependencyTypes.eraseIdx i }

theorem attempts_without (o : Options) (i : ℕ) (dependencyType : String) (records : List Record)
    (course : Course) :
    attempts (o.without i) dependencyType records course =
      attempts o dependencyType records course := by
  induction records generalizing course with
  | nil => rfl
  | cons r rest ih =>
    simp only [attempts, ih]
    rfl

theorem processSection_without (o : Options) (i : ℕ) (dependencyType : String) (course : Course) :
    processSection (o.without i) dependencyType course =
      processSection o dependencyType course := by
  simp only [processSection, attempts_without]
  rfl

/-- What is done for some sections does not depend on which ones are configured. -/
theorem processSections_without (o : Options) (i : ℕ) (dependencyTypes : List String)
    (course : Course) :
    processSections (o.without i) dependencyTypes course =
      processSections o dependencyTypes course := by
  induction dependencyTypes generalizing course with
  | nil => rfl
  | cons dependencyType rest ih => simp only [processSections, processSection_without, ih]

theorem remainder_without (o : Options) (i : ℕ) (started : Timestamp)
    (results : List SectionResult) (dependencyTypes : List String) (course : Course) :
    remainder (o.without i) started results dependencyTypes course =
      remainder o started results dependencyTypes course := by
  simp only [remainder, processSections_without]
  rfl

/-- In front of a position it makes no difference whether the section there is configured. -/
theorem approach_without (o : Options) (i : ℕ) (m : Manifest) :
    approach (o.without i) m i = approach o m i := by
  have htake : (o.without i).dependencyTypes.take i = o.dependencyTypes.take i :=
    List.take_eraseIdx_eq_take_of_le _ _ _ (Nat.le_refl i)
  simp only [approach, htake, processSections_without]

section Runs

variable (o : Options) (m : Manifest) {σ : Type} (serve : Collaborator interface σ) (s : σ) (i : ℕ)

theorem drop_without : (o.without i).dependencyTypes.drop i = o.dependencyTypes.drop (i + 1) := by
  apply List.ext_getElem?
  intro j
  rw [List.getElem?_drop, List.getElem?_drop, Options.without,
    List.getElem?_eraseIdx_of_ge (by omega), show i + j + 1 = i + 1 + j by omega]

theorem exec_run_without :
    (run (o.without i) m).exec serve s =
      (remainder o (serve .clock s).1 ((approach o m i).exec serve s).1.1
        (o.dependencyTypes.drop (i + 1)) ((approach o m i).exec serve s).1.2).exec serve
          ((approach o m i).exec serve s).2 := by
  rw [exec_run (o.without i) m serve s i, approach_without, remainder_without, drop_without]

theorem transcript_run_without :
    (run (o.without i) m).transcript serve s =
      (approach o m i).transcript serve s ++
        (remainder o (serve .clock s).1 ((approach o m i).exec serve s).1.1
          (o.dependencyTypes.drop (i + 1)) ((approach o m i).exec serve s).1.2).transcript serve
            ((approach o m i).exec serve s).2 := by
  rw [transcript_run (o.without i) m serve s i, approach_without, remainder_without, drop_without]

theorem journal_run_without (keep : Call → Bool) :
    (run (o.without i) m).journal keep serve s =
      (approach o m i).journal keep serve s ++
        (remainder o (serve .clock s).1 ((approach o m i).exec serve s).1.1
          (o.dependencyTypes.drop (i + 1)) ((approach o m i).exec serve s).1.2).journal keep serve
            ((approach o m i).exec serve s).2 := by
  rw [journal, transcript_run_without, List.filter_append]
  rfl

variable {o m serve s i}

/-- A run that is halted in front of a section does nothing for it, so it may as well not be
configured. -/
theorem runs_eq_of_halted (h : ((approach o m i).exec serve s).1.2.halted ≠ none) :
    (run o m).exec serve s = (run (o.without i) m).exec serve s ∧
      (run o m).transcript serve s = (run (o.without i) m).transcript serve s := by
  rw [exec_run o m serve s i, exec_run_without, transcript_run o m serve s i,
    transcript_run_without]
  generalize (approach o m i).exec serve s = front at h ⊢
  obtain ⟨⟨results, m₁, _ | reason⟩, s₁⟩ := front
  · exact absurd rfl h
  · simp only [remainder, processSections_of_halted, and_self]

end Runs

/-! ## Bad reports -/

/-- Why a section is given up whose report is answered in some way, if it is. -/
def complaint? (answer : Except Failure Report) : Option Failure :=
  match answer with
  | .error cause => some cause
  | .ok report =>
    match report.records with
    | .error cause => some (.report cause)
    | .ok _ => none

/-- A section that is given up leaves the run as it was and asks for nothing but its report. -/
theorem Processed.of_complaint {o : Options} {dependencyType : String} {m : Manifest}
    {result : SectionResult} {course : Course} {events : List Step}
    {answer : Except Failure Report} {cause : Failure}
    (h : Processed o dependencyType m (result, course) events)
    (hreport : events.head? = some ⟨.outdated dependencyType, answer⟩)
    (hbad : complaint? answer = some cause) :
    result = .failed dependencyType cause.message ∧ course = ⟨m, none⟩ ∧
      events = [⟨.outdated dependencyType, answer⟩] := by
  have hanswer : ∀ {given rest}, (⟨.outdated dependencyType, given⟩ :: rest : List Step).head? =
      some ⟨.outdated dependencyType, answer⟩ → given = answer := by
    intro given rest hhead
    simpa using hhead
  cases h with
  | notReported given =>
    obtain rfl := hanswer hreport
    obtain rfl : given = cause := Option.some.inj hbad
    exact ⟨rfl, rfl, rfl⟩
  | @notRead report given hselect =>
    obtain rfl := hanswer hreport
    unfold complaint? at hbad
    cases hrecords : report.records with
    | ok records =>
      simp only [hrecords] at hbad
      cases hbad
    | error found =>
      simp only [hrecords, Option.some.injEq] at hbad
      have hgiven : selection o m dependencyType report = .error found := by
        simp only [selection, hrecords]
        rfl
      obtain rfl : given = found := by
        rw [hselect] at hgiven
        exact Except.error.inj hgiven
      exact ⟨by rw [hbad], rfl, rfl⟩
  | @processed report records attempts course events hselect hseries =>
    -- a report that gives rise to a selection can be read
    obtain rfl := hanswer hreport
    obtain ⟨found, hrecords, -⟩ := selection_eq_ok_iff.1 hselect
    unfold complaint? at hbad
    simp only [hrecords] at hbad
    cases hbad

/-- Two runs end the same but for their times and for an entry that one of them has at a
position. -/
structure Omits (i : ℕ) (entry : SectionResult) (ran ran' : Summary × Manifest) : Prop where
  entry_eq : ran.1.sections[i]? = some entry
  summary_eq : Summary.untimed { ran.1 with sections := ran.1.sections.eraseIdx i } =
    ran'.1.untimed
  manifest_eq : ran.2 = ran'.2

/-- With one more result of the sections before it, the rest of a run goes on in step. -/
theorem remainder_inStep (o : Options) (started : Timestamp) (results : List SectionResult)
    (entry : SectionResult) (dependencyTypes : List String) (course : Course) :
    InStep Call.isClock (Omits results.length entry)
      (remainder o started (results ++ [entry]) dependencyTypes course)
      (remainder o started results dependencyTypes course) := by
  apply (processSections_timeless o dependencyTypes course).bind
  rintro ⟨more, last⟩ ⟨more', last'⟩ ⟨hmore, hlast⟩
  dsimp only at hmore hlast
  subst hlast
  refine inStep_now fun time time' => .done ⟨?_, ?_, rfl⟩
  · simp
  · have herase : (results ++ [entry] ++ more).eraseIdx results.length = results ++ more := by
      simp [List.eraseIdx_append_of_length_le]
    simp only [Summary.untimed, herase, List.map_append, hmore, Option.map_some]

/-- A run and one without a section, if the section leaves an entry behind and nothing else. -/
theorem runs_agree {o : Options} {m : Manifest} {i : ℕ} {σ : Type}
    {serve : Collaborator interface σ} {s : σ} {entry : SectionResult} {events : List Step}
    (hlength : ((approach o m i).exec serve s).1.1.length = i)
    (hnext : ((approach o m (i + 1)).exec serve s).1 =
      (((approach o m i).exec serve s).1.1 ++ [entry], ((approach o m i).exec serve s).1.2))
    (hevents : (approach o m (i + 1)).journal Call.acts serve s =
      (approach o m i).journal Call.acts serve s ++ events)
    (hindistinct : Indistinct serve Call.isClock ((approach o m (i + 1)).exec serve s).2
      ((approach o m i).exec serve s).2) :
    Omits i entry ((run o m).exec serve s).1 ((run (o.without i) m).exec serve s).1 ∧
      Indistinct serve Call.isClock ((run o m).exec serve s).2
        ((run (o.without i) m).exec serve s).2 ∧
      ∃ before after, (run o m).journal Call.acts serve s = before ++ events ++ after ∧
        (run (o.without i) m).journal Call.acts serve s = before ++ after := by
  have hacts : ∀ request, Call.isClock request = true → Call.acts request = false := by
    intro request h
    cases request <;> first | rfl | cases h
  -- the rest of both runs starts from the same course, with the entry as the only difference
  have hstep := remainder_inStep o (serve .clock s).1 ((approach o m i).exec serve s).1.1 entry
    (o.dependencyTypes.drop (i + 1)) ((approach o m i).exec serve s).1.2
  obtain ⟨homits, hlast, hjournal⟩ := hstep.held hindistinct hacts
  rw [hlength] at homits
  rw [exec_run o m serve s (i + 1), exec_run_without, hnext]
  refine ⟨homits, hlast, _, _, ?_, journal_run_without o m serve s i Call.acts⟩
  rw [journal_run o m serve s (i + 1), hevents, hnext, hjournal]

/-- A bad report costs its own section and nothing else, if it makes no difference to what the
collaborators answer later that they were asked for it. A run that comes to the section is the run
without it, but for an entry with the complaint, the call for the report and the times. A run that
is halted in front of the section is that run. -/
theorem bad_report_costs_its_section (o : Options) (m : Manifest) {i : ℕ} {dependencyType : String}
    (ht : o.dependencyTypes[i]? = some dependencyType) {σ : Type}
    (serve : Collaborator interface σ) (s : σ)
    (hasked : (serve .isCancelled ((approach o m i).exec serve s).2).1 = false)
    (hbad : ∀ answer, ((run o m).journal Call.isOutdated serve s)[i]? =
      some ⟨.outdated dependencyType, answer⟩ → (complaint? answer).isSome = true)
    (hindistinct : Indistinct serve Call.isClock ((approach o m (i + 1)).exec serve s).2
      ((approach o m i).exec serve s).2) :
    (((approach o m i).exec serve s).1.2.halted = none →
      ∃ answer cause before after, complaint? answer = some cause ∧
        Omits i { dependencyType, outdated := 0, groups := 0, attempts := [],
                  error := some cause.message }
          ((run o m).exec serve s).1 ((run (o.without i) m).exec serve s).1 ∧
        (run o m).journal Call.acts serve s =
          before ++ [⟨.outdated dependencyType, answer⟩] ++ after ∧
        (run (o.without i) m).journal Call.acts serve s = before ++ after) ∧
    (((approach o m i).exec serve s).1.2.halted ≠ none →
      (run o m).exec serve s = (run (o.without i) m).exec serve s ∧
        (run o m).transcript serve s = (run (o.without i) m).transcript serve s) ∧
    ((run o m).exec serve s).1.2 = ((run (o.without i) m).exec serve s).1.2 ∧
    ∀ path, (serve (.contentOf path) ((run o m).exec serve s).2).1 =
      (serve (.contentOf path) ((run (o.without i) m).exec serve s).2).1 := by
  have hi : i ≤ o.dependencyTypes.length := Nat.le_of_lt (List.getElem?_eq_some_iff.1 ht).1
  cases hfront : ((approach o m i).exec serve s).1.2.halted with
  | some reason =>
    obtain ⟨hexec, htranscript⟩ := runs_eq_of_halted (hfront ▸ Option.some_ne_none reason)
    exact ⟨nofun, fun _ => ⟨hexec, htranscript⟩, by rw [hexec], fun path => by rw [hexec]⟩
  | none =>
    obtain ⟨result, course, events, hprocessed, hnext, hjournal⟩ := exists_next ht hfront hasked
    have hreport := report_of_next hi hfront hprocessed
      (hjournal Call.isOutdated Call.isNotable_of_isOutdated rfl)
    obtain ⟨answer, hhead, -⟩ := hprocessed.filter_isOutdated
    obtain ⟨cause, hcause⟩ := Option.isSome_iff_exists.1 (hbad answer (hreport.trans hhead))
    obtain ⟨rfl, rfl, rfl⟩ := hprocessed.of_complaint hhead hcause
    have hcourse : (⟨((approach o m i).exec serve s).1.2.manifest, none⟩ : Course) =
        ((approach o m i).exec serve s).1.2 := by
      rw [← hfront]
    rw [hcourse] at hnext
    obtain ⟨homits, hlast, before, after, hlong, hshort⟩ :=
      runs_agree (length_approach hi hfront) hnext (hjournal Call.acts Call.isNotable_of_acts rfl)
        hindistinct
    refine ⟨fun _ => ⟨answer, cause, before, after, hcause, homits, hlong, hshort⟩,
      fun hhalted => absurd rfl hhalted, homits.manifest_eq, fun path => ?_⟩
    exact hlast.answer_eq rfl

/-- Collaborators who have no report of the packages that a project asks its users for, and whose
clock shows how often they were called. -/
def withoutPeers : Collaborator interface ℕ := fun request calls =>
  match request with
  | .outdated dependencyType =>
    (if dependencyType = "peerDependencies" then
      .error (.tool (.failed "npm outdated" "no such section"))
    else .ok twoPatches, calls + 1)
  | .clock => (⟨2024, 1, 1, 0, 0, 0, calls⟩, calls + 1)
  | request => ((leftFails (.ok ()) request ()).1, calls + 1)

/-- The options of a run over three sections, of which the second one has no report. -/
def peersBetween : Options :=
  { Options.usual with
    dependencyTypes := ["devDependencies", "peerDependencies", "dependencies"] }

/-- The section without a report is left out of nothing but the summary, and the one after it is
gone through as before. -/
theorem bad_report_costs_its_section_peersBetween :
    peersBetween.dependencyTypes[1]? = some "peerDependencies" ∧
      (withoutPeers .isCancelled ((approach peersBetween twoPackages 1).exec withoutPeers 0).2).1 =
        false ∧
      (∀ answer, ((run peersBetween twoPackages).journal Call.isOutdated withoutPeers 0)[1]? =
        some ⟨.outdated "peerDependencies", answer⟩ → (complaint? answer).isSome = true) ∧
      Indistinct withoutPeers Call.isClock
        ((approach peersBetween twoPackages 2).exec withoutPeers 0).2
        ((approach peersBetween twoPackages 1).exec withoutPeers 0).2 ∧
      ((approach peersBetween twoPackages 1).exec withoutPeers 0).1.2.halted = none ∧
      (∃ message, Omits 1 ⟨"peerDependencies", 0, 0, [], some message⟩
        ((run peersBetween twoPackages).exec withoutPeers 0).1
        ((run (peersBetween.without 1) twoPackages).exec withoutPeers 0).1) ∧
      ((run peersBetween twoPackages).exec withoutPeers 0).1.1.finishedAt ≠
        ((run (peersBetween.without 1) twoPackages).exec withoutPeers 0).1.1.finishedAt ∧
      ((run peersBetween twoPackages).exec withoutPeers 0).1.1.attempts.map (·.state) =
        [.reverted, .committed] := by
  have hindistinct : ∀ calls calls', Indistinct withoutPeers Call.isClock calls calls' := by
    intro calls calls' before request h
    cases request <;> first | rfl | cases h
  have hbad : ∀ answer,
      ((run peersBetween twoPackages).journal Call.isOutdated withoutPeers 0)[1]? =
        some ⟨.outdated "peerDependencies", answer⟩ → (complaint? answer).isSome = true := by
    have hanswers : ∀ event ∈ (run peersBetween twoPackages).journal Call.isOutdated withoutPeers 0,
        ∀ answer, event = ⟨.outdated "peerDependencies", answer⟩ →
          (complaint? answer).isSome = true := by
      apply forall_mem_journal
      rintro request calls answer h
      cases h
      rfl
    intro answer h
    exact hanswers _ (List.mem_of_getElem? h) answer rfl
  have hfront : ((approach peersBetween twoPackages 1).exec withoutPeers 0).1.2.halted = none := by
    decide +kernel
  obtain ⟨hreached, -⟩ := bad_report_costs_its_section peersBetween twoPackages (i := 1) rfl
    withoutPeers 0 rfl hbad (hindistinct _ _)
  obtain ⟨answer, cause, before, after, -, homits, -⟩ := hreached hfront
  exact ⟨rfl, rfl, hbad, hindistinct _ _, hfront, ⟨_, homits⟩, by decide +kernel,
    by decide +kernel⟩

end Upgrade

end Patchwise

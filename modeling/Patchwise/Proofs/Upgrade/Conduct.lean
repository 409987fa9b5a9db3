import Patchwise.Proofs.Manifest.Parsing
import Patchwise.Proofs.Session
import Patchwise.Upgrade.Run

/-!
# The conduct of attempts

What an attempt does to a project, said apart from the program that does it: which calls are made,
how each of them is answered, and the state and the manifest that the attempt ends with. There is a
constructor for each place where an attempt can come to its end.

## Main definitions

- `Upgrade.Publishing`, `Upgrade.Keeping` — the ways in which keeping an upgrade can go
- `Upgrade.Undoing` — the ways in which undoing an upgrade can go
- `Upgrade.Conduct` — the ways in which an attempt can go

## Main results

- `Upgrade.attempt_ensures` — an attempt goes in one of these ways, whatever the collaborators do
-/

namespace Patchwise

/-- The attempt once it has come to its end. -/
def Attempt.ended (a : Attempt) (state : Attempt.State) (note : Option String)
    (time : Timestamp) : Attempt :=
  { a with state, note, finishedAt := some time }

/-- The attempt while it is verified. -/
def Attempt.underTest (a : Attempt) : Attempt :=
  { a with state := .verifying }

namespace Upgrade

open Session

/-- A call of a run, with the answer it was given. -/
abbrev Step : Type := Event interface

/-- Whether a call belongs to the journal of a run. The clock and the notices do not. -/
def Call.isNotable : Call → Bool
  | clock | tell _ => false
  | _ => true

/-- Whatever the collaborators do, a part of a run ends with a value and a journal of this kind. -/
abbrev Ensures {α : Type} (session : Session interface α) (post : α → List Step → Prop) : Prop :=
  session.Ensures Call.isNotable post

section Rules

variable {α : Type} {post : α → List Step → Prop}

/-- A notice leaves no trace in the journal. -/
theorem ensures_tell {notice : Notice} {rest : Unit → Session interface α}
    (h : Ensures (rest ()) post) : Ensures ((tell notice).bind rest) post :=
  .call_skipped rfl fun _ => h

theorem ensures_now {rest : Timestamp → Session interface α}
    (h : ∀ time, Ensures (rest time) post) : Ensures (now.bind rest) post :=
  .call_skipped rfl h

end Rules

/-! ## Keeping an upgrade -/

/-- The ways in which staging, committing and pushing an upgrade can go. -/
inductive Publishing (a : Attempt) : Except Failure Unit → List Step → Prop
  | notStaged (cause : ToolError) :
      Publishing a (.error (.tool cause)) [⟨.addAll, .error cause⟩]
  | notCommitted (cause : ToolError) :
      Publishing a (.error (.tool cause))
        [⟨.addAll, .ok ()⟩, ⟨.commit a.commitMessage, .error cause⟩]
  | notPushed (cause : ToolError) :
      Publishing a (.error (.tool cause))
        [⟨.addAll, .ok ()⟩, ⟨.commit a.commitMessage, .ok ()⟩, ⟨.push, .error cause⟩]
  | published :
      Publishing a (.ok ())
        [⟨.addAll, .ok ()⟩, ⟨.commit a.commitMessage, .ok ()⟩, ⟨.push, .ok ()⟩]

/-- The ways in which keeping an upgrade can go: the manifest declares the target, is written, and
is published. It is left as it was only if it cannot declare the target. -/
inductive Keeping (a : Attempt) (m : Manifest) :
    Except Failure Unit × Manifest → List Step → Prop
  | notEdited {cause : InputError}
      (hedit : m.setVersion a.dependencyType a.package a.target = .error cause) :
      Keeping a m (.error (.input cause), m) []
  | notWritten {m' : Manifest} (reason : String)
      (hedit : m.setVersion a.dependencyType a.package a.target = .ok m') :
      Keeping a m (.error (.input (.unwritable m'.path reason)), m')
        [⟨.store m'.path m'.content, .error reason⟩]
  | written {m' : Manifest} {outcome : Except Failure Unit} {events : List Step}
      (hedit : m.setVersion a.dependencyType a.package a.target = .ok m')
      (hpublish : Publishing a outcome events) :
      Keeping a m (outcome, m') (⟨.store m'.path m'.content, .ok ()⟩ :: events)

/-- The calls that publish an upgrade tell how that went. -/
theorem Publishing.unique {a : Attempt} {outcome outcome' : Except Failure Unit}
    {events : List Step} (h : Publishing a outcome events) (h' : Publishing a outcome' events) :
    outcome = outcome' := by
  cases h <;> cases h' <;> rfl

theorem Keeping.unique {a : Attempt} {m : Manifest} {last last' : Except Failure Unit × Manifest}
    {events events' : List Step} (h : Keeping a m last events) (h' : Keeping a m last' events')
    (hevents : events = events') : last = last' := by
  cases h with
  | notEdited | notWritten => cases h' <;> simp_all
  | written hedit hpublish =>
    cases h' with
    | written hedit' hpublish' =>
      simp only [hedit, Except.ok.injEq] at hedit'
      subst hedit'
      cases hevents
      rw [hpublish.unique hpublish']
    | _ => simp_all

theorem publish_ensures (a : Attempt) : Ensures (publish a.underTest) (Publishing a) := by
  refine .call rfl fun staged => ?_
  cases staged with
  | error cause => exact .done (.notStaged cause)
  | ok =>
    refine .call rfl fun committed => ?_
    cases committed with
    | error cause => exact .done (.notCommitted cause)
    | ok =>
      refine .call rfl fun pushed => ?_
      cases pushed with
      | error cause => exact .done (.notPushed cause)
      | ok => exact .done .published

theorem commitSteps_ensures (a : Attempt) (m : Manifest) :
    Ensures (commitSteps a.underTest m) (Keeping a m) := by
  unfold commitSteps
  split
  next cause hedit => exact .done (.notEdited hedit)
  next m' hedit =>
    refine .call rfl fun written => ?_
    cases written with
    | error reason => exact .done (.notWritten reason hedit)
    | ok =>
      refine (publish_ensures a).bind fun outcome events hpublish => .done ?_
      rw [List.append_nil]
      exact .written hedit hpublish

/-! ## Undoing an upgrade -/

theorem path_of_putBack {a : Attempt} {m m' : Manifest} (h : putBack a m = .ok m') :
    m'.path = m.path := by
  unfold putBack at h
  split at h
  · exact Manifest.path_of_setSpec h
  · exact Manifest.path_of_setVersion h

/-- The ways in which undoing an upgrade can go: the former version is installed, what the manifest
declared is put back, and its file is restored and read again, up to the first step that fails. -/
inductive Undoing (a : Attempt) (m : Manifest) :
    Except Failure Unit × Manifest → List Step → Prop
  | notInstalled (cause : ToolError) :
      Undoing a m (.error (.tool cause), m)
        [⟨.add a.package a.previous a.dependencyType, .error cause⟩]
  | notPutBack {cause : InputError} (hback : putBack a m = .error cause) :
      Undoing a m (.error (.input cause), m)
        [⟨.add a.package a.previous a.dependencyType, .ok ()⟩]
  | notRestored {m' : Manifest} (cause : ToolError) (hback : putBack a m = .ok m') :
      Undoing a m (.error (.tool cause), m')
        [⟨.add a.package a.previous a.dependencyType, .ok ()⟩,
          ⟨.checkout m'.path, .error cause⟩]
  | notReadAgain {m' : Manifest} {found : File.Content} {cause : InputError}
      (hback : putBack a m = .ok m') (hread : Manifest.ofFile m'.path found = .error cause) :
      Undoing a m (.error (.input cause), m')
        [⟨.add a.package a.previous a.dependencyType, .ok ()⟩, ⟨.checkout m'.path, .ok ()⟩,
          ⟨.contentOf m'.path, found⟩]
  | undone {m' m'' : Manifest} {found : File.Content}
      (hback : putBack a m = .ok m') (hread : Manifest.ofFile m'.path found = .ok m'') :
      Undoing a m (.ok (), m'')
        [⟨.add a.package a.previous a.dependencyType, .ok ()⟩, ⟨.checkout m'.path, .ok ()⟩,
          ⟨.contentOf m'.path, found⟩]

theorem Undoing.unique {a : Attempt} {m : Manifest} {last last' : Except Failure Unit × Manifest}
    {events events' : List Step} (h : Undoing a m last events) (h' : Undoing a m last' events')
    (hevents : events = events') : last = last' := by
  cases h <;> cases h' <;> simp_all

theorem revertSteps_ensures (a : Attempt) (m : Manifest) :
    Ensures (revertSteps a.underTest m) (Undoing a m) := by
  refine .call rfl fun added => ?_
  cases added with
  | error cause => exact .done (.notInstalled cause)
  | ok =>
    simp only
    split
    next cause hback => exact .done (.notPutBack hback)
    next m' hback =>
      refine .call rfl fun restored => ?_
      cases restored with
      | error cause => exact .done (.notRestored cause hback)
      | ok =>
        refine .call rfl fun found => ?_
        split
        next cause hread => exact .done (.notReadAgain hback hread)
        next m'' hread => exact .done (.undone hback hread)

/-! ## Attempts -/

/-- Why an upgrade is to be undone after a verification, if it is. -/
def setback? : Except VerifyError Verdict → Option String
  | .ok .passed => none
  | .ok (.failed reason) => some reason
  | .error cause => some cause.message

theorem ne_passed_of_setback {answer : Except VerifyError Verdict} {reason : String}
    (h : setback? answer = some reason) : answer ≠ .ok .passed := by
  rintro rfl
  cases h

/-- Why a run is to stop after a verification whose upgrade was undone, if it is. -/
def haltAfter : Except VerifyError Verdict → Option String
  | .ok _ => none
  | .error cause => if cause = .cancelled then some cause.message else none

/-- Why a run is to stop after an attempt whose upgrade could not be kept. -/
def haltMessage (a : Attempt) : String :=
  "commit of " ++ a.package ++ " failed; working tree needs attention"

/-- The ways in which an attempt can go: the calls that are made with their answers, the state and
the note that the attempt ends with, and how it leaves the course of the run. -/
inductive Conduct (a : Attempt) (m : Manifest) :
    List Step → Attempt.State → Option String → Course → Prop
  | notApplied (cause : ToolError) :
      Conduct a m [⟨.upgrade a.package a.target, .error cause⟩]
        .applyFailed (some cause.message) ⟨m, none⟩
  | kept {m' : Manifest} {events : List Step} (hkeep : Keeping a m (.ok (), m') events) :
      Conduct a m
        (⟨.upgrade a.package a.target, .ok ()⟩ :: ⟨.verify a.underTest, .ok .passed⟩ :: events)
        .committed none ⟨m', none⟩
  | notKept {m' : Manifest} {events : List Step} {cause : Failure}
      (hkeep : Keeping a m (.error cause, m') events) :
      Conduct a m
        (⟨.upgrade a.package a.target, .ok ()⟩ :: ⟨.verify a.underTest, .ok .passed⟩ :: events)
        .commitFailed (some cause.message) ⟨m', some (haltMessage a)⟩
  | undone {m' : Manifest} {events : List Step} {answer : Except VerifyError Verdict}
      {reason : String} (hback : setback? answer = some reason)
      (hundo : Undoing a m (.ok (), m') events) :
      Conduct a m
        (⟨.upgrade a.package a.target, .ok ()⟩ :: ⟨.verify a.underTest, answer⟩ :: events)
        .reverted (some reason) ⟨m', haltAfter answer⟩
  | notUndone {m' : Manifest} {events : List Step} {answer : Except VerifyError Verdict}
      {reason : String} {cause : Failure} (hback : setback? answer = some reason)
      (hundo : Undoing a m (.error cause, m') events) :
      Conduct a m
        (⟨.upgrade a.package a.target, .ok ()⟩ :: ⟨.verify a.underTest, answer⟩ :: events)
        .revertFailed (some (reason ++ "; revert failed: " ++ cause.message))
        ⟨m', haltAfter answer⟩

/-- Keeping an upgrade asks for no verification. -/
theorem Keeping.not_verify_mem {a : Attempt} {m : Manifest}
    {last : Except Failure Unit × Manifest} {events : List Step} (h : Keeping a m last events)
    (b : Attempt) (answer : Except VerifyError Verdict) : ⟨.verify b, answer⟩ ∉ events := by
  cases h with
  | notEdited | notWritten => simp
  | written hedit hpublish => cases hpublish <;> simp

/-- Undoing an upgrade asks for no verification. -/
theorem Undoing.not_verify_mem {a : Attempt} {m : Manifest}
    {last : Except Failure Unit × Manifest} {events : List Step} (h : Undoing a m last events)
    (b : Attempt) (answer : Except VerifyError Verdict) : ⟨.verify b, answer⟩ ∉ events := by
  cases h <;> simp

/-- The verification of an attempt is the only one among its calls. -/
theorem Conduct.eq_of_verify_mem {a b : Attempt} {upgraded : Except ToolError Unit}
    {answer answer' : Except VerifyError Verdict} {events : List Step}
    (hrest : ⟨.verify b, answer'⟩ ∉ events)
    (hmem : ⟨.verify b, answer'⟩ ∈
      (⟨.upgrade a.package a.target, upgraded⟩ :: ⟨.verify a.underTest, answer⟩ :: events :
        List Step)) : answer' = answer := by
  obtain hupgrade | hverify | hevents := by simpa only [List.mem_cons] using hmem
  · cases hupgrade
  · cases hverify
    rfl
  · exact absurd hevents hrest

/-- The calls of an attempt, with their answers, tell how it ended and how it left the run. -/
theorem Conduct.unique {a : Attempt} {m : Manifest} {events events' : List Step}
    {state state' : Attempt.State} {note note' : Option String} {course course' : Course}
    (h : Conduct a m events state note course) (h' : Conduct a m events' state' note' course')
    (hevents : events = events') : state = state' ∧ note = note' ∧ course = course' := by
  cases h with
  | notApplied => cases h' <;> simp_all
  | kept hkeep | notKept hkeep =>
    cases h' with
    | kept hkeep' | notKept hkeep' =>
      have hlast := hkeep.unique hkeep' (by simpa using hevents)
      simp_all
    | notApplied => cases hevents
    -- the answer of the verification tells keeping from undoing
    | undone hback | notUndone hback =>
      exact absurd (by simp_all) (ne_passed_of_setback hback)
  | undone hback hundo | notUndone hback hundo =>
    cases h' with
    | undone hback' hundo' | notUndone hback' hundo' =>
      have hlast := hundo.unique hundo' (by simp_all)
      simp_all
    | notApplied => cases hevents
    | kept | notKept => exact absurd (by simp_all) (ne_passed_of_setback hback)

/-- An attempt ends as one of the ways in which it can go has it end. -/
def Ends (a : Attempt) (m : Manifest) (last : Attempt × Course) (events : List Step) : Prop :=
  ∃ state note time, last.1 = a.ended state note time ∧ Conduct a m events state note last.2

/-- How undoing an upgrade for a reason ends an attempt. The run goes on. -/
inductive Reverting (a : Attempt) (m : Manifest) (reason : String) :
    Attempt × Course → List Step → Prop
  | undone {m' : Manifest} {events : List Step} (time : Timestamp)
      (hundo : Undoing a m (.ok (), m') events) :
      Reverting a m reason (a.ended .reverted (some reason) time, ⟨m', none⟩) events
  | notUndone {m' : Manifest} {events : List Step} {cause : Failure} (time : Timestamp)
      (hundo : Undoing a m (.error cause, m') events) :
      Reverting a m reason
        (a.ended .revertFailed (some (reason ++ "; revert failed: " ++ cause.message)) time,
          ⟨m', none⟩) events

theorem Reverting.course_eq {a : Attempt} {m : Manifest} {reason : String}
    {last : Attempt × Course} {events : List Step} (h : Reverting a m reason last events) :
    { last.2 with halted := none } = last.2 := by
  cases h <;> rfl

/-- An attempt whose upgrade is undone after a verification goes in one of the ways in which
attempts can go. -/
theorem Reverting.ends {a : Attempt} {m : Manifest} {reason : String}
    {last : Attempt × Course} {events : List Step} (h : Reverting a m reason last events)
    (answer : Except VerifyError Verdict) (hback : setback? answer = some reason) :
    Ends a m (last.1, { last.2 with halted := haltAfter answer })
      (⟨.upgrade a.package a.target, .ok ()⟩ :: ⟨.verify a.underTest, answer⟩ :: events) := by
  cases h with
  | undone time hundo => exact ⟨_, _, time, rfl, .undone hback hundo⟩
  | notUndone time hundo => exact ⟨_, _, time, rfl, .notUndone hback hundo⟩

theorem commit_ensures (a : Attempt) (hnote : a.note = none) (m : Manifest) :
    Ensures (commit a.underTest rfl ⟨m, none⟩) fun last events =>
      Ends a m last (⟨.upgrade a.package a.target, .ok ()⟩ ::
        ⟨.verify a.underTest, .ok .passed⟩ :: events) := by
  refine (commitSteps_ensures a m).bind fun (outcome, m') events hkeep => ?_
  cases outcome with
  | ok =>
    refine ensures_now fun time => .done ⟨.committed, none, time, ?_, ?_⟩
    · simp [Attempt.finish, Attempt.moveTo, Attempt.underTest, Attempt.ended, hnote]
    · rw [List.append_nil]
      exact .kept hkeep
  | error cause =>
    refine ensures_tell (ensures_now fun time => .done ⟨.commitFailed, _, time, rfl, ?_⟩)
    rw [List.append_nil]
    exact .notKept hkeep

theorem revert_ensures (a : Attempt) (m : Manifest) (reason : String) :
    Ensures (revert a.underTest rfl reason ⟨m, none⟩) (Reverting a m reason) := by
  refine (revertSteps_ensures a m).bind fun (outcome, m') events hundo => ?_
  cases outcome with
  | ok =>
    refine ensures_now fun time => .done ?_
    rw [List.append_nil]
    exact .undone time hundo
  | error cause =>
    refine ensures_tell (ensures_now fun time => .done ?_)
    rw [List.append_nil]
    exact .notUndone time hundo

theorem conclude_ensures (a : Attempt) (hnote : a.note = none) (m : Manifest)
    (answer : Except VerifyError Verdict) :
    Ensures (conclude a.underTest rfl answer ⟨m, none⟩) fun last events =>
      Ends a m last (⟨.upgrade a.package a.target, .ok ()⟩ ::
        ⟨.verify a.underTest, answer⟩ :: events) := by
  match answer with
  | .ok .passed => exact ensures_tell (commit_ensures a hnote m)
  | .ok (.failed reason) =>
    refine ensures_tell (ensures_tell ((revert_ensures a m reason).mono fun last events h => ?_))
    have hends := h.ends (.ok (.failed reason)) rfl
    rwa [haltAfter, h.course_eq] at hends
  | .error cause =>
    refine ensures_tell ((revert_ensures a m cause.message).bind fun last events h => .done ?_)
    have hends := h.ends (.error cause) rfl
    rw [List.append_nil]
    split
    next hcancelled => simpa only [haltAfter, if_pos hcancelled] using hends
    next hcancelled => simpa only [haltAfter, if_neg hcancelled, h.course_eq] using hends

/-- Whatever the collaborators do, an attempt that is not a plan goes in one of the ways in which
attempts can go. -/
theorem apply_ensures (a : Attempt) (h : a.state = .selected) (hnote : a.note = none)
    (m : Manifest) : Ensures (apply a h ⟨m, none⟩) (Ends a m) := by
  refine .call rfl fun upgraded => ?_
  cases upgraded with
  | error cause =>
    exact ensures_tell (ensures_now fun time => .done ⟨_, _, time, rfl, .notApplied cause⟩)
  | ok => exact .call rfl fun answer => conclude_ensures a hnote m answer

end Upgrade

end Patchwise

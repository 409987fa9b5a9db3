import Patchwise.Proofs.Upgrade.Halting

/-!
# Runs whose moves are checked

An attempt goes from state to state by moves, and a move that the diagram does not have would be a
fault of the program. Here is the program with a check at every move, which gives a whole run up at
the first illegal one. It never does: it is the program without checks, call by call. So attempts
end where the diagram ends.

## Main definitions

- `Session.completed`, `Session.unlessFailed` — sessions that may give up
- `Upgrade.Guarded.run` — a run with a check at every move
- `Attempt.IsSettled`, `SectionResult.IsSettled` — what holds of an attempt and a section at the end

## Main results

- `Upgrade.guarded_run_completes` — no check fails, and a run leaves everything settled
-/

namespace Patchwise

/-! ## Sessions that may give up -/

namespace Session

variable {I : Interface} {α β ε : Type}

/-- A session as one that may give up, but does not. -/
def completed (session : Session I α) : Session I (Except ε α) :=
  session.bind fun value => .done (.ok value)

/-- Goes on with another session unless the first one gave up. -/
def unlessFailed (session : Session I (Except ε α)) (rest : α → Session I (Except ε β)) :
    Session I (Except ε β) :=
  session.bind fun outcome =>
    match outcome with
    | .ok value => rest value
    | .error cause => .done (.error cause)

@[simp]
theorem completed_unlessFailed (session : Session I α) (rest : α → Session I (Except ε β)) :
    session.completed.unlessFailed rest = session.bind rest := by
  simp only [completed, unlessFailed, bind_assoc, done_bind]

@[simp]
theorem completed_bind (session : Session I α) (rest : α → Session I β) :
    (session.bind rest).completed (ε := ε) = session.bind fun value => (rest value).completed := by
  simp only [completed, bind_assoc]

@[simp]
theorem completed_call (request : I.Call) (next : I.Answer request → Session I α) :
    (Session.call request next).completed (ε := ε) =
      .call request fun answer => (next answer).completed :=
  rfl

@[simp]
theorem completed_done (value : α) :
    (Session.done value : Session I α).completed (ε := ε) = .done (.ok value) :=
  rfl

end Session

namespace Upgrade

open Session

/-! ## Checked moves -/

namespace Guarded

/-- A part of a run that is given up at an illegal move. -/
abbrev Part (α : Type) : Type :=
  Course → Session interface (Except Attempt.IllegalMove (α × Course))

/-- Makes a move. The clock is looked at if the attempt ends with it. -/
def timed (next : Attempt.State) (step : Timestamp → Except Attempt.IllegalMove Attempt) :
    Session interface (Except Attempt.IllegalMove Attempt) :=
  if next.isTerminal then now.bind fun time => .done (step time) else .done (step default)

def move (a : Attempt) (next : Attempt.State) :
    Session interface (Except Attempt.IllegalMove Attempt) :=
  timed next (a.advance next)

/-- Makes a move and says why. -/
def moveSaying (a : Attempt) (next : Attempt.State) (note : String) :
    Session interface (Except Attempt.IllegalMove Attempt) :=
  timed next (a.failAs next note)

section Moves

variable {α : Type} {a : Attempt} {next : Attempt.State} (h : a.state.canMoveTo next = true)
  (rest : Attempt → Session interface (Except Attempt.IllegalMove α))

include h

theorem move_on (hnext : next.isTerminal = false) :
    (move a next).unlessFailed rest = rest (a.moveTo next h) := by
  simp [move, timed, Attempt.advance, h, hnext, unlessFailed]

theorem move_to_end (hnext : next.isTerminal = true) :
    (move a next).unlessFailed rest = now.bind fun time => rest (a.finish next time h) := by
  simp [move, timed, Attempt.advance, h, hnext, unlessFailed, Session.bind_assoc]

theorem moveSaying_to_end (hnext : next.isTerminal = true) (note : String) :
    (moveSaying a next note).unlessFailed rest =
      now.bind fun time => rest (a.fail next note time h) := by
  simp [moveSaying, timed, Attempt.failAs, Attempt.advance, Attempt.fail, h, hnext, Except.map,
    unlessFailed, Session.bind_assoc]

end Moves

/-! ## The program with checks -/

def commit (a : Attempt) : Part Attempt := fun course =>
  (commitSteps a course.manifest).bind fun (outcome, manifest) =>
    match outcome with
    | .ok () =>
      (move a .committed).unlessFailed fun a => .done (.ok (a, { course with manifest }))
    | .error cause =>
      (tell (.error ("Failed to commit " ++ a.package ++ ": " ++ cause.message))).bind fun _ =>
        (moveSaying a .commitFailed cause.message).unlessFailed fun a =>
          .done (.ok (a, { manifest, halted := some (haltMessage a) }))

def revert (a : Attempt) (reason : String) : Part Attempt := fun course =>
  (revertSteps a course.manifest).bind fun (outcome, manifest) =>
    match outcome with
    | .ok () =>
      (moveSaying a .reverted reason).unlessFailed fun a =>
        .done (.ok (a, { course with manifest }))
    | .error cause =>
      (tell (.error ("Failed to revert " ++ a.package ++ ": " ++ cause.message))).bind fun _ =>
        (moveSaying a .revertFailed (reason ++ "; revert failed: " ++ cause.message)).unlessFailed
          fun a => .done (.ok (a, { course with manifest }))

def conclude (a : Attempt) (answer : Except VerifyError Verdict) : Part Attempt := fun course =>
  match answer with
  | .ok .passed =>
    (tell (.success ("Tests passed. " ++ a.package ++ " updated to " ++ a.target))).bind fun _ =>
      commit a course
  | .ok (.failed reason) =>
    (tell (.warning ("Verification failed. Reverting " ++ a.package ++ "..."))).bind fun _ =>
      (tell (.detail reason)).bind fun _ => revert a reason course
  | .error cause =>
    (tell (.warning ("Verification incomplete (" ++ cause.message ++ "). Reverting " ++ a.package ++
        "..."))).bind fun _ =>
      (revert a cause.message course).unlessFailed fun (a, course) =>
        .done (.ok (a, if cause = .cancelled then { course with halted := some cause.message }
          else course))

def apply (a : Attempt) : Part Attempt := fun course =>
  (move a .applying).unlessFailed fun applying =>
    .call (Call.upgrade applying.package applying.target)
      fun (upgraded : Except ToolError Unit) =>
        match upgraded with
        | .error cause =>
          (tell (.error ("Failed to update " ++ a.package ++ ": " ++ cause.message))).bind fun _ =>
            (moveSaying applying .applyFailed cause.message).unlessFailed fun a =>
              .done (.ok (a, course))
        | .ok () =>
          (move applying .verifying).unlessFailed fun verifying =>
            .call (Call.verify verifying) fun (answer : Except VerifyError Verdict) =>
              conclude verifying answer course

def attempt (o : Options) (dependencyType : String) (r : Record) : Part Attempt := fun course =>
  let a := selected o course.manifest dependencyType r
  if o.dryRun then
    (tell (.step ("Would update " ++ versions a))).bind fun _ =>
      (move a .planned).unlessFailed fun a => .done (.ok (a, course))
  else
    (tell (.step ("Updating " ++ versions a ++ "..."))).bind fun _ => apply a course

/-- Parts of a run, one after the other, until the run is to stop or gives up. -/
def series {α β : Type} (part : α → Part β) : List α → Part (List β)
  | [], course => .done (.ok ([], course))
  | a :: rest, course =>
    (shouldStop course).bind fun (stop, course) =>
      if stop then .done (.ok ([], course))
      else
        (part a course).unlessFailed fun (b, course) =>
          (series part rest course).unlessFailed fun (bs, course) =>
            .done (.ok (b :: bs, course))

def processSection (o : Options) (dependencyType : String) : Part SectionResult := fun course =>
  (tell (.step ("Checking outdated " ++ dependencyType ++ "..."))).bind fun _ =>
    (outdatedRecords o course.manifest dependencyType).bind fun found =>
      match found with
      | .error cause =>
        (tell (.error ("Skipping " ++ dependencyType ++ ": " ++ cause.message))).bind fun _ =>
          .done (.ok (.failed dependencyType cause.message, course))
      | .ok records =>
        let groups := Group.partition records o.strategy.reach
        (series (attempt o dependencyType) (Group.candidates groups) course).unlessFailed
          fun (attempts, course) =>
            .done (.ok ({ dependencyType, outdated := records.length, groups := groups.length,
                          attempts, error := none }, course))

/-- A run in which every move is checked when it is made. At one that is none the run is given up,
and the complaint is all that is left of it. -/
def run (o : Options) (m : Manifest) :
    Session interface (Except Attempt.IllegalMove (Summary × Manifest)) :=
  now.bind fun started =>
    (series (processSection o) o.dependencyTypes ⟨m, none⟩).unlessFailed
      fun (sections, course) =>
        now.bind fun finished =>
          .done (.ok ({ strategy := o.strategy, dryRun := o.dryRun, startedAt := started,
                        finishedAt := some finished, sections, halted := course.halted },
            course.manifest))

/-! ## No check fails -/

theorem commit_eq (a : Attempt) (h : a.state = .verifying) (course : Course) :
    commit a course = (Upgrade.commit a h course).completed := by
  have hcommitted : a.state.canMoveTo .committed = true := by rw [h]; rfl
  have hfailed : a.state.canMoveTo .commitFailed = true := by rw [h]; rfl
  unfold commit Upgrade.commit
  rw [completed_bind]
  congr 1
  funext (outcome, manifest)
  cases outcome with
  | ok =>
    simp only [move_to_end hcommitted _ rfl, completed_bind, completed_done]
  | error cause =>
    simp only [moveSaying_to_end hfailed _ rfl, completed_bind, completed_done]
    rfl

theorem revert_eq (a : Attempt) (h : a.state = .verifying) (reason : String) (course : Course) :
    revert a reason course = (Upgrade.revert a h reason course).completed := by
  have hreverted : a.state.canMoveTo .reverted = true := by rw [h]; rfl
  have hfailed : a.state.canMoveTo .revertFailed = true := by rw [h]; rfl
  unfold revert Upgrade.revert
  rw [completed_bind]
  congr 1
  funext (outcome, manifest)
  cases outcome with
  | ok =>
    simp only [moveSaying_to_end hreverted _ rfl, completed_bind, completed_done]
  | error cause =>
    simp only [moveSaying_to_end hfailed _ rfl, completed_bind, completed_done]

theorem conclude_eq (a : Attempt) (h : a.state = .verifying)
    (answer : Except VerifyError Verdict) (course : Course) :
    conclude a answer course = (Upgrade.conclude a h answer course).completed := by
  match answer with
  | .ok .passed =>
    simp only [conclude, Upgrade.conclude, commit_eq a h, completed_bind]
  | .ok (.failed reason) =>
    simp only [conclude, Upgrade.conclude, revert_eq a h, completed_bind]
  | .error cause =>
    simp only [conclude, Upgrade.conclude, revert_eq a h, completed_bind, completed_unlessFailed,
      completed_done]

theorem apply_eq (a : Attempt) (h : a.state = .selected) (course : Course) :
    apply a course = (Upgrade.apply a h course).completed := by
  have happlying : a.state.canMoveTo .applying = true := by rw [h]; rfl
  have hfailed : (a.moveTo .applying happlying).state.canMoveTo .applyFailed = true := rfl
  have hverifying : (a.moveTo .applying happlying).state.canMoveTo .verifying = true := rfl
  unfold apply Upgrade.apply
  rw [move_on happlying _ rfl, completed_call]
  congr 1
  funext upgraded
  cases upgraded with
  | error cause =>
    simp only [moveSaying_to_end hfailed _ rfl, completed_bind, completed_done]
  | ok =>
    simp only [move_on hverifying _ rfl, completed_call]
    congr 1
    funext answer
    exact conclude_eq _ rfl answer course

theorem attempt_eq (o : Options) (dependencyType : String) (r : Record) (course : Course) :
    attempt o dependencyType r course = (Upgrade.attempt o dependencyType r course).completed := by
  have hplanned : (selected o course.manifest dependencyType r).state.canMoveTo .planned = true :=
    rfl
  unfold attempt Upgrade.attempt
  cases o.dryRun with
  | true =>
    simp only [if_true, move_to_end hplanned _ rfl, completed_bind, completed_done]
  | false =>
    simp only [Bool.false_eq_true, if_false, completed_bind]
    congr 1
    funext _
    exact apply_eq _ rfl course

/-- Parts in a row do not give up if none of them does. -/
theorem series_eq {α β : Type} {part : α → Part β} {part' : α → Upgrade.Part β}
    {loop : List α → Upgrade.Part (List β)}
    (hnil : ∀ course, loop [] course = .done ([], course))
    (hcons : ∀ a rest course, loop (a :: rest) course =
      (shouldStop course).bind fun (stop, course) =>
        if stop then .done ([], course)
        else
          (part' a course).bind fun (b, course) =>
            (loop rest course).bind fun (bs, course) => .done (b :: bs, course))
    (hpart : ∀ a course, part a course = (part' a course).completed) (inputs : List α)
    (course : Course) : series part inputs course = (loop inputs course).completed := by
  induction inputs generalizing course with
  | nil => rw [hnil, completed_done, series]
  | cons a rest ih =>
    rw [hcons, completed_bind, series]
    congr 1
    funext (stop, course)
    cases stop with
    | true => simp only [if_true, completed_done]
    | false =>
      simp only [Bool.false_eq_true, if_false, hpart, ih, completed_unlessFailed, completed_bind,
        completed_done]

theorem processSection_eq (o : Options) (dependencyType : String) (course : Course) :
    processSection o dependencyType course =
      (Upgrade.processSection o dependencyType course).completed := by
  have hattempts : ∀ records course, series (attempt o dependencyType) records course =
      (attempts o dependencyType records course).completed :=
    series_eq (fun _ => rfl) (fun _ _ _ => rfl) (attempt_eq o dependencyType)
  unfold processSection Upgrade.processSection
  rw [completed_bind]
  congr 1
  funext _
  rw [completed_bind]
  congr 1
  funext found
  cases found with
  | error cause => simp only [completed_bind, completed_done]
  | ok records =>
    simp only [hattempts, completed_unlessFailed, completed_bind, completed_done]

/-- No move of a run is illegal: the run whose moves are checked is the run. -/
theorem run_eq (o : Options) (m : Manifest) : run o m = (Upgrade.run o m).completed := by
  have hsections : ∀ dependencyTypes course,
      series (processSection o) dependencyTypes course =
        (processSections o dependencyTypes course).completed :=
    series_eq (fun _ => rfl) (fun _ _ _ => rfl) (processSection_eq o)
  unfold run Upgrade.run
  simp only [hsections, completed_unlessFailed, completed_bind, completed_done]

end Guarded

end Upgrade

/-! ## How attempts and sections end -/

/-- How an attempt stands once it is over. It says why it ended unless it was committed or only
planned. -/
structure Attempt.IsSettled (dryRun : Bool) (a : Attempt) : Prop where
  isTerminal : a.state.isTerminal = true
  isSome_finishedAt : a.finishedAt.isSome = true
  planned_iff : a.state = .planned ↔ dryRun = true
  isSome_note_iff : a.note.isSome = true ↔
    a.state = .applyFailed ∨ a.state = .commitFailed ∨ a.state = .reverted ∨
      a.state = .revertFailed
  previous_eq : a.previous = a.record.current

/-- How a section stands once it is over: its attempts are, and if it could not be processed then it
has none and nothing was counted. -/
structure SectionResult.IsSettled (dryRun : Bool) (result : SectionResult) : Prop where
  attempts : ∀ a ∈ result.attempts, a.IsSettled dryRun
  of_error : result.error.isSome = true →
    result.attempts = [] ∧ result.outdated = 0 ∧ result.groups = 0

namespace Upgrade

theorem Conduct.isSome_note_iff {a : Attempt} {m : Manifest} {events : List Step}
    {state : Attempt.State} {note : Option String} {course : Course}
    (h : Conduct a m events state note course) :
    note.isSome = true ↔
      state = .applyFailed ∨ state = .commitFailed ∨ state = .reverted ∨ state = .revertFailed := by
  cases h <;> simp

theorem Conduct.ne_planned {a : Attempt} {m : Manifest} {events : List Step}
    {state : Attempt.State} {note : Option String} {course : Course}
    (h : Conduct a m events state note course) : state ≠ .planned := by
  cases h <;> simp

theorem Attempted.isSettled {o : Options} {dependencyType : String} {r : Record} {m : Manifest}
    {a : Attempt} {course : Course} {events : List Step}
    (h : Attempted o dependencyType r m (a, course) events) : a.IsSettled o.dryRun := by
  cases h with
  | planned time hdry =>
    exact ⟨rfl, rfl, iff_of_true rfl hdry, by simp [Attempt.ended, selected, Attempt.start], rfl⟩
  | conducted hlive hends =>
    obtain ⟨state, note, time, hlast, hconduct⟩ := hends
    dsimp only at hlast
    subst hlast
    have hacts : ¬ o.dryRun = true := by
      rw [hlive]
      simp
    exact ⟨hconduct.isTerminal, rfl, iff_of_false hconduct.ne_planned hacts,
      hconduct.isSome_note_iff, rfl⟩

theorem Processed.isSettled {o : Options} {dependencyType : String} {m : Manifest}
    {result : SectionResult} {course : Course} {events : List Step}
    (h : Processed o dependencyType m (result, course) events) : result.IsSettled o.dryRun := by
  cases h with
  | notReported | notRead =>
    refine ⟨?_, fun _ => ⟨rfl, rfl, rfl⟩⟩
    intro a ha
    cases ha
  | processed hselect hseries =>
    refine ⟨hseries.forall_mem fun hattempt => hattempt.isSettled, ?_⟩
    intro herror
    cases herror

/-- A run never makes an illegal move and leaves everything settled. The run whose moves are checked
as they are made is the run itself, so no check fails, and in whatever way the collaborators answer,
each attempt is over in the end, and a section that could not be processed counts for nothing. -/
theorem guarded_run_completes (o : Options) (m : Manifest) :
    Guarded.run o m = (run o m).completed ∧
      ∀ {σ : Type} (serve : Collaborator interface σ) (s : σ),
        ∀ result ∈ ((run o m).exec serve s).1.1.sections, result.IsSettled o.dryRun :=
  ⟨Guarded.run_eq o m, fun serve s =>
    (run_ensures o m serve s).forall_mem fun hpart => hpart.isSettled⟩

/-- A run in which one upgrade cannot be undone and the other one is kept is settled. -/
theorem guarded_run_completes_notUndone :
    ∃ result,
      ((run dependenciesOnly twoPackages).exec
        (leftFails (.error (.failed "pnpm add" "lockfile busy"))) ()).1.1.sections.head? =
          some result ∧
      result.attempts.map (·.state) = [.revertFailed, .committed] ∧
      result.IsSettled false := by
  have hstates : (((run dependenciesOnly twoPackages).exec
      (leftFails (.error (.failed "pnpm add" "lockfile busy"))) ()).1.1.sections.head?.map
        fun result => result.attempts.map (·.state)) = some [.revertFailed, .committed] := by
    decide +kernel
  obtain ⟨result, hresult, hattempts⟩ := Option.map_eq_some_iff.1 hstates
  obtain ⟨-, hsettled⟩ := guarded_run_completes dependenciesOnly twoPackages
  exact ⟨result, hresult, hattempts, hsettled _ () result (List.mem_of_mem_head? hresult)⟩

end Upgrade

end Patchwise

import Patchwise.Group
import Patchwise.Manifest
import Patchwise.Summary
import Patchwise.Upgrade.Collaborators
import Patchwise.Upgrade.Options

/-!
# Runs

A run takes the manifest sections one after the other. In each it selects one package from every
group of patch steps and drives it through an attempt: apply, verify, and then commit or revert.

## Main definitions

- `Upgrade.selection` — the records of a report that are considered
- `Upgrade.commitSteps`, `Upgrade.revertSteps` — keeping an upgrade, and undoing one
- `Upgrade.attempt` — one package's attempt
- `Upgrade.processSection` — one manifest section
- `Upgrade.run` — a whole run

## Design notes

Besides its result each part answers how it leaves the `Course` of the run: the manifest in memory,
and why the run is to stop, once it is. A step that fails leaves the manifest as far as it had come.
A section whose report is no good is given up alone, and so is an attempt whose tools fail; only a
commit that fails and the user's wish stop the run.
-/

namespace Patchwise.Upgrade

/-- What a run takes along from part to part. -/
structure Course where
  manifest : Manifest
  /-- Why the run is to stop, if it is. -/
  halted : Option String

/-- A part of a run: it ends with a value, and leaves the course in some state. -/
abbrev Part (α : Type) : Type := Course → Session interface (α × Course)

/-! ## Keeping an upgrade -/

/-- Goes on after a step that may fail. -/
def andThen {ε α : Type} (cause : ε → Failure) (step : Except ε Unit)
    (rest : Session interface (Except Failure α)) : Session interface (Except Failure α) :=
  match step with
  | .ok () => rest
  | .error e => .done (.error (cause e))

/-- Stages, commits and pushes an upgrade whose manifest is written. -/
def publish (a : Attempt) : Session interface (Except Failure Unit) :=
  .call Call.addAll fun (staged : Except ToolError Unit) =>
    andThen .tool staged <|
      .call (Call.commit a.commitMessage) fun (committed : Except ToolError Unit) =>
        andThen .tool committed <|
          .call Call.push fun (pushed : Except ToolError Unit) =>
            andThen .tool pushed (.done (.ok ()))

def save (m : Manifest) : Session interface (Except Failure Unit) :=
  .call (Call.store m.path m.content) fun (written : Except String Unit) =>
    .done (written.mapError fun reason => .input (.unwritable m.path reason))

/-- The steps that keep a verified upgrade: the manifest declares the target and is written, and
everything is committed and pushed. -/
def commitSteps (a : Attempt) (m : Manifest) :
    Session interface (Except Failure Unit × Manifest) :=
  match m.setVersion a.dependencyType a.package a.target with
  | .error cause => .done (.error (.input cause), m)
  | .ok m =>
    (save m).bind fun saved =>
      match saved with
      | .error cause => .done (.error cause, m)
      | .ok () => (publish a).bind fun published => .done (published, m)

/-- Keeps a verified upgrade. If that fails there is an upgrade in the working tree that is not
committed, so the run is to stop. -/
def commit (a : Attempt) (h : a.state = .verifying) : Part Attempt := fun course =>
  (commitSteps a course.manifest).bind fun (outcome, manifest) =>
    match outcome with
    | .ok () =>
      now.bind fun time =>
        .done (a.finish .committed time (by rw [h]; rfl), { course with manifest })
    | .error cause =>
      (tell (.error ("Failed to commit " ++ a.package ++ ": " ++ cause.message))).bind fun _ =>
        now.bind fun time =>
          .done (a.fail .commitFailed cause.message time (by rw [h]; rfl),
            { manifest,
              halted := some ("commit of " ++ a.package ++
                " failed; working tree needs attention") })

/-! ## Undoing an upgrade -/

/-- Declares for the package what was declared before the attempt. -/
def putBack (a : Attempt) (m : Manifest) : Except InputError Manifest :=
  match a.declared with
  | some spec => m.setSpec a.dependencyType a.package spec
  | none => m.setVersion a.dependencyType a.package a.previous

/-- The steps that undo an upgrade: the former version is installed, the manifest declares what it
did before, and its file is restored and read again. -/
def revertSteps (a : Attempt) (m : Manifest) :
    Session interface (Except Failure Unit × Manifest) :=
  .call (Call.add a.package a.previous a.dependencyType) fun (added : Except ToolError Unit) =>
    match added with
    | .error cause => .done (.error (.tool cause), m)
    | .ok () =>
      match putBack a m with
      | .error cause => .done (.error (.input cause), m)
      | .ok m =>
        .call (Call.checkout m.path) fun (restored : Except ToolError Unit) =>
          match restored with
          | .error cause => .done (.error (.tool cause), m)
          | .ok () =>
            .call (Call.contentOf m.path) fun (found : File.Content) =>
              match Manifest.ofFile m.path found with
              | .error cause => .done (.error (.input cause), m)
              | .ok m => .done (.ok (), m)

/-- Undoes an upgrade for a reason. -/
def revert (a : Attempt) (h : a.state = .verifying) (reason : String) : Part Attempt :=
  fun course =>
    (revertSteps a course.manifest).bind fun (outcome, manifest) =>
      match outcome with
      | .ok () =>
        now.bind fun time =>
          .done (a.fail .reverted reason time (by rw [h]; rfl), { course with manifest })
      | .error cause =>
        (tell (.error ("Failed to revert " ++ a.package ++ ": " ++ cause.message))).bind fun _ =>
          now.bind fun time =>
            .done (a.fail .revertFailed (reason ++ "; revert failed: " ++ cause.message) time
                (by rw [h]; rfl),
              { course with manifest })

/-! ## Attempts -/

/-- What follows from the answer of a verification. -/
def conclude (a : Attempt) (h : a.state = .verifying) (answer : Except VerifyError Verdict) :
    Part Attempt := fun course =>
  match answer with
  | .ok .passed =>
    (tell (.success ("Tests passed. " ++ a.package ++ " updated to " ++ a.target))).bind fun _ =>
      commit a h course
  | .ok (.failed reason) =>
    (tell (.warning ("Verification failed. Reverting " ++ a.package ++ "..."))).bind fun _ =>
      (tell (.detail reason)).bind fun _ =>
        revert a h reason course
  | .error cause =>
    (tell (.warning ("Verification incomplete (" ++ cause.message ++ "). Reverting " ++ a.package ++
        "..."))).bind fun _ =>
      (revert a h cause.message course).bind fun (a, course) =>
        .done (a, if cause = .cancelled then { course with halted := some cause.message }
          else course)

def apply (a : Attempt) (h : a.state = .selected) : Part Attempt := fun course =>
  let applying := a.moveTo .applying (by rw [h]; rfl)
  .call (Call.upgrade a.package a.target) fun (upgraded : Except ToolError Unit) =>
    match upgraded with
    | .error cause =>
      (tell (.error ("Failed to update " ++ a.package ++ ": " ++ cause.message))).bind fun _ =>
        now.bind fun time =>
          .done (applying.fail .applyFailed cause.message time rfl, course)
    | .ok () =>
      let verifying := applying.moveTo .verifying rfl
      .call (Call.verify verifying) fun (answer : Except VerifyError Verdict) =>
        conclude verifying rfl answer course

/-- The versions of an attempt, as a notice tells them. -/
def versions (a : Attempt) : String :=
  a.package ++ " (current: " ++ a.previous ++ ", target: " ++ a.target ++ ")"

/-- The attempt that a record is selected for. -/
def selected (o : Options) (m : Manifest) (dependencyType : String) (r : Record) : Attempt :=
  { Attempt.start r dependencyType (r.target o.strategy.reach) with
    declared := m.specOf dependencyType r.name }

/-- One package's attempt. In a dry run it is only planned. -/
def attempt (o : Options) (dependencyType : String) (r : Record) : Part Attempt := fun course =>
  let a := selected o course.manifest dependencyType r
  if o.dryRun then
    (tell (.step ("Would update " ++ versions a))).bind fun _ =>
      now.bind fun time => .done (a.finish .planned time rfl, course)
  else
    (tell (.step ("Updating " ++ versions a ++ "..."))).bind fun _ =>
      apply a rfl course

/-! ## Sections and runs -/

/-- Notes that the run is to stop if the user asks for it, and answers whether it is to stop. -/
def shouldStop : Part Bool := fun course =>
  match course.halted with
  | some _ => .done (true, course)
  | none =>
    .call Call.isCancelled fun (cancelled : Bool) =>
      if cancelled then .done (true, { course with halted := some "cancelled by user" })
      else .done (false, course)

/-- The records of a report that are considered: those of packages that the manifest declares and
that pass the filters. -/
def selection (o : Options) (m : Manifest) (dependencyType : String) (report : Report) :
    Except ReportError (List Record) := do
  let records ← report.records
  return records.filter fun r => m.declares dependencyType r.name && o.admits r.name

/-- The considered records of a section, or the failure that keeps them from being known. -/
def outdatedRecords (o : Options) (m : Manifest) (dependencyType : String) :
    Session interface (Except Failure (List Record)) :=
  .call (Call.outdated dependencyType) fun (answer : Except Failure Report) =>
    match answer with
    | .error cause => .done (.error cause)
    | .ok report => .done ((selection o m dependencyType report).mapError .report)

/-- The attempts of selected records, one after the other, until the run is to stop. -/
def attempts (o : Options) (dependencyType : String) : List Record → Part (List Attempt)
  | [], course => .done ([], course)
  | r :: rest, course =>
    (shouldStop course).bind fun (stop, course) =>
      if stop then .done ([], course)
      else
        (attempt o dependencyType r course).bind fun (a, course) =>
          (attempts o dependencyType rest course).bind fun (more, course) =>
            .done (a :: more, course)

def processSection (o : Options) (dependencyType : String) : Part SectionResult := fun course =>
  (tell (.step ("Checking outdated " ++ dependencyType ++ "..."))).bind fun _ =>
    (outdatedRecords o course.manifest dependencyType).bind fun found =>
      match found with
      | .error cause =>
        (tell (.error ("Skipping " ++ dependencyType ++ ": " ++ cause.message))).bind fun _ =>
          .done (.failed dependencyType cause.message, course)
      | .ok records =>
        let groups := Group.partition records o.strategy.reach
        (attempts o dependencyType (Group.candidates groups) course).bind fun (attempts, course) =>
          .done ({ dependencyType, outdated := records.length, groups := groups.length, attempts,
                   error := none }, course)

/-- Manifest sections, one after the other, until the run is to stop. -/
def processSections (o : Options) : List String → Part (List SectionResult)
  | [], course => .done ([], course)
  | dependencyType :: rest, course =>
    (shouldStop course).bind fun (stop, course) =>
      if stop then .done ([], course)
      else
        (processSection o dependencyType course).bind fun (result, course) =>
          (processSections o rest course).bind fun (results, course) =>
            .done (result :: results, course)

/-- A whole run: what it found and did, and the manifest as it leaves it. -/
def run (o : Options) (m : Manifest) : Session interface (Summary × Manifest) :=
  now.bind fun started =>
    (processSections o o.dependencyTypes ⟨m, none⟩).bind fun (sections, course) =>
      now.bind fun finished =>
        .done ({ strategy := o.strategy, dryRun := o.dryRun, startedAt := started,
                 finishedAt := some finished, sections, halted := course.halted },
          course.manifest)

end Patchwise.Upgrade

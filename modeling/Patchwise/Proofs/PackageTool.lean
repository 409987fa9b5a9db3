import Patchwise.Proofs.Project

/-!
# Package managers that print nothing

A package manager says that it failed whenever anything is outdated, so whether it did its work is
told by what it prints. One that fails without a report is told from one that finds nothing outdated
only if it prints lines: where it prints an object, no text at all is an empty object.

## Main definitions

- `PackageTool.HoldsReport` — what a package manager has printed holds a report
- `PackageTool.IsSilentFailure` — a package manager has failed without a report
- `PackageTool.IsTaken` — what is made of a package manager's answer for a section

## Main results

- `PackageTool.silence_isTaken` — the answers for which a section is reported on
- `PackageTool.npm_failure_unnoticed` — a failure that looks as if nothing were outdated
-/

namespace Patchwise

open Session

/-! ## Sections without anything to attempt -/

namespace Upgrade

variable {σ : Type}

/-- What a section is announced with. -/
def announcement (dependencyType : String) : Notice :=
  .step ("Checking outdated " ++ dependencyType ++ "...")

/-- A section whose report is not found is not gone into. -/
theorem processSection_of_error {serve : Collaborator interface σ} {s : σ} {dependencyType : String}
    {cause : Failure} (o : Options) (course : Course)
    (h : (serve (.outdated dependencyType) (serve (.tell (announcement dependencyType)) s).2).1 =
      .error cause) :
    ((processSection o dependencyType course).exec serve s).1.1 =
      .failed dependencyType cause.message := by
  rw [announcement] at h
  simp only [processSection, tell, outdatedRecords, Session.ask, call_bind, done_bind, exec, h]

/-- A section of which nothing is considered has nothing to attempt. -/
theorem processSection_of_nil {serve : Collaborator interface σ} {s : σ} {dependencyType : String}
    {report : Report} (o : Options) (course : Course)
    (h : (serve (.outdated dependencyType) (serve (.tell (announcement dependencyType)) s).2).1 =
      .ok report)
    (hselect : selection o course.manifest dependencyType report = .ok []) :
    ((processSection o dependencyType course).exec serve s).1.1 = .empty dependencyType := by
  rw [announcement] at h
  simp only [processSection, tell, outdatedRecords, Session.ask, call_bind, done_bind, exec, h,
    hselect]
  rfl

theorem selection_of_silent (o : Options) (m : Manifest) (dependencyType : String) :
    selection o m dependencyType ⟨Report.listingHead, []⟩ = .ok [] :=
  rfl

end Upgrade

namespace PackageTool

/-! ## Reports in what is printed -/

/-- What a package manager has printed holds a report: a line that tells of a table, or an object,
where everything but white space should be one. -/
def HoldsReport : PackageTool → String → Prop
  | yarn, stdout =>
    ∃ line ∈ Text.lines stdout.toList, ∃ event,
      Json.ofChars? (Text.trim line) = some event ∧ Report.isTableEvent event = true
  | npm, stdout | pnpm, stdout => Text.allBlank stdout = false

/-- What a package manager has printed is well-formed as far as it holds a report. -/
def IsLegible (tool : PackageTool) (stdout : String) : Prop :=
  ∀ cause, tool.readOutdated stdout ≠ .error cause

/-- A package manager has failed and has not printed a report. -/
def IsSilentFailure (tool : PackageTool) (f : Finished) : Prop :=
  f.success = false ∧ ¬ tool.HoldsReport (Text.Utf8.decodeLossy f.stdout)

theorem tableEvent?_eq_none_iff {stdout : String} :
    Report.tableEvent? (Text.lines stdout.toList) = none ↔ ¬ HoldsReport yarn stdout := by
  simp only [Report.tableEvent?, HoldsReport, List.findSome?_eq_none_iff, Option.filter_eq_none_iff,
    not_exists, not_and]

theorem readOutdated_yarn_eq_none_iff {stdout : String} :
    yarn.readOutdated stdout = .ok none ↔ ¬ HoldsReport yarn stdout := by
  rw [← tableEvent?_eq_none_iff, readOutdated, Report.ofLines]
  cases Report.tableEvent? (Text.lines stdout.toList) with
  | none => exact iff_of_true rfl rfl
  | some event =>
    refine iff_of_false ?_ nofun
    dsimp only
    cases Report.ofTableEvent event <;> nofun

/-- A package manager that prints an object is never taken to have printed none. -/
theorem readOutdated_ne_none {tool : PackageTool} {stdout : String} (h : tool ≠ yarn) :
    tool.readOutdated stdout ≠ .ok none := by
  cases tool with
  | yarn => exact absurd rfl h
  | npm | pnpm =>
    rw [readOutdated]
    cases Report.ofEntries _ stdout <;> nofun

theorem readOutdated_of_silent {tool : PackageTool} {stdout : String} (h : tool ≠ yarn)
    (hsilent : ¬ tool.HoldsReport stdout) :
    tool.readOutdated stdout = .ok (some ⟨Report.listingHead, []⟩) := by
  cases tool with
  | yarn => exact absurd rfl h
  | npm | pnpm =>
    have hblank : Text.allBlank stdout = true := by simpa [HoldsReport] using hsilent
    rw [readOutdated, Report.ofEntries, if_pos hblank]
    rfl

theorem readOutdated_eq_none_iff {tool : PackageTool} {stdout : String} :
    tool.readOutdated stdout = .ok none ↔ tool = yarn ∧ ¬ tool.HoldsReport stdout := by
  by_cases htool : tool = yarn
  · subst htool
    simpa using readOutdated_yarn_eq_none_iff
  · exact iff_of_false (readOutdated_ne_none htool) fun h => htool h.1

/-! ## What is made of it -/

namespace Runner

variable {r : Runner} {dependencyType : String} {f : Finished}

/-- A report is made of what a package manager has printed if that is well-formed, and either holds
a report or comes from a package manager that has succeeded or prints an object. -/
theorem reportOf_isOk_iff :
    (∃ report, r.reportOf dependencyType f = .ok report) ↔
      r.tool.IsLegible (Text.Utf8.decodeLossy f.stdout) ∧
        (r.tool.HoldsReport (Text.Utf8.decodeLossy f.stdout) ∨ f.success = true ∨
          r.tool ≠ yarn) := by
  unfold reportOf IsLegible
  cases hread : r.tool.readOutdated (Text.Utf8.decodeLossy f.stdout) with
  | error cause => exact iff_of_false (by simp) fun h => h.1 cause rfl
  | ok found =>
    cases found with
    | some report =>
      have hholds : ¬ (r.tool = yarn ∧
          ¬ r.tool.HoldsReport (Text.Utf8.decodeLossy f.stdout)) := by
        rw [← readOutdated_eq_none_iff, hread]
        nofun
      refine iff_of_true ⟨_, rfl⟩ ⟨nofun, ?_⟩
      by_cases htool : r.tool = yarn
      · exact .inl (Classical.byContradiction fun h => hholds ⟨htool, h⟩)
      · exact .inr (.inr htool)
    | none =>
      obtain ⟨htool, hholds⟩ := readOutdated_eq_none_iff.1 hread
      cases hsuccess : f.success with
      | true => exact iff_of_true ⟨_, rfl⟩ ⟨nofun, .inr (.inl rfl)⟩
      | false =>
        refine iff_of_false nofun ?_
        rintro ⟨-, h | h | h⟩
        · exact hholds h
        · cases h
        · exact h htool

theorem reportOf_of_silentFailure (h : r.tool = yarn) (hsilent : r.tool.IsSilentFailure f) :
    r.reportOf dependencyType f =
      .error (.tool (Console.failure (r.command r.tool.outdatedArgs) f)) := by
  have hread := readOutdated_eq_none_iff.2 ⟨h, hsilent.2⟩
  simp only [reportOf, hread, hsilent.1]
  rfl

/-- The failure of a package manager that prints an object is lost. -/
theorem reportOf_of_silentFailure_lost (h : r.tool ≠ yarn) (hsilent : r.tool.IsSilentFailure f) :
    r.reportOf dependencyType f = .ok ⟨Report.listingHead, []⟩ := by
  simp only [reportOf, readOutdated_of_silent h hsilent.2]
  rfl

theorem outdated_of_error {σ : Type} (r : Runner) {serve : Collaborator Host.interface σ} {s : σ}
    {cause : ToolError} (dependencyType : String)
    (h : ((r.console.start (r.command r.tool.outdatedArgs)).exec serve s).1 = .error cause) :
    ((r.outdated dependencyType).exec serve s).1 = .error (.tool cause) := by
  simp only [Runner.outdated, exec_bind, exec, h]

theorem outdated_of_ok {σ : Type} (r : Runner) {serve : Collaborator Host.interface σ} {s : σ}
    {f : Finished} (dependencyType : String)
    (h : ((r.console.start (r.command r.tool.outdatedArgs)).exec serve s).1 = .ok f) :
    ((r.outdated dependencyType).exec serve s).1 = r.reportOf dependencyType f := by
  simp only [Runner.outdated, exec_bind, exec, h]

end Runner

/-! ## Sections -/

/-- What is made of a package manager's answer for a section: what `started` its command came to,
the report that is `found` in that, and the section's `result`. -/
structure IsTaken (p : Project) (dependencyType : String) (started : Except ToolError Finished)
    (found : Except Failure Report) (result : SectionResult) : Prop where
  /-- There is a report just if the command was run and printed a well-formed one, or printed none
  and succeeded, or printed none and belongs to a package manager that prints objects. -/
  isOk_iff : (∃ report, found = .ok report) ↔
    ∃ f, started = .ok f ∧ p.tool.IsLegible (Text.Utf8.decodeLossy f.stdout) ∧
      (p.tool.HoldsReport (Text.Utf8.decodeLossy f.stdout) ∨ f.success = true ∨ p.tool ≠ yarn)
  notStarted : ∀ cause, started = .error cause → found = .error (.tool cause)
  /-- A section without a report is not gone into. -/
  failed : ∀ cause, found = .error cause → result = .failed dependencyType cause.message
  /-- A failure without a report is one of the section where lines are printed. -/
  reported : p.tool = yarn → ∀ f, started = .ok f → p.tool.IsSilentFailure f →
    found = .error (.tool (Console.failure (p.runner.command p.tool.outdatedArgs) f))
  /-- Where an object is printed it looks as if nothing were outdated. -/
  lost : p.tool ≠ yarn → ∀ f, started = .ok f → p.tool.IsSilentFailure f →
    found = .ok ⟨Report.listingHead, []⟩ ∧ result = .empty dependencyType

variable {σ : Type}

/-- What is made of a package manager's answer for a section, whatever the answer is. -/
theorem silence_isTaken (p : Project) (o : Upgrade.Options) (dependencyType : String)
    (course : Upgrade.Course) (serve : Collaborator Host.interface σ) (s : σ) :
    let announced := ((p.console.tell (Upgrade.announcement dependencyType)).exec serve s).2
    IsTaken p dependencyType
      ((p.console.start (p.runner.command p.tool.outdatedArgs)).exec serve announced).1
      ((p.runner.outdated dependencyType).exec serve announced).1
      (((Upgrade.processSection o dependencyType course).interpret p.call).exec serve s).1.1 := by
  intro announced
  rw [exec_interpret]
  generalize hresult : ((Upgrade.processSection o dependencyType course).exec
    (fun request => (p.call request).exec serve) s).1.1 = result
  have hfailed : ∀ cause, ((p.runner.outdated dependencyType).exec serve announced).1 =
      .error cause → result = .failed dependencyType cause.message := fun cause h =>
    hresult.symm.trans (Upgrade.processSection_of_error o course h)
  have hempty (h : ((p.runner.outdated dependencyType).exec serve announced).1 =
      .ok ⟨Report.listingHead, []⟩) : result = .empty dependencyType :=
    hresult.symm.trans (Upgrade.processSection_of_nil o course h (Upgrade.selection_of_silent ..))
  cases hstarted :
    ((p.console.start (p.runner.command p.tool.outdatedArgs)).exec serve announced).1 with
  | error cause =>
    have hfound := p.runner.outdated_of_error dependencyType hstarted
    exact
      { isOk_iff := by
          rw [hfound]
          exact iff_of_false nofun nofun
        notStarted := by
          rintro _ ⟨⟩
          exact hfound
        failed := hfailed
        reported := nofun
        lost := nofun }
  | ok f =>
    have hfound := p.runner.outdated_of_ok dependencyType hstarted
    exact
      { isOk_iff := by
          rw [hfound, Runner.reportOf_isOk_iff]
          constructor
          · intro h
            exact ⟨f, rfl, h⟩
          · rintro ⟨_, ⟨⟩, h⟩
            exact h
        notStarted := nofun
        failed := hfailed
        reported := by
          rintro htool _ ⟨⟩ hsilent
          rw [hfound]
          exact Runner.reportOf_of_silentFailure htool hsilent
        lost := by
          rintro htool _ ⟨⟩ hsilent
          have hlost := hfound.trans (Runner.reportOf_of_silentFailure_lost htool hsilent)
          exact ⟨hlost, hempty hlost⟩ }

/-- What comes of a command that fails and tells why, but prints nothing. -/
def silentFailure : Finished :=
  ⟨false, [], Text.Utf8.encode "npm ERR! network"⟩

def npmRunner : Runner :=
  { tool := npm, directory := "proj", console := ⟨false, false, false⟩ }

/-- Npm has failed without a report, and yet a report is found. -/
theorem npm_failure_unnoticed :
    let serve := Host.still (fun _ => .absent) (.ok silentFailure)
    ((npmRunner.console.start (npmRunner.command npm.outdatedArgs)).exec serve ()).1 =
        .ok silentFailure ∧
      npm.IsSilentFailure silentFailure ∧
      ((npmRunner.outdated "dependencies").exec serve ()).1 = .ok ⟨Report.listingHead, []⟩ := by
  intro serve
  have hsilent : npm.IsSilentFailure silentFailure := by
    refine ⟨rfl, ?_⟩
    simp [HoldsReport, silentFailure, Text.Utf8.decodeLossy, Text.Utf8.chunks, Text.allBlank]
  have hflaw : (npmRunner.command npm.outdatedArgs).flaw? = none := by
    simp [Command.flaw?, npmRunner, Runner.command, outdatedArgs, program]
  have hstarted : ((npmRunner.console.start (npmRunner.command npm.outdatedArgs)).exec serve ()).1 =
      .ok silentFailure := by
    simp only [Console.start, hflaw, exec_bind]
    rfl
  have hfound := npmRunner.outdated_of_ok "dependencies" hstarted
  exact ⟨hstarted, hsilent,
    hfound.trans (Runner.reportOf_of_silentFailure_lost (by decide) hsilent)⟩

end PackageTool

end Patchwise

import Patchwise.Program
import Patchwise.Proofs.Manifest.Custody
import Patchwise.Proofs.Path
import Patchwise.Proofs.Project
import Patchwise.Proofs.Upgrade.Course

/-!
# Where the manifest of a run is

A run reads, writes and restores one file, that of the manifest it was begun with. Version control
is told of the file by the path that it has as seen from the project's directory, where the command
is started, and that path leads to the very file.

## Main definitions

- `Upgrade.Call.strays`, `Host.Call.strays` — a call that is about another file than the one at a
  path
- `Upgrade.StaysAt` — a part of a run is about the file at a path
- `Program.Step.Finds` — what a step of the preparation finds has some property
- `Project.Undone` — what a project starts to undo an upgrade
- `Project.RestoresManifest` — the project's manifest is what a run restores

## Main results

- `Upgrade.run_avoids_strays` — a run is about no file but its manifest's
- `Program.prepare_finds` — the manifest is read from where the settings say
- `Project.revertSteps_ensures` — an upgrade is undone in one of these ways
- `Project.restoresManifest` — a run in a project restores its manifest, and is about no other file
-/

namespace Patchwise

/-! ## The calls of a run -/

namespace Upgrade

open Session

/-- Whether a call is about another file than the one at a path. -/
def Call.strays (path : String) : Call → Bool
  | contentOf place | checkout place | store place _ => place != path
  | _ => false

theorem Call.isNotable_of_strays {path : String} (request : Call)
    (h : request.strays path = true) : request.isNotable = true := by
  cases request <;> first | rfl | cases h

/-- A part of a run leaves a manifest with its file at a path, and is about no other file. -/
structure StaysAt (path : String) (m : Manifest) (events : List Step) : Prop where
  path_eq : m.path = path
  not_strays : ∀ event ∈ events, event.request.strays path = false

variable {a : Attempt} {m : Manifest} {events : List Step}

theorem Publishing.not_strays {outcome : Except Failure Unit} (h : Publishing a outcome events)
    (path : String) : ∀ event ∈ events, event.request.strays path = false := by
  cases h <;> simp [Call.strays]

theorem Keeping.staysAt {last : Except Failure Unit × Manifest} (h : Keeping a m last events) :
    StaysAt m.path last.2 events := by
  cases h with
  | notEdited => exact ⟨rfl, by simp⟩
  | notWritten reason hedit =>
    have hpath := Manifest.path_of_setVersion hedit
    exact ⟨hpath, by simp [Call.strays, hpath]⟩
  | written hedit hpublish =>
    have hpath := Manifest.path_of_setVersion hedit
    refine ⟨hpath, List.forall_mem_cons.2 ⟨?_, hpublish.not_strays m.path⟩⟩
    simp [Call.strays, hpath]

theorem Undoing.staysAt {last : Except Failure Unit × Manifest} (h : Undoing a m last events) :
    StaysAt m.path last.2 events := by
  cases h with
  | notInstalled | notPutBack => exact ⟨rfl, by simp [Call.strays]⟩
  | notRestored cause hback | notReadAgain hback hread =>
    have hpath := path_of_putBack hback
    exact ⟨hpath, by simp [Call.strays, hpath]⟩
  | undone hback hread =>
    have hpath := path_of_putBack hback
    exact ⟨(Manifest.ofFile_eq_ok hread).1.trans hpath, by simp [Call.strays, hpath]⟩

theorem StaysAt.cons {path : String} {event : Step} (h : StaysAt path m events)
    (hevent : event.request.strays path = false) : StaysAt path m (event :: events) :=
  ⟨h.path_eq, List.forall_mem_cons.2 ⟨hevent, h.not_strays⟩⟩

theorem Conduct.staysAt {state : Attempt.State} {note : Option String} {course : Course}
    (h : Conduct a m events state note course) : StaysAt m.path course.manifest events := by
  cases h with
  | notApplied => exact ⟨rfl, by simp [Call.strays]⟩
  | kept h | notKept h => exact (h.staysAt.cons rfl).cons rfl
  | undone _ h | notUndone _ h => exact (h.staysAt.cons rfl).cons rfl

/-- A series stays where each of its parts does. -/
theorem Series.staysAt {α β : Type} {part : α → Manifest → β × Course → List Step → Prop}
    {inputs : List α} {course : Course} {last : List β × Course}
    (h : Series part inputs course last events)
    (hpart : ∀ {a m b course events}, part a m (b, course) events →
      StaysAt m.path course.manifest events) :
    StaysAt course.manifest.path last.2.manifest events := by
  induction h with
  | finished | halted => exact ⟨rfl, by simp⟩
  | cancelled => exact ⟨rfl, by simp [Call.strays]⟩
  | next hfirst hrest ih =>
    obtain ⟨hpath, hevents⟩ := hpart hfirst
    obtain ⟨hlast, hmore⟩ := ih
    rw [hpath] at hlast hmore
    exact StaysAt.cons ⟨hlast, List.forall_mem_append.2 ⟨hevents, hmore⟩⟩ rfl

variable {o : Options} {dependencyType : String}

theorem Attempted.staysAt {r : Record} {last : Attempt × Course}
    (h : Attempted o dependencyType r m last events) :
    StaysAt m.path last.2.manifest events := by
  obtain _ | ⟨-, _, _, _, -, hconduct⟩ := h
  · exact ⟨rfl, by simp⟩
  · exact hconduct.staysAt

theorem Processed.staysAt {last : SectionResult × Course}
    (h : Processed o dependencyType m last events) : StaysAt m.path last.2.manifest events := by
  cases h with
  | notReported | notRead => exact ⟨rfl, by simp [Call.strays]⟩
  | processed _ hseries => exact (hseries.staysAt Attempted.staysAt).cons rfl

/-- Whatever the collaborators do, a run is about no file but its manifest's. -/
theorem run_avoids_strays (o : Options) (m : Manifest) :
    (run o m).Avoids (Call.strays m.path) := by
  intro σ serve s
  have hstays := (run_ensures o m serve s).staysAt Processed.staysAt
  rw [← filter_journal Call.isNotable_of_strays, List.filter_eq_nil_iff]
  exact fun event hevent => Bool.eq_false_iff.1 (hstays.not_strays event hevent)

end Upgrade

/-! ## The calls to the machine -/

/-- Whether a command of version control restores the file at a path, for which the command has a
name that is meant as seen from the directory that it is started in. -/
def Command.restores (path : String) (c : Command) : Bool :=
  match c.args with
  | ["checkout", "--", named] =>
    Path.components (Path.joined c.directory named).toList = Path.components path.toList
  | _ => false

/-- Whether a call is about another file than the one at a path. -/
def Host.Call.strays (path : String) : Host.Call → Bool
  | contentOf place | store place _ => place != path
  | start c =>
    c.program = Repository.program && c.args.head? = some "checkout" && !c.restores path
  | _ => false

/-! ## The manifest that is read -/

namespace Program

open Session

/-- Whatever the machine does, what a step of the preparation finds has some property. -/
def Step.Finds {α : Type} (step : Step α) (p : α → Prop) : Prop :=
  step.Ensures Host.Call.isWork fun answer _ => ∀ found, answer = .ok found → p found

section Finds

variable {α β : Type} {p : α → Prop} {q : β → Prop}

theorem Step.finds_something (step : Step α) : step.Finds fun _ => True :=
  fun _ _ _ _ _ => trivial

theorem Step.Finds.andThen {step : Step α} {rest : α → Step β} (h : step.Finds p)
    (hrest : ∀ found, p found → (rest found).Finds q) : (step.andThen rest).Finds q := by
  refine Ensures.bind h fun answer events hfound => ?_
  cases answer with
  | ok found => exact hrest found (hfound found rfl)
  | error obstacle => exact .done nofun

end Finds

theorem manifest_finds (c : CommandLine) (s : Settings) :
    (manifest c s).Finds fun m => m.path = s.manifestPath c.directory := by
  refine .call rfl fun content => .done fun m hfound => ?_
  cases hread : Manifest.ofFile (s.manifestPath c.directory) content with
  | error cause =>
    rw [hread] at hfound
    cases hfound
  | ok m' =>
    rw [hread] at hfound
    cases hfound
    exact (Manifest.ofFile_eq_ok hread).1

/-- The manifest of a run is read from where the settings say that it is in the run's project. -/
theorem prepare_finds (terminal : Bool) (c : CommandLine) :
    (prepare terminal c).Finds fun ready =>
      ready.manifest.path = ready.settings.manifestPath ready.project.directory := by
  refine (Step.finds_something _).andThen fun s _ => ?_
  refine (Step.finds_something _).andThen fun _ _ => ?_
  refine (Step.finds_something _).andThen fun _ _ => ?_
  refine (manifest_finds c s).andThen fun m hpath => ?_
  refine (Step.finds_something _).andThen fun _ _ => ?_
  refine (Step.finds_something _).andThen fun tool _ => ?_
  refine (Step.finds_something _).andThen fun _ _ => ?_
  refine (Step.finds_something _).andThen fun verifier _ => .done fun ready hready => ?_
  cases hready
  exact hpath

end Program

namespace Project

/-! ## What undoing an upgrade starts -/

/-- The command that restores the file at a path. -/
def restoring (p : Project) (path : String) : Command :=
  ⟨Repository.program, ["checkout", "--", Path.seenFrom p.directory path], p.directory⟩

/-- The command that installs the version that a package had, by the argument for both. -/
def installing (p : Project) (a : Attempt) (argument : String) : Command :=
  ⟨p.tool.program, p.tool.addArgs argument a.dependencyType, p.directory⟩

/-- What can come of installing the version that a package had. Nothing is started if the package or
the version is refused. -/
inductive Installed (p : Project) (a : Attempt) :
    Except ToolError Unit → List (Event Host.interface) → Prop
  | refused {cause : ToolError} (h : p.tool.argument a.package a.previous = .error cause) :
      p.Installed a (.error cause) []
  | performed {argument : String} {answer : Except ToolError Unit}
      {events : List (Event Host.interface)}
      (h : p.tool.argument a.package a.previous = .ok argument)
      (hperformed : (p.installing a argument).Performed answer events) :
      p.Installed a answer events

/-- The ways in which a project undoes an upgrade whose manifest is at a path: the former version is
installed, what the manifest declared is put back, and the file is restored by one command and read
again, up to the first step that fails. -/
inductive Undone (p : Project) (path : String) (a : Attempt) (m : Manifest) :
    Except Failure Unit → List (Event Host.interface) → Prop
  | notInstalled {cause : ToolError} {events : List (Event Host.interface)}
      (hadd : p.Installed a (.error cause) events) :
      p.Undone path a m (.error (.tool cause)) events
  | notPutBack {cause : InputError} {events : List (Event Host.interface)}
      (hadd : p.Installed a (.ok ()) events) (hback : Upgrade.putBack a m = .error cause) :
      p.Undone path a m (.error (.input cause)) events
  | notRestored {m' : Manifest} {cause : ToolError} {events more : List (Event Host.interface)}
      (hadd : p.Installed a (.ok ()) events) (hback : Upgrade.putBack a m = .ok m')
      (hrestore : (p.restoring path).Performed (.error cause) more) :
      p.Undone path a m (.error (.tool cause)) (events ++ more)
  | notReadAgain {m' : Manifest} {found : File.Content} {cause : InputError}
      {events more : List (Event Host.interface)}
      (hadd : p.Installed a (.ok ()) events) (hback : Upgrade.putBack a m = .ok m')
      (hrestore : (p.restoring path).Performed (.ok ()) more)
      (hread : Manifest.ofFile path found = .error cause) :
      p.Undone path a m (.error (.input cause)) (events ++ (more ++ [⟨.contentOf path, found⟩]))
  | readAgain {m' m'' : Manifest} {found : File.Content}
      {events more : List (Event Host.interface)}
      (hadd : p.Installed a (.ok ()) events) (hback : Upgrade.putBack a m = .ok m')
      (hrestore : (p.restoring path).Performed (.ok ()) more)
      (hread : Manifest.ofFile path found = .ok m'') :
      p.Undone path a m (.ok ()) (events ++ (more ++ [⟨.contentOf path, found⟩]))

section Undoing

open Session

variable {p : Project} {path : String}

theorem checkout_ensures (p : Project) (path : String) :
    (p.repository.checkout path).Ensures Host.Call.isWork (p.restoring path).Performed :=
  p.console.perform_ensures (fun _ => rfl) (fun _ => rfl) _

theorem add_ensures (p : Project) (a : Attempt) :
    (p.runner.add a.package a.previous a.dependencyType).Ensures Host.Call.isWork
      (p.Installed a) := by
  cases hargument : p.runner.tool.argument a.package a.previous with
  | error cause =>
    rw [PackageTool.Runner.add, PackageTool.Runner.perform_of_error hargument]
    exact .done (.refused hargument)
  | ok argument =>
    refine (PackageTool.Runner.perform_ensures_of_ok hargument _).mono fun _ _ hperformed => ?_
    exact .performed hargument hperformed

/-- Whatever the machine does, an upgrade is undone in one of these ways. -/
theorem revertSteps_ensures (p : Project) (a : Attempt) {m : Manifest} (hpath : m.path = path) :
    ((Upgrade.revertSteps a m).interpret p.call).Ensures Host.Call.isWork fun last events =>
      p.Undone path a m last.1 events := by
  refine (p.add_ensures a).bind fun added events hadd => ?_
  cases added with
  | error cause =>
    refine .done ?_
    rw [List.append_nil]
    exact .notInstalled hadd
  | ok =>
    cases hback : Upgrade.putBack a m with
    | error cause =>
      refine .done ?_
      rw [List.append_nil]
      exact .notPutBack hadd hback
    | ok m' =>
      obtain rfl : m'.path = path := (Upgrade.path_of_putBack hback).trans hpath
      refine (p.checkout_ensures m'.path).bind fun restored more hrestore => ?_
      cases restored with
      | error cause =>
        refine .done ?_
        rw [List.append_nil]
        exact .notRestored hadd hback hrestore
      | ok =>
        refine .call rfl fun found => ?_
        dsimp only [done_bind]
        split
        next cause hread => exact .done (.notReadAgain hadd hback hrestore hread)
        next m'' hread => exact .done (.readAgain hadd hback hrestore hread)

end Undoing

/-! ## Runs in a project -/

/-- The manifest of a project is what a run in the project reads, writes and restores. -/
structure RestoresManifest (p : Project) (s : Settings) : Prop where
  /-- What version control is told leads from the project's directory to the manifest. -/
  resolves : Path.components (Path.joined p.directory
      (Path.seenFrom p.directory (s.manifestPath p.directory))).toList =
    Path.components (s.manifestPath p.directory).toList
  /-- From there the program has read the manifest of its run in the project. -/
  prepared : ∀ (terminal : Bool) (c : CommandLine) ⦃σ : Type⦄
    (serve : Collaborator Host.interface σ) (w : σ) (ready : Program.Prepared),
    ((Program.prepare terminal c).exec serve w).1 = .ok ready →
      ready.project = p → ready.settings = s →
        ready.manifest.path = s.manifestPath p.directory
  /-- Restoring the manifest is one command that tells version control so, and nothing else. -/
  checkout : (p.repository.checkout (s.manifestPath p.directory)).Ensures Host.Call.isWork
    (Command.Performed ⟨Repository.program,
      ["checkout", "--", Path.seenFrom p.directory (s.manifestPath p.directory)], p.directory⟩)
  /-- An upgrade is undone by that command, and the manifest is then read from the same path. -/
  undone : ∀ m, m.path = s.manifestPath p.directory → ∀ a,
    ((Upgrade.revertSteps a m).interpret p.call).Ensures Host.Call.isWork fun last events =>
      p.Undone (s.manifestPath p.directory) a m last.1 events
  run : ∀ found m, Manifest.ofFile (s.manifestPath p.directory) found = .ok m →
    ∀ o, (p.upgrade o m).Avoids (Host.Call.strays (s.manifestPath p.directory))

variable {p : Project} {path : String}

/-- A run restores the file at a path if what version control is told of the path leads there. -/
theorem upgrade_avoids_strays {m : Manifest} (hpath : m.path = path)
    (hresolves : Path.components (Path.joined p.directory (Path.seenFrom p.directory path)).toList =
      Path.components path.toList) (o : Upgrade.Options) :
    (p.upgrade o m).Avoids (Host.Call.strays path) := by
  have hkeep : Host.Call.AreLeftOut (Host.Call.strays path) := by constructor <;> intros <;> rfl
  have hrunner : ∀ args, Host.Call.strays path (.start (p.runner.command args)) = false := by
    intro args
    have hprogram : p.tool.program ≠ Repository.program := by cases p.tool <;> decide
    simp [Host.Call.strays, PackageTool.Runner.command, runner, hprogram]
  have hrepository : ∀ args, args.head? ≠ some "checkout" →
      Host.Call.strays path (.start (p.repository.command args)) = false := by
    intro args hargs
    simp [Host.Call.strays, Repository.command, hargs]
  refine .interpret_of_avoids (fun request hrequest => ?_) (hpath ▸ Upgrade.run_avoids_strays o m)
  refine p.call_avoids hkeep hrunner hrepository request ?_
  cases request with
  | checkout place =>
    obtain rfl : place = path := by simpa [Upgrade.Call.strays] using hrequest
    simp [Host.Call.strays, Repository.command, repository, Command.restores, hresolves]
  | contentOf | store => exact hrequest
  | _ => trivial

theorem restoresManifest (p : Project) (s : Settings) : p.RestoresManifest s := by
  have hresolves := Path.components_joined_seenFrom p.directory s.manifest
  constructor
  case resolves => exact hresolves
  case prepared =>
    rintro terminal c σ serve w ready hready rfl rfl
    exact Program.prepare_finds terminal c serve w ready hready
  case checkout => exact p.checkout_ensures _
  case undone => exact fun m hpath a => p.revertSteps_ensures a hpath
  case run =>
    intro found m hread o
    exact upgrade_avoids_strays (Manifest.ofFile_eq_ok hread).1 hresolves o

/-- A project that is named as seen from the directory above it. -/
def appBelow : Project :=
  { directory := "./app/", tool := .npm, verifier := .testCommand ["npm", "test"],
    console := ⟨false, false, false⟩ }

/-- The settings of a project whose manifest is somewhere else. -/
def elsewhere (manifest : String) : Settings :=
  { Settings.usual with manifest }

/-- A manifest below the project is named as seen from the project, and one that is not as it
is. -/
theorem restoresManifest_appBelow :
    (appBelow.RestoresManifest (elsewhere "./web//package.json") ∧
      appBelow.restoring ((elsewhere "./web//package.json").manifestPath appBelow.directory) =
        ⟨"git", ["checkout", "--", "web//package.json"], "./app/"⟩) ∧
    (appBelow.RestoresManifest (elsewhere "/srv/package.json") ∧
      appBelow.restoring ((elsewhere "/srv/package.json").manifestPath appBelow.directory) =
        ⟨"git", ["checkout", "--", "/srv/package.json"], "./app/"⟩) :=
  ⟨⟨restoresManifest appBelow (elsewhere "./web//package.json"), by decide +kernel⟩,
    restoresManifest appBelow (elsewhere "/srv/package.json"), by decide +kernel⟩

end Project

end Patchwise

import Patchwise.Proofs.Aside
import Patchwise.Proofs.Program
import Patchwise.Proofs.Upgrade.Omission

/-!
# What is told makes no difference to what is done

How much the program tells, and how it gives its summary out, is asked for by flags that are looked
at in many places. Two programs whose command lines differ in nothing else make the same calls, but
for those that print or report something.

## Main definitions

- `Host.Alike` — sessions that do the same, whatever either of them tells and whatever the time is
- `CommandLine.mute` — what is asked for, but for what is told of it
- `Program.Concurs` — what two runs of the program have in common

## Main results

- `Project.upgrade_alike` — a run does the same for every console
- `Program.reporting_changes_nothing_done` — the program does the same whatever it tells

## Design notes

The time is not the same in two runs. It is told in summaries and nowhere else, so summaries are
compared without it.
-/

namespace Patchwise

open Session

namespace Host

/-- Whether a call only tells the user something. -/
def Call.isAside : Call → Bool
  | print _ | report _ => true
  | _ => false

def Call.isClock : Call → Bool
  | clock => true
  | _ => false

/-- Whether a call is about more than what the user is told and the time. -/
def Call.acts : Call → Bool
  | print _ | report _ | clock => false
  | _ => true

theorem Call.of_acts (request : Call) (h : request.acts = true) :
    request.isAside = false ∧ request.isClock = false := by
  cases request with
  | print | report | clock => cases h
  | _ => exact ⟨rfl, rfl⟩

/-- Two sessions with the machine do the same and end with related values, whatever either of them
tells and whatever the time is. -/
abbrev Alike {α β : Type} (rel : α → β → Prop) :
    Session interface α → Session interface β → Prop :=
  Matches Call.isAside Call.isClock rel

end Host

open Host

/-! ## Consoles -/

namespace Console

variable (c c' : Console)

/-- Whatever lines are told, nothing else happens. -/
theorem reportAll_alike (lines lines' : List String) :
    Alike Eq (reportAll lines) (reportAll lines') := by
  induction lines with
  | nil =>
    induction lines' with
    | nil => exact .done rfl
    | cons line rest ih => exact .right rfl fun _ => ih
  | cons line rest ih => exact .left rfl fun _ => ih

theorem exists_echo_eq (command : Command) : ∃ lines, c.echo command = reportAll lines := by
  unfold echo
  split
  · exact ⟨[_], rfl⟩
  · exact ⟨[], rfl⟩

theorem exists_tell_eq (notice : Upgrade.Notice) : ∃ lines, c.tell notice = reportAll lines := by
  unfold tell
  split
  · exact ⟨[_], rfl⟩
  · exact ⟨[], rfl⟩

theorem tell_alike (notice : Upgrade.Notice) : Alike Eq (c.tell notice) (c'.tell notice) := by
  obtain ⟨lines, hlines⟩ := c.exists_tell_eq notice
  obtain ⟨lines', hlines'⟩ := c'.exists_tell_eq notice
  rw [hlines, hlines']
  exact reportAll_alike lines lines'

theorem start_alike (command : Command) : Alike Eq (c.start command) (c'.start command) := by
  obtain ⟨lines, hlines⟩ := c.exists_echo_eq command
  obtain ⟨lines', hlines'⟩ := c'.exists_echo_eq command
  unfold start
  rw [hlines, hlines']
  refine (reportAll_alike lines lines').bind_eq fun _ => ?_
  cases command.flaw? with
  | some reason => exact .done rfl
  | none => exact .call rfl fun _ => .done rfl

theorem startChecked_alike (command : Command) :
    Alike Eq (c.startChecked command) (c'.startChecked command) :=
  (c.start_alike c' command).bind_eq fun _ => .done rfl

theorem perform_alike (command : Command) :
    Alike Eq (c.perform command) (c'.perform command) :=
  (c.startChecked_alike c' command).bind_eq fun _ => .done rfl

end Console

/-! ## The parts of a project -/

section Parts

variable (console console' : Console) (directory : String)

theorem Repository.perform_alike (args : List String) :
    Alike Eq (Repository.perform ⟨directory, console⟩ args)
      (Repository.perform ⟨directory, console'⟩ args) :=
  console.perform_alike console' _

theorem Repository.currentBranch_alike :
    Alike Eq (Repository.currentBranch ⟨directory, console⟩)
      (Repository.currentBranch ⟨directory, console'⟩) :=
  (console.startChecked_alike console' _).bind_eq fun _ => .done rfl

namespace PackageTool.Runner

variable (tool : PackageTool)

theorem outdated_alike (dependencyType : String) :
    Alike Eq (Runner.outdated ⟨tool, directory, console⟩ dependencyType)
      (Runner.outdated ⟨tool, directory, console'⟩ dependencyType) :=
  (console.start_alike console' _).bind_eq fun _ => .done rfl

theorem perform_alike (package version : String) (args : String → List String) :
    Alike Eq (Runner.perform ⟨tool, directory, console⟩ package version args)
      (Runner.perform ⟨tool, directory, console'⟩ package version args) := by
  dsimp only [perform]
  cases tool.argument package version with
  | error cause => exact .done rfl
  | ok spec => exact console.perform_alike console' _

end PackageTool.Runner

theorem CircleCi.exchange_alike {α : Type} (ci : CircleCi) (method url : String)
    (body : Option String) (expected : Nat) (read : Json → Except Json.Mismatch α) :
    Alike Eq (ci.exchange method url body expected read)
      (ci.exchange method url body expected read) := by
  unfold exchange
  split
  · exact .done rfl
  · exact .call rfl fun _ => .done rfl

theorem TestCommand.verify_alike (words : List String) :
    Alike Eq (verify words directory) (verify words directory) := by
  refine Matches.bind_eq ?_ fun _ => .done rfl
  unfold run
  split
  · exact .done rfl
  · dsimp only
    split
    · exact .done rfl
    · exact .call rfl fun _ => .done rfl

theorem Verifier.verify_alike (v : Verifier) :
    Alike Eq (v.verify ⟨directory, console⟩) (v.verify ⟨directory, console'⟩) := by
  cases v with
  | testCommand words => exact TestCommand.verify_alike directory words
  | pipeline service polling =>
    refine (InStep.refl _).interpret (fun request _ => ?_) (fun request hblind => nomatch hblind)
    cases request with
    | currentBranch => exact Repository.currentBranch_alike console console' directory
    | push => exact Repository.perform_alike console console' directory _
    | trigger branch => exact service.exchange_alike ..
    | wait milliseconds => exact .call rfl fun _ => .done rfl
    | status name => exact (service.exchange_alike ..).bind_eq fun _ => .done rfl

end Parts

/-! ## Runs -/

/-- Two runs come to the same if neither the times in their summaries nor the way there counts. -/
def Upgrade.SameOutcome (last last' : Summary × Manifest) : Prop :=
  last.1.untimed = last'.1.untimed ∧ last.2 = last'.2

/-- A run does the same at whatever times it is held. -/
theorem Upgrade.run_inStep (o : Options) (m : Manifest) :
    InStep Call.isClock SameOutcome (run o m) (run o m) := by
  refine inStep_now fun started started' => ?_
  refine (processSections_timeless o o.dependencyTypes ⟨m, none⟩).bind ?_
  rintro ⟨sections, course⟩ ⟨sections', course'⟩ ⟨hsections, hcourse⟩
  dsimp only at hsections hcourse ⊢
  subst hcourse
  refine inStep_now fun finished finished' => .done ⟨?_, rfl⟩
  simp [Summary.untimed, hsections]

namespace Project

variable (p : Project) (console console' : Console)

/-- Every call of a run but that for the time is the same for every console. -/
theorem call_alike {request : Upgrade.Call} (hseen : request.isClock = false) :
    Alike Eq ({ p with console := console }.call request)
      ({ p with console := console' }.call request) := by
  cases request with
  | outdated dependencyType =>
    exact PackageTool.Runner.outdated_alike console console' p.directory p.tool dependencyType
  | upgrade package version =>
    exact PackageTool.Runner.perform_alike console console' p.directory p.tool package version _
  | add package version dependencyType =>
    exact PackageTool.Runner.perform_alike console console' p.directory p.tool package version _
  | verify attempt => exact Verifier.verify_alike console console' p.directory p.verifier
  | tell notice => exact console.tell_alike console' notice
  | clock => cases hseen
  | contentOf | store | isCancelled => exact .call rfl fun _ => .done rfl
  | addAll | commit | push | checkout => exact console.perform_alike console' _

theorem clock_alike {request : Upgrade.Call} (hblind : request.isClock = true) :
    Alike (fun _ _ => True) ({ p with console := console }.call request)
      ({ p with console := console' }.call request) := by
  cases request with
  | clock => exact .callBlind rfl fun _ _ => .done trivial
  | _ => cases hblind

/-- A run does the same and comes to the same for every console. -/
theorem upgrade_alike (o : Upgrade.Options) (m : Manifest) :
    Alike Upgrade.SameOutcome ({ p with console := console }.upgrade o m)
      ({ p with console := console' }.upgrade o m) :=
  (Upgrade.run_inStep o m).interpret (fun _ hseen => p.call_alike console console' hseen)
    fun _ hblind => p.clock_alike console console' hblind

end Project

/-! ## The program -/

/-- What is asked for, but for what is told of it. -/
def CommandLine.mute (c : CommandLine) : CommandLine :=
  { c with json := false, verbose := false, quiet := false }

namespace Program

/-- If a pipeline verifies, its deadline is not too long to be told. -/
def DeadlineTellable (s : Settings) : Prop :=
  s.verify.mode = .pipeline → s.polling.deadline ≠ none

/-- A run was held and came to the same, or the same obstacle was met. -/
def SameAnswer (answer answer' : Except Obstacle Summary) : Prop :=
  answer.map Summary.untimed = answer'.map Summary.untimed

theorem Step.andThen_alike {α β β' : Type} {step step' : Step α} {rest : α → Step β}
    {rest' : α → Step β'} {rel : Except Obstacle β → Except Obstacle β' → Prop}
    (h : Alike Eq step step') (herror : ∀ obstacle, rel (.error obstacle) (.error obstacle))
    (hrest : ∀ a, Alike rel (rest a) (rest' a)) :
    Alike rel (step.andThen rest) (step'.andThen rest') := by
  refine Matches.bind_eq h fun answer => ?_
  cases answer with
  | ok a => exact hrest a
  | error obstacle => exact .done (herror obstacle)

section Steps

variable (console console' : Console) (s : Settings)

theorem token_alike : Alike Eq (token s) (token s) :=
  .call rfl fun _ => .done rfl

theorem check_alike : Alike Eq (check s) (check s) := by
  refine Step.andThen_alike (.done rfl) (fun _ => rfl) fun _ => ?_
  split
  · exact .done rfl
  · exact Step.andThen_alike (token_alike s) (fun _ => rfl) fun _ => .done rfl

theorem tellMuch_alike (lines lines' : List String) :
    Alike Eq (tellMuch console lines) (tellMuch console' lines') := by
  have htold : ∀ (console : Console) lines, ∃ told,
      tellMuch console lines = (Console.reportAll told).bind fun _ => .done (.ok ()) := by
    intro console lines
    unfold tellMuch
    split
    · exact ⟨lines, rfl⟩
    · exact ⟨[], rfl⟩
  obtain ⟨told, h⟩ := htold console lines
  obtain ⟨told', h'⟩ := htold console' lines'
  rw [h, h']
  exact (Console.reportAll_alike told told').bind_eq fun _ => .done rfl

theorem manifest_alike (c : CommandLine) : Alike Eq (manifest c s) (manifest c s) :=
  .call rfl fun _ => .done rfl

theorem ensureRepository_alike (directory : String) :
    Alike Eq (ensureRepository ⟨directory, console⟩) (ensureRepository ⟨directory, console'⟩) :=
  (Repository.perform_alike console console' directory _).bind_eq fun _ => .done rfl

theorem detectAmong_alike (directory : String) (lockfiles : List (String × PackageTool)) :
    Alike Eq (PackageTool.detectAmong directory lockfiles)
      (PackageTool.detectAmong directory lockfiles) := by
  induction lockfiles with
  | nil => exact .done rfl
  | cons lockfile rest ih =>
    refine .call rfl fun found => ?_
    cases found with
    | true => exact .done rfl
    | false => exact ih

theorem packageTool_alike (c : CommandLine) : Alike Eq (packageTool c s) (packageTool c s) := by
  refine Step.andThen_alike (.done rfl) (fun _ => rfl) fun configured => ?_
  cases configured with
  | some tool => exact .done rfl
  | none => exact (detectAmong_alike c.directory _).bind_eq fun _ => .done rfl

/-- If the deadline is not too long to be told, the tools can be told. -/
theorem tellTools_alike (h : DeadlineTellable s) (tool : PackageTool) :
    Alike Eq (tellTools console s tool) (tellTools console' s tool) := by
  have hline : ∃ line, verifyLine s = .ok line := by
    unfold verifyLine
    cases hmode : s.verify.mode with
    | testCommand => exact ⟨_, rfl⟩
    | pipeline =>
      obtain ⟨deadline, hdeadline⟩ := Option.ne_none_iff_exists'.1 (h hmode)
      rw [hdeadline]
      exact ⟨_, rfl⟩
  obtain ⟨line, hline⟩ := hline
  have htold : ∀ console : Console, tellTools console s tool =
      (tellMuch console ["Package manager: " ++ tool.program]).andThen fun _ =>
        tellMuch console [line] := by
    intro console
    unfold tellTools
    rw [hline]
    cases hverbose : console.verbose with
    | true => rfl
    | false => simp [tellMuch, hverbose, Step.andThen]
  rw [htold, htold]
  exact Step.andThen_alike (tellMuch_alike console console' _ _) (fun _ => rfl) fun _ =>
    tellMuch_alike console console' _ _

theorem verifier_alike : Alike Eq (verifier s) (verifier s) := by
  unfold verifier
  split
  · exact .done rfl
  · exact Step.andThen_alike (token_alike s) (fun _ => rfl) fun _ => .done rfl

end Steps

/-- What is done once the configuration is known, if it can be loaded. -/
def proceed (terminal : Bool) (c : CommandLine) (found : Except InputError Settings) :
    Step Summary :=
  (Step.ofExcept .input found).andThen fun s =>
    let s := c.amend s
    (check s).andThen fun _ =>
      (tellMuch (console terminal c) (banner c s)).andThen fun _ =>
        (manifest c s).andThen fun m =>
          (ensureRepository ⟨c.directory, console terminal c⟩).andThen fun _ =>
            (packageTool c s).andThen fun tool =>
              (tellTools (console terminal c) s tool).andThen fun _ =>
                (verifier s).andThen fun verifier =>
                  let project : Project := ⟨c.directory, tool, verifier, console terminal c⟩
                  (upgrade terminal c ⟨s, m, project⟩).bind fun summary => .done (.ok summary)

theorem carryOut_eq (terminal : Bool) (c : CommandLine) :
    carryOut terminal c =
      .call (Host.Call.contentOf c.settingsPath) fun (content : File.Content) =>
        proceed terminal c (Settings.ofFile c.settingsPath content) := by
  simp only [carryOut, prepare, settings, load, Step.andThen_assoc]
  rfl

/-- Command lines that ask for the same differ in three flags at most. -/
theorem exists_eq_of_mute_eq {c c' : CommandLine} (h : c.mute = c'.mute) :
    ∃ json verbose quiet, c' = { c with json, verbose, quiet } := by
  refine ⟨c'.json, c'.verbose, c'.quiet, ?_⟩
  calc c' = { c'.mute with json := c'.json, verbose := c'.verbose, quiet := c'.quiet } := rfl
    _ = { c.mute with json := c'.json, verbose := c'.verbose, quiet := c'.quiet } := by rw [h]
    _ = { c with json := c'.json, verbose := c'.verbose, quiet := c'.quiet } := rfl

variable {c c' : CommandLine} {found : Except InputError Settings}

theorem proceed_alike (terminal : Bool) (h : c.mute = c'.mute)
    (hdeadline : ∀ s, found = .ok s → DeadlineTellable (c.amend s)) :
    Alike SameAnswer (proceed terminal c found) (proceed terminal c' found) := by
  obtain ⟨json, verbose, quiet, rfl⟩ := exists_eq_of_mute_eq h
  cases found with
  | error cause => exact .done rfl
  | ok s =>
    have hdeadline := hdeadline s rfl
    rw [proceed, proceed, Step.ofExcept_ok_andThen, Step.ofExcept_ok_andThen]
    refine Step.andThen_alike (check_alike _) (fun _ => rfl) fun _ => ?_
    refine Step.andThen_alike (tellMuch_alike _ _ _ _) (fun _ => rfl) fun _ => ?_
    refine Step.andThen_alike (manifest_alike _ c) (fun _ => rfl) fun m => ?_
    refine Step.andThen_alike (ensureRepository_alike _ _ _) (fun _ => rfl) fun _ => ?_
    refine Step.andThen_alike (packageTool_alike _ c) (fun _ => rfl) fun tool => ?_
    refine Step.andThen_alike (tellTools_alike _ _ _ hdeadline tool) (fun _ => rfl) fun _ => ?_
    refine Step.andThen_alike (verifier_alike _) (fun _ => rfl) fun verifier => ?_
    -- the run is followed by what is printed of it
    unfold upgrade
    rw [bind_assoc, bind_assoc]
    refine (Project.upgrade_alike ⟨_, tool, verifier, console terminal c⟩ _ _ _ m).bind ?_
    rintro ⟨summary, m₁⟩ ⟨summary', m₂⟩ ⟨hsummary, -⟩
    exact .left rfl fun _ => .right rfl fun _ => .done (congrArg Except.ok hsummary)

/-- How the program ends with what it came to. -/
def ending (terminal : Bool) : Except Obstacle Summary → Session Host.interface Nat
  | .ok _ => .done 0
  | .error obstacle =>
    (Console.report (obstacle.line terminal)).bind fun _ => .done obstacle.exitCode

theorem run_eq (terminal : Bool) (c : CommandLine) :
    run terminal c = (carryOut terminal c).bind (ending terminal) :=
  rfl

theorem ending_alike (terminal : Bool) {answer answer' : Except Obstacle Summary}
    (h : SameAnswer answer answer') :
    Alike Eq (ending terminal answer) (ending terminal answer') := by
  cases answer with
  | ok summary =>
    cases answer' with
    | ok summary' => exact .done rfl
    | error obstacle => cases h
  | error obstacle =>
    cases answer' with
    | ok summary' => cases h
    | error obstacle' =>
      obtain rfl : obstacle = obstacle' := Except.error.inj h
      exact .left rfl fun _ => .right rfl fun _ => .done rfl

/-- What two runs of the program have in common if they differ in what is told only. -/
structure Concurs {σ : Type} (terminal : Bool) (c c' : CommandLine)
    (serve : Collaborator Host.interface σ) (w : σ) (first second : Session Host.interface Nat) :
    Prop where
  /-- They end with the same status. -/
  status_eq : (first.exec serve w).1 = (second.exec serve w).1
  /-- They make the same calls in the same order, commands among them, and are answered alike. -/
  journal_eq : first.journal Host.Call.acts serve w = second.journal Host.Call.acts serve w
  /-- They leave the same files. -/
  files_eq : ∀ path, (serve (.contentOf path) (first.exec serve w).2).1 =
    (serve (.contentOf path) (second.exec serve w).2).1
  /-- Nothing but the time can tell afterwards which of them was held. -/
  indistinct : Indistinct serve Host.Call.isClock (first.exec serve w).2 (second.exec serve w).2
  /-- They come to the same. -/
  summary_eq : SameAnswer ((carryOut terminal c).exec serve w).1
    ((carryOut terminal c').exec serve w).1

/-- Whatever the arguments ask for, the machine does and the project holds, programs whose arguments
differ in what is told only do the same; and a run comes to the same for every console. The machine
is one on which it makes no difference what the user is told. -/
theorem reporting_changes_nothing_done {σ : Type} (terminal : Bool)
    {arguments arguments' : List String} (hread : CommandLine.read arguments = .ok c)
    (hread' : CommandLine.read arguments' = .ok c') (hmute : c.mute = c'.mute)
    {serve : Collaborator Host.interface σ}
    (hunheeded : Unheeded serve Host.Call.isAside Host.Call.isClock) (w : σ)
    (hdeadline : ∀ s,
      Settings.ofFile c.settingsPath (serve (.contentOf c.settingsPath) w).1 = .ok s →
        DeadlineTellable (c.amend s)) :
    Concurs terminal c c' serve w (start terminal arguments) (start terminal arguments') ∧
      ∀ (p : Project) (o : Upgrade.Options) (m : Manifest) (console console' : Console) (w' : σ),
        Upgrade.SameOutcome (({ p with console := console }.upgrade o m).exec serve w').1
          (({ p with console := console' }.upgrade o m).exec serve w').1 := by
  have hrefl : ∀ w, Indistinct serve Host.Call.isClock w w := fun _ _ _ _ => rfl
  refine ⟨?_, fun p o m console console' w' =>
    ((p.upgrade_alike console console' o m).held hunheeded (hrefl w') Host.Call.of_acts).1⟩
  have hpath : c'.settingsPath = c.settingsPath := by
    obtain ⟨_, _, _, rfl⟩ := exists_eq_of_mute_eq hmute
    rfl
  -- the first call is for the configuration, and its answer says whether there is a deadline
  have hproceed := proceed_alike terminal hmute hdeadline
  have hrun := hproceed.bind fun _ _ h => ending_alike terminal h
  have hafter := hrefl (serve (.contentOf c.settingsPath) w).2
  obtain ⟨hstatus, hindistinct, hjournal⟩ := hrun.held hunheeded hafter Host.Call.of_acts
  have hanswer := (hproceed.held hunheeded hafter Host.Call.of_acts).1
  have hstart : start terminal arguments = run terminal c := by rw [start, hread]
  have hstart' : start terminal arguments' = run terminal c' := by rw [start, hread']
  rw [hstart, hstart', run_eq, run_eq]
  have hcarry := carryOut_eq terminal c
  have hcarry' := carryOut_eq terminal c'
  rw [hpath] at hcarry'
  constructor
  all_goals rw [hcarry, hcarry']
  · exact hstatus
  · simp only [journal] at hjournal
    simp only [call_bind, journal, transcript, List.filter_cons, hjournal]
  · exact fun path => hindistinct.answer_eq rfl
  · exact hindistinct
  · exact hanswer

/-- A machine with a manifest that declares nothing, on which every command succeeds. It counts what
the user is told, and its clock goes by that. -/
def listening : Collaborator Host.interface Nat
  | .clock, told => (.ofNanoseconds told, told)
  | .print _, told => ((), told + 1)
  | .report _, told => ((), told + 1)
  | request, told =>
    ((Host.still
      (fun path => if path = "./package.json" then .bytes [0x7b, 0x7d] else .absent)
      (.ok ⟨true, [], []⟩) request ()).1, told)

theorem reporting_changes_nothing_done_listening :
    CommandLine.read ["--verbose"] = .ok { CommandLine.blank with verbose := true } ∧
      CommandLine.read ["-q", "--json"] =
        .ok { CommandLine.blank with json := true, quiet := true } ∧
      Unheeded listening Host.Call.isAside Host.Call.isClock ∧
      Settings.ofFile "./safeup.toml" (listening (.contentOf "./safeup.toml") 0).1 = .ok .usual ∧
      DeadlineTellable (CommandLine.blank.amend .usual) ∧
      Concurs false { CommandLine.blank with verbose := true }
        { CommandLine.blank with json := true, quiet := true } listening 0
        (start false ["--verbose"]) (start false ["-q", "--json"]) := by
  have hread : CommandLine.read ["--verbose"] = .ok { CommandLine.blank with verbose := true } :=
    rfl
  have hread' : CommandLine.read ["-q", "--json"] =
      .ok { CommandLine.blank with json := true, quiet := true } := rfl
  have hanswers : ∀ request told told', Host.Call.isClock request = false →
      (listening request told).1 = (listening request told').1 := by
    intro request told told' hseen
    cases request with
    | clock => cases hseen
    | _ => rfl
  have hunheeded : Unheeded listening Host.Call.isAside Host.Call.isClock :=
    fun _ _ _ _ _ hseen => hanswers _ _ _ hseen
  have hdeadline : DeadlineTellable (CommandLine.blank.amend .usual) := fun hmode => nomatch hmode
  refine ⟨hread, hread', hunheeded, rfl, hdeadline, ?_⟩
  refine (reporting_changes_nothing_done false hread hread' rfl hunheeded 0 ?_).1
  intro s hs
  obtain rfl : Settings.usual = s := Except.ok.inj hs
  exact hdeadline

end Program

end Patchwise

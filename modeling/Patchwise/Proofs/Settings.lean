import Patchwise.Proofs.CommandLine
import Patchwise.Proofs.Deadline
import Patchwise.Proofs.Pipeline

/-!
# What a valid configuration is good for

A configuration is checked once, after the command line has been taken into account, and used much
later. What is used then might still be missing as far as its types go: a package manager that can
be driven, a token, a test command with a program in it, a poll in front of a timeout. None of it is,
if the environment stays as it is.

## Main definitions

- `TestCommand.Runs` — the ways in which running a test command with a program can go
- `Verifier.IsReady` — a verifier that has what it needs
- `Settings.Suffices` — a configuration that has what a run needs

## Main results

- `Pipeline.polls_ne_nil_of_timeout` — a pipeline is asked about before it is given up
- `Settings.suffices_of_validate` — a valid configuration suffices
- `CommandLine.amended_suffices` — a configuration is amended by nothing but what the command line
  says, and suffices if it is valid
-/

namespace Patchwise

open Session

/-! ## Test commands -/

namespace TestCommand

variable {words : List String} {program directory : String} {args : List String}
  {ended : Except VerifyError TestOutcome} {events : List (Event Host.interface)}

/-- The ways in which running a test command can go that has a program. -/
inductive Runs (program : String) (args : List String) (directory : String) :
    Except VerifyError TestOutcome → List (Event Host.interface) → Prop
  /-- No machine could start the command. -/
  | flawed {reason : String} (h : (Command.mk program args directory).flaw? = some reason) :
      Runs program args directory (.error (.notStarted (line (program :: args)) reason)) []
  | cancelled :
      Runs program args directory (.error .cancelled)
        [⟨.startUnlessCancelled ⟨program, args, directory⟩, none⟩]
  /-- The machine could not start the command, for a reason of its own. -/
  | notStarted (reason : String) :
      Runs program args directory (.error (.notStarted (line (program :: args)) reason))
        [⟨.startUnlessCancelled ⟨program, args, directory⟩, some (.error reason)⟩]
  | ended (finished : Finished) :
      Runs program args directory (.ok (outcome finished))
        [⟨.startUnlessCancelled ⟨program, args, directory⟩, some (.ok finished)⟩]

theorem run_ensures {keep : Host.Call → Bool}
    (hkeep : ∀ command, keep (.startUnlessCancelled command) = true) (program : String)
    (args : List String) (directory : String) :
    (run (program :: args) directory).Ensures keep (Runs program args directory) := by
  unfold run
  dsimp only
  cases hflaw : (Command.mk program args directory).flaw? with
  | some reason => exact .done (.flawed hflaw)
  | none =>
    refine .call (hkeep _) fun answer => .done ?_
    match answer with
    | none => exact .cancelled
    | some (.error reason) => exact .notStarted reason
    | some (.ok finished) => exact .ended finished

/-- Whether a test command is said to be empty. -/
def IsCalledEmpty (ended : Except VerifyError TestOutcome) : Prop :=
  ∃ command, ended = .error (.notStarted command "empty test command")

/-- A test command with a program is not said to be empty, unless the machine itself says so. -/
theorem Runs.not_isCalledEmpty (h : Runs program args directory ended events)
    (hmachine : ∀ event ∈ events, event ≠
      ⟨.startUnlessCancelled ⟨program, args, directory⟩, some (.error "empty test command")⟩) :
    ¬ IsCalledEmpty ended := by
  rintro ⟨command, heq⟩
  cases h with
  | flawed hflaw =>
    cases heq
    unfold Command.flaw? at hflaw
    split at hflaw
    · exact absurd (Option.some.inj hflaw) (by decide)
    · cases hflaw
  | cancelled => cases heq
  | notStarted reason =>
    cases heq
    exact hmachine _ (List.mem_singleton_self _) rfl
  | ended finished => cases heq

theorem not_isCalledEmpty_run {σ : Type} {serve : Collaborator Host.interface σ}
    (hserve : ∀ command w,
      (serve (.startUnlessCancelled command) w).1 ≠ some (.error "empty test command"))
    (program : String) (args : List String) (directory : String) (w : σ) :
    ¬ IsCalledEmpty ((run (program :: args) directory).exec serve w).1 := by
  have hruns : (run (program :: args) directory).Ensures (fun _ => true)
      (Runs program args directory) :=
    run_ensures (fun _ => rfl) program args directory
  refine (hruns serve w).not_isCalledEmpty (forall_mem_journal (fun request w' heq => ?_) _ w)
  obtain ⟨rfl, hanswer⟩ := Event.mk.inj heq
  exact hserve _ w' (eq_of_heq hanswer)

end TestCommand

/-! ## Pipelines -/

namespace Pipeline

/-- If a pipeline may be asked about at all, it is asked about before it is given up. -/
theorem polls_ne_nil_of_timeout {steps : List Step} {polling : Polling} {pipeline name : String}
    {count : Nat} (hpos : 0 < polling.maxPolls)
    (h : Waits polling pipeline steps (.error (.timeout name count))) : polls steps ≠ [] := by
  generalize hended : (Except.error (.timeout name count) : Except VerifyError Status) = ended at h
  cases h with
  | timedOut =>
    rw [polls_runningSteps, ne_eq, List.replicate_eq_nil_iff]
    omega
  | cancelled hlt => cases hended
  | answered hlt hne =>
    rw [polls_append_answer]
    simp

end Pipeline

/-! ## Verifiers -/

/-- A verifier of a mode has what it needs: a test command has a program to start, and a pipeline is
asked about before it is given up. -/
inductive Verifier.IsReady : VerifyMode → Verifier → Prop
  | testCommand {program : String} {args : List String}
      (hrun : ∀ directory, (TestCommand.run (program :: args) directory).Ensures (fun _ => true)
        (TestCommand.Runs program args directory))
      (hcalled : ∀ {σ : Type} (serve : Collaborator Host.interface σ) (w : σ) directory,
        (∀ command w', (serve (.startUnlessCancelled command) w').1 ≠
          some (.error "empty test command")) →
        ¬ TestCommand.IsCalledEmpty
          ((TestCommand.run (program :: args) directory).exec serve w).1) :
      IsReady .testCommand (.testCommand (program :: args))
  | pipeline {service : CircleCi} {polling : Pipeline.Polling}
      (hpolls : ∀ {σ : Type} (serve : Collaborator Pipeline.interface σ) (w : σ) pipeline name count,
        ((Pipeline.waitFor polling pipeline).exec serve w).1 = .error (.timeout name count) →
          Pipeline.polls ((Pipeline.waitFor polling pipeline).transcript serve w) ≠ []) :
      IsReady .pipeline (.pipeline service polling)

theorem Verifier.isReady_testCommand {words : List String} (h : words ≠ []) :
    IsReady .testCommand (.testCommand words) := by
  obtain ⟨program, args, rfl⟩ := List.exists_cons_of_ne_nil h
  refine .testCommand (fun directory => ?_) fun serve w directory hserve => ?_
  · exact TestCommand.run_ensures (fun _ => rfl) program args directory
  · exact TestCommand.not_isCalledEmpty_run hserve program args directory w

theorem Verifier.isReady_pipeline (service : CircleCi) {polling : Pipeline.Polling}
    (h : 0 < polling.maxPolls) : IsReady .pipeline (.pipeline service polling) := by
  refine .pipeline fun serve w pipeline name count hended => ?_
  have hwaits := Pipeline.waitFor_waits serve polling pipeline w
  rw [hended] at hwaits
  exact Pipeline.polls_ne_nil_of_timeout h hwaits

/-! ## Configurations -/

namespace Settings

open Program

variable {s : Settings} {environment : Environment}

/-- A valid configuration whose upgrades a test command verifies has one. -/
theorem testCommand_ne_nil (h : s.validate environment = .ok ())
    (hmode : s.verify.mode = .testCommand) : s.verify.testCommand ≠ [] := by
  obtain ⟨_, htext, -⟩ := Except.bind_eq_ok_iff.1 h
  obtain ⟨_, -, hrest⟩ := Except.bind_eq_ok_iff.1 htext
  obtain ⟨_, -, hrest⟩ := Except.bind_eq_ok_iff.1 hrest
  rw [hmode] at hrest
  change refuseIf s.verify.testCommand.isEmpty _ = .ok () at hrest
  unfold refuseIf at hrest
  split at hrest
  · cases hrest
  next hsome => simpa using hsome

/-- A configuration has what a run with it needs in an environment, for the project of a command
line. -/
structure Suffices (c : CommandLine) (s : Settings) (environment : Environment) : Prop where
  configured : ∃ tool, s.packageTool = .ok tool
  packageTool : EnsuresIn environment (Program.packageTool c s) fun answer _ =>
    ∃ tool, answer = .ok tool
  token : s.verify.mode = .pipeline → EnsuresIn environment (Program.token s) fun answer _ =>
    ∃ token, answer = .ok token
  verifier : EnsuresIn environment (Program.verifier s) fun answer _ =>
    ∃ verifier, answer = .ok verifier ∧ verifier.IsReady s.verify.mode

theorem token_ensures_ok (h : s.validate environment = .ok ()) (hmode : s.verify.mode = .pipeline) :
    EnsuresIn environment (Program.token s) fun answer _ => ∃ token, answer = .ok token := by
  obtain ⟨token, htoken⟩ := exists_token h hmode
  refine (token_ensures s).mono ?_
  rintro answer events ⟨-, rfl⟩
  exact ⟨token, by rw [htoken]; rfl⟩

theorem verifier_ensures_isReady (h : s.validate environment = .ok ()) :
    EnsuresIn environment (Program.verifier s) fun answer _ =>
      ∃ verifier, answer = .ok verifier ∧ verifier.IsReady s.verify.mode := by
  unfold Program.verifier
  cases hmode : s.verify.mode with
  | testCommand =>
    have hready := Verifier.isReady_testCommand (testCommand_ne_nil h hmode)
    exact .done ⟨_, rfl, hready⟩
  | pipeline =>
    refine .andThen (token_ensures_ok h hmode) ?_ ?_
    · rintro obstacle events ⟨token, htoken⟩
      cases htoken
    · rintro token events -
      have hpolls : 0 < s.polling.maxPolls := maxPolls_pos h hmode
      exact .done ⟨_, rfl, Verifier.isReady_pipeline _ hpolls⟩

theorem suffices_of_validate (c : CommandLine) (h : s.validate environment = .ok ()) :
    s.Suffices c environment where
  configured := exists_packageTool h
  packageTool := (packageTool_ensures c h).mono fun _ _ hanswer => hanswer.1
  token := token_ensures_ok h
  verifier := verifier_ensures_isReady h

end Settings

/-! ## Command lines -/

namespace CommandLine

/-- What a command line makes of a configuration differs from it in nothing but what the command
line says, and if it is valid then it suffices for all that a run needs. -/
theorem amended_suffices {arguments : List String} {c : CommandLine}
    (hread : read arguments = .ok c) (found : Settings) :
    Amends (itemsOf none arguments) found (c.amend found) ∧
      ∀ environment, (c.amend found).validate environment = .ok () →
        (c.amend found).Suffices c environment :=
  ⟨(isGivenBy_of_read hread).amends found, fun _ hvalid => Settings.suffices_of_validate c hvalid⟩

def tested : CommandLine :=
  { blank with testCommand := some "yarn \t test" }

/-- A test command among white space is taken in place of the usual one. -/
theorem amended_suffices_tested :
    read ["--test-command", " yarn \t test "] = .ok tested ∧
      (tested.amend .usual).validate (fun _ => none) = .ok () ∧
      (tested.amend .usual).verify.testCommand = ["yarn", "test"] ∧
      Amends (itemsOf none ["--test-command", " yarn \t test "]) .usual (tested.amend .usual) ∧
      (tested.amend .usual).Suffices tested fun _ => none := by
  have hread : read ["--test-command", " yarn \t test "] = .ok tested := by decide +kernel
  have hvalid : (tested.amend .usual).validate (fun _ => none) = .ok () := by decide +kernel
  have hwords : (tested.amend .usual).verify.testCommand = ["yarn", "test"] := by decide +kernel
  obtain ⟨hamends, hsuffices⟩ := amended_suffices hread .usual
  exact ⟨hread, hvalid, hwords, hamends, hsuffices _ hvalid⟩

end CommandLine

end Patchwise

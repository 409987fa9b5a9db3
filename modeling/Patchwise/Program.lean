import Patchwise.CommandLine
import Patchwise.Project
import Patchwise.Settings.Document
import Patchwise.Summary.Presentation

/-!
# The program

From the command line to the summary: the configuration is read and checked, then the manifest, then
it is made sure that there is a repository, and only then a run begins.

## Main definitions

- `Program.Obstacle` — why there is no run
- `Program.prepare` — everything up to the run
- `Program.carryOut` — what a command line asks for
- `Program.start` — what arguments ask for, as an exit status

## Design notes

Each step of the preparation answers what it found or an obstacle, and an obstacle ends the
preparation. No step before the run starts a command other than the one that looks for a repository,
and none of them writes a file.
-/

namespace Patchwise.Program

def version : String := "0.3.0"

/-! ## Obstacles -/

/-- Why there is no run. -/
inductive Obstacle
  /-- The configuration or the manifest cannot be used. -/
  | input (cause : InputError)
  /-- There is no version control, or no repository. -/
  | repository (cause : ToolError)
  /-- A time came out too long to be told. -/
  | overflow
  deriving DecidableEq, Repr

/-- The machine's own words behind a complaint, if there are any. -/
def inputReason? : InputError → Option String
  | .unreadable _ reason | .unwritable _ reason => some reason
  | _ => none

def toolReason? : ToolError → Option String
  | .notStarted _ reason => some reason
  | _ => none

/-- What is told of an obstacle, from the outermost cause to the innermost. -/
def Obstacle.causes : Obstacle → List String
  | input cause => cause.message :: (inputReason? cause).toList
  | repository cause =>
    "git is unavailable or the project is not inside a git repository" :: cause.message ::
      (toolReason? cause).toList
  | overflow => [Pipeline.Polling.overflowMessage]

def Obstacle.line (terminal : Bool) (o : Obstacle) : String :=
  Style.boldRed.paint terminal "Error:" ++ " " ++ ": ".intercalate o.causes

def Obstacle.exitCode : Obstacle → Nat
  | input _ | repository _ => 1
  | overflow => 101

/-! ## Preparation -/

/-- A step of the preparation. -/
abbrev Step (α : Type) : Type := Session Host.interface (Except Obstacle α)

/-- Goes on with what a step found. -/
def Step.andThen {α β : Type} (step : Step α) (rest : α → Step β) : Step β :=
  step.bind fun answer =>
    match answer with
    | .ok found => rest found
    | .error obstacle => .done (.error obstacle)

/-- A step that asks nothing of the machine. -/
def Step.ofExcept {ε α : Type} (cause : ε → Obstacle) (answer : Except ε α) : Step α :=
  .done (answer.mapError cause)

def load {α : Type} (path : String) (read : File.Content → Except InputError α) : Step α :=
  .call (Host.Call.contentOf path) fun (content : File.Content) => Step.ofExcept .input (read content)

def settings (c : CommandLine) : Step Settings :=
  (load c.settingsPath (Settings.ofFile c.settingsPath)).andThen fun s => .done (.ok (c.amend s))

def token (s : Settings) : Step String :=
  .call (Host.Call.environment s.ci.tokenVariable) fun (value : Option String) =>
    Step.ofExcept .input (s.token value)

/-- Makes sure that the configuration can be worked with. -/
def check (s : Settings) : Step Unit :=
  Step.andThen (Step.ofExcept .input s.validateText) fun _ =>
    match s.verify.mode with
    | .testCommand => .done (.ok ())
    | .pipeline => (token s).andThen fun _ => .done (.ok ())

def tellMuch (console : Console) (lines : List String) : Step Unit :=
  if console.verbose then (Console.reportAll lines).bind fun _ => .done (.ok ())
  else .done (.ok ())

def banner (c : CommandLine) (s : Settings) : List String :=
  ["safeup v" ++ version, "Target: " ++ c.directory, "Strategy: " ++ s.strategy.label] ++
    (if c.dryRun then ["Mode: dry-run"] else [])

def manifest (c : CommandLine) (s : Settings) : Step Manifest :=
  let path := s.manifestPath c.directory
  load path (Manifest.ofFile path)

def ensureRepository (repository : Repository) : Step Unit :=
  repository.ensure.bind fun answer => Step.ofExcept .repository answer

def packageTool (c : CommandLine) (s : Settings) : Step PackageTool :=
  Step.andThen (Step.ofExcept .input s.packageTool) fun configured =>
    match configured with
    | some tool => .done (.ok tool)
    | none => (PackageTool.detect c.directory).bind fun tool => .done (.ok tool)

/-- How upgrades are verified, in words. -/
def verifyLine (s : Settings) : Except Obstacle String :=
  match s.verify.mode with
  | .testCommand => .ok ("Verify: " ++ TestCommand.line s.verify.testCommand)
  | .pipeline =>
    match s.polling.deadline with
    | some deadline => .ok ("Verify: ci (gives up after " ++ toString (deadline / 1000) ++ "s)")
    | none => .error .overflow

/-- Tells which package manager is driven and how upgrades are verified, if much is told. -/
def tellTools (console : Console) (s : Settings) (tool : PackageTool) : Step Unit :=
  (tellMuch console ["Package manager: " ++ tool.program]).andThen fun _ =>
    if console.verbose then
      Step.andThen (Step.ofExcept id (verifyLine s)) fun line => tellMuch console [line]
    else .done (.ok ())

def verifier (s : Settings) : Step Verifier :=
  match s.verify.mode with
  | .testCommand => .done (.ok (.testCommand s.verify.testCommand))
  | .pipeline =>
    (token s).andThen fun token =>
      let service := CircleCi.ofBase s.ci.apiBase (s.ci.projectSlug.getD "") token
      .done (.ok (.pipeline service s.polling))

def console (terminal : Bool) (c : CommandLine) : Console :=
  { verbose := c.verbose, quiet := c.quiet, terminal }

/-- What a run needs. -/
structure Prepared where
  settings : Settings
  manifest : Manifest
  project : Project

/-- Everything up to the run. -/
def prepare (terminal : Bool) (c : CommandLine) : Step Prepared :=
  let console := console terminal c
  (settings c).andThen fun settings =>
    (check settings).andThen fun _ =>
      (tellMuch console (banner c settings)).andThen fun _ =>
        (manifest c settings).andThen fun manifest =>
          (ensureRepository { directory := c.directory, console }).andThen fun _ =>
            (packageTool c settings).andThen fun tool =>
              (tellTools console settings tool).andThen fun _ =>
                (verifier settings).andThen fun verifier =>
                  .done (.ok { settings, manifest,
                               project := { directory := c.directory, tool, verifier, console } })

/-! ## The whole program -/

def presentation (c : CommandLine) : Presentation :=
  .ofFlags c.json c.verbose c.quiet

def upgrade (terminal : Bool) (c : CommandLine) (p : Prepared) :
    Session Host.interface Summary :=
  (p.project.upgrade (c.options p.settings) p.manifest).bind fun (summary, _) =>
    .call (Host.Call.print ((presentation c).render terminal summary)) fun (_ : Unit) =>
      .done summary

/-- Does what a command line asks for, and answers the summary of the run, if there was one. -/
def carryOut (terminal : Bool) (c : CommandLine) : Step Summary :=
  (prepare terminal c).andThen fun prepared =>
    (upgrade terminal c prepared).bind fun summary => .done (.ok summary)

/-- Does what a command line asks for, and answers the status that the program ends with. -/
def run (terminal : Bool) (c : CommandLine) : Session Host.interface Nat :=
  (carryOut terminal c).bind fun answer =>
    match answer with
    | .ok _ => .done 0
    | .error obstacle =>
      (Console.report (obstacle.line terminal)).bind fun _ => .done obstacle.exitCode

def usage : String :=
  "Usage: safeup [OPTIONS] [PATH]\n\n" ++
  "Options:\n" ++
  "      --config <FILE>           Configuration file\n" ++
  "      --strategy <STRATEGY>     conservative or aggressive\n" ++
  "      --verify <MODE>           local or ci\n" ++
  "      --test-command <COMMAND>  Test command\n" ++
  "      --exclude <PACKAGE>       Leave a package out\n" ++
  "      --only <PACKAGE>          Consider a package, and no others\n" ++
  "  -n, --dry-run                 Show what would be upgraded\n" ++
  "      --json                    Give the summary out as JSON\n" ++
  "      --verbose                 Tell more\n" ++
  "  -q, --quiet                   Tell less\n" ++
  "  -h, --help                    Show this text\n" ++
  "  -V, --version                 Show the version\n"

def complaint : CommandLine.Refusal → String
  | .unknownArgument => "unexpected argument"
  | .missingValue => "a value is required"
  | .refusedValue reason => "invalid value: " ++ reason
  | .repeated => "an argument cannot be used twice"
  | .unwantedValue => "unexpected value"
  | .help | .version => ""

/-- Answers arguments that do not ask for a run. -/
def refuse (refusal : CommandLine.Refusal) : Session Host.interface Nat :=
  let say (text : String) : Session Host.interface Unit :=
    .ask (I := Host.interface) (Host.Call.print text)
  let told :=
    match refusal with
    | .help => say usage
    | .version => say ("safeup " ++ version ++ "\n")
    | other => Console.report ("error: " ++ complaint other)
  told.bind fun _ => .done refusal.exitCode

/-- Does what arguments ask for, and answers the status that the program ends with. -/
def start (terminal : Bool) (arguments : List String) : Session Host.interface Nat :=
  match CommandLine.read arguments with
  | .ok c => run terminal c
  | .error refusal => refuse refusal

end Patchwise.Program

import Patchwise.PackageTool
import Patchwise.Path
import Patchwise.Pipeline.CircleCi
import Patchwise.Manifest
import Patchwise.Upgrade.Options

/-!
# Settings

What a project's configuration says about upgrading it. Everything has a usual value.

## Main definitions

- `VerifyMode` — how upgrades are verified
- `Settings` — the whole configuration
- `Settings.manifestPath`, `Settings.packageTool`, `Settings.token`, `Settings.polling` — what the
  configuration stands for
- `Settings.validate` — whether the configuration can be worked with
-/

namespace Patchwise

/-- How upgrades are verified. -/
inductive VerifyMode
  | testCommand
  | pipeline
  deriving DecidableEq, Repr

namespace VerifyMode

def label : VerifyMode → String
  | testCommand => "local"
  | pipeline => "ci"

def ofLabel? (word : String) : Option VerifyMode :=
  [testCommand, pipeline].find? (·.label == word)

/-- The way of verifying that a user's word names. Case and the white space around the word do not
matter. -/
def ofText (text : String) : Except String VerifyMode :=
  let word := Text.lowered (Text.trimmed text)
  match ofLabel? word with
  | some mode => .ok mode
  | none => .error ("unknown verify mode '" ++ word ++ "': expected 'local' or 'ci'")

end VerifyMode

/-- What is configured about verifying. -/
structure Settings.Verify where
  mode : VerifyMode
  /-- The words of the test command, its program first. -/
  testCommand : List String
  deriving DecidableEq, Repr

structure Settings.Ci where
  projectSlug : Option String
  apiBase : String
  /-- The variable of the environment that holds the token. -/
  tokenVariable : String
  pollIntervalSecs : Nat
  maxPolls : Nat
  deriving DecidableEq, Repr

/-- The configuration of a project. -/
structure Settings where
  manifest : String
  /-- The manifest sections, in the order in which they are processed. -/
  dependencyTypes : List String
  strategy : Strategy
  packageManager : Option String
  verify : Settings.Verify
  ci : Settings.Ci
  deriving DecidableEq, Repr

namespace Settings

/-- The name of a configuration's file, unless another one is given. -/
def fileName : String := "safeup.toml"

/-- What is configured about verifying if nothing is. -/
def Verify.usual : Verify :=
  { mode := .testCommand, testCommand := ["yarn", "docker:test", "backend"] }

def Ci.usual : Ci :=
  { projectSlug := none, apiBase := CircleCi.usualBase, tokenVariable := "CIRCLECI_TOKEN",
    pollIntervalSecs := Pipeline.Polling.usual.interval / 1000,
    maxPolls := Pipeline.Polling.usual.maxPolls }

/-- The configuration of a project that configures nothing. -/
def usual : Settings :=
  { manifest := Manifest.fileName, dependencyTypes := Upgrade.Options.usualSections,
    strategy := .conservative, packageManager := none, verify := .usual, ci := .usual }

/-- Where the manifest of the project in a directory is. -/
def manifestPath (s : Settings) (directory : String) : String :=
  Path.joined directory s.manifest

def packageTool (s : Settings) : Except InputError (Option PackageTool) :=
  match s.packageManager with
  | none => .ok none
  | some word =>
    match PackageTool.ofText word with
    | .ok tool => .ok (some tool)
    | .error reason => .error (.invalidSettings reason)

def polling (s : Settings) : Pipeline.Polling :=
  { interval := s.ci.pollIntervalSecs * 1000, maxPolls := s.ci.maxPolls }

/-- The token for the CI service, given the value of the variable that is to hold it. A blank value
is none. -/
def token (s : Settings) (value : Option String) : Except InputError String :=
  match value.filter (!Text.allBlank ·) with
  | some token => .ok token
  | none => .error (.invalidSettings ("CI verification needs a token in $" ++ s.ci.tokenVariable))

/-- Refuses a configuration for a reason, if the condition holds. -/
def refuseIf (condition : Bool) (reason : String) : Except InputError Unit :=
  if condition then .error (.invalidSettings reason) else .ok ()

/-- Whether the configuration by itself can be worked with. -/
def validateText (s : Settings) : Except InputError Unit := do
  refuseIf s.dependencyTypes.isEmpty "dependency_types must name at least one section"
  let _ ← s.packageTool
  match s.verify.mode with
  | .testCommand =>
    refuseIf s.verify.testCommand.isEmpty "verify.test_command must not be empty"
  | .pipeline =>
    refuseIf (Text.allBlank (s.ci.projectSlug.getD "")) "CI verification needs ci.project_slug"
    refuseIf (s.ci.maxPolls == 0) "ci.max_polls must be at least 1"

/-- Whether the configuration can be worked with in an environment. -/
def validate (s : Settings) (environment : String → Option String) : Except InputError Unit := do
  s.validateText
  match s.verify.mode with
  | .testCommand => return ()
  | .pipeline => let _ ← s.token (environment s.ci.tokenVariable)

end Settings

end Patchwise

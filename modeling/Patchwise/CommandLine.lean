import Patchwise.Settings

/-!
# The command line

What a user can say on the command line, and how the arguments are read.

## Main definitions

- `CommandLine` — what a user asks for
- `CommandLine.read` — what arguments ask for
- `CommandLine.Refusal` — why there is nothing to do
- `CommandLine.amend`, `CommandLine.options` — the configuration and the options of a run that are
  asked for

## Design notes

A value that stands in an argument of its own is looked at only when the next argument has been seen
to be in order, or when there is none. Until then it is pending.
-/

namespace Patchwise

/-- What a user asks for. -/
structure CommandLine where
  path : Option String
  config : Option String
  strategy : Option Strategy
  verify : Option VerifyMode
  testCommand : Option String
  exclude : List String
  only : List String
  dryRun : Bool
  json : Bool
  verbose : Bool
  quiet : Bool
  deriving DecidableEq, Repr

namespace CommandLine

def blank : CommandLine :=
  { path := none, config := none, strategy := none, verify := none, testCommand := none,
    exclude := [], only := [], dryRun := false, json := false, verbose := false, quiet := false }

/-- Why the arguments give the program nothing to do. -/
inductive Refusal
  | unknownArgument
  | missingValue
  /-- A value was not understood, for the given reason. -/
  | refusedValue (reason : String)
  | repeated
  | unwantedValue
  | help
  | version
  deriving DecidableEq, Repr

def Refusal.exitCode : Refusal → Nat
  | help | version => 0
  | _ => 2

/-! ## Values and switches -/

inductive Parameter
  | path
  | config
  | strategy
  | verify
  | testCommand
  | exclude
  | only
  deriving DecidableEq, Repr

inductive Switch
  | dryRun
  | json
  | verbose
  | quiet
  | help
  | version
  deriving DecidableEq, Repr

/-- The parameter that a long name stands for. -/
def Parameter.ofName? (name : String) : Option Parameter :=
  [("config", config), ("strategy", strategy), ("verify", verify), ("test-command", testCommand),
    ("exclude", exclude), ("only", only)].lookup name

def Switch.ofName? (name : String) : Option Switch :=
  [("dry-run", dryRun), ("json", json), ("verbose", verbose), ("quiet", quiet), ("help", help),
    ("version", version)].lookup name

def Switch.ofLetter? (letter : Char) : Option Switch :=
  [('n', dryRun), ('q', quiet), ('h', help), ('V', version)].lookup letter

def once (said : Bool) : Except Refusal Unit :=
  if said then .error .repeated else .ok ()

def pathOfText (text : String) : Except Refusal String :=
  if text.isEmpty then .error .missingValue else .ok text

/-- The test command in a value: it may not be blank, and white space around it does not count. -/
def testCommandOfText (text : String) : Except String String :=
  if Text.allBlank text then .error "empty test command" else .ok (Text.trimmed text)

def give (c : CommandLine) (value : String) : Parameter → Except Refusal CommandLine
  | .path => do
    once c.path.isSome
    return { c with path := some (← pathOfText value) }
  | .config => do
    once c.config.isSome
    return { c with config := some (← pathOfText value) }
  | .strategy => do
    once c.strategy.isSome
    return { c with strategy := some (← (Strategy.ofText value).mapError .refusedValue) }
  | .verify => do
    once c.verify.isSome
    return { c with verify := some (← (VerifyMode.ofText value).mapError .refusedValue) }
  | .testCommand => do
    once c.testCommand.isSome
    return { c with testCommand := some (← (testCommandOfText value).mapError .refusedValue) }
  | .exclude => .ok { c with exclude := c.exclude ++ [value] }
  | .only => .ok { c with only := c.only ++ [value] }

def turnOn (c : CommandLine) : Switch → Except Refusal CommandLine
  | .dryRun => do once c.dryRun; return { c with dryRun := true }
  | .json => do once c.json; return { c with json := true }
  | .verbose => do once c.verbose; return { c with verbose := true }
  | .quiet => do once c.quiet; return { c with quiet := true }
  | .help => .error .help
  | .version => .error .version

/-! ## Arguments -/

/-- What an argument looks like. -/
inductive Shape
  /-- Two dashes alone, behind which nothing is an option. -/
  | separator
  /-- A long name, and the value behind an equals sign. -/
  | long (name : String) (value : Option String)
  /-- Letters behind one dash. -/
  | letters (letters : List Char)
  | plain
  deriving DecidableEq, Repr

/-- What an argument looks like. -/
def shape : List Char → Shape
  | ['-', '-'] => .separator
  | '-' :: '-' :: rest =>
    .long (.ofList (rest.takeWhile (· != '=')))
      (match rest.dropWhile (· != '=') with
      | [] => none
      | _ :: value => some (.ofList value))
  | '-' :: letter :: rest => .letters (letter :: rest)
  | _ => .plain

/-- What has been read of the arguments. -/
structure Progress where
  given : CommandLine
  /-- The parameter that the last argument is about, and its value unless that is still to come. -/
  pending : Option (Parameter × Option String)
  /-- Whether nothing that follows is an option. -/
  ended : Bool

/-- Takes what is pending over. -/
def Progress.settle (p : Progress) : Except Refusal CommandLine :=
  match p.pending with
  | none => .ok p.given
  | some (_, none) => .error .missingValue
  | some (parameter, some value) => p.given.give value parameter

def Progress.hasPath (p : Progress) : Bool :=
  p.given.path.isSome || (p.pending.map (·.1)) == some .path

def Progress.takePlain (p : Progress) (argument : String) : Except Refusal Progress :=
  match p.ended, p.pending with
  | false, some (parameter, none) => .ok { p with pending := some (parameter, some argument) }
  | _, _ =>
    if p.hasPath then .error .unknownArgument
    else do return { p with given := ← p.settle, pending := some (.path, some argument) }

/-- Reads a long name, with the value that stands in the same argument. -/
def Progress.takeLong (p : Progress) (name : String) (value : Option String) :
    Except Refusal Progress :=
  match Parameter.ofName? name, Switch.ofName? name, value with
  | some parameter, _, some value => do
    let given ← p.settle
    return { p with given := ← given.give value parameter, pending := none }
  | some parameter, _, none => do
    return { p with given := ← p.settle, pending := some (parameter, none) }
  | none, some switch, none => do
    let given ← p.settle
    return { p with given := ← given.turnOn switch, pending := none }
  | none, some _, some _ => .error .unwantedValue
  | none, none, _ => .error .unknownArgument

def Progress.takeLetter (p : Progress) (letter : Char) : Except Refusal Progress :=
  match Switch.ofLetter? letter with
  | some switch => do
    let given ← p.settle
    return { p with given := ← given.turnOn switch, pending := none }
  | none => .error .unknownArgument

def Progress.take (p : Progress) (argument : String) : Except Refusal Progress :=
  if p.ended then p.takePlain argument
  else
    match shape argument.toList with
    | .separator => .ok { p with ended := true }
    | .long name value => p.takeLong name value
    | .letters letters => letters.foldlM Progress.takeLetter p
    | .plain => p.takePlain argument

def read (arguments : List String) : Except Refusal CommandLine := do
  (← arguments.foldlM Progress.take ⟨blank, none, false⟩).settle

/-! ## What is asked for -/

def directory (c : CommandLine) : String :=
  c.path.getD "."

def settingsPath (c : CommandLine) : String :=
  c.config.getD (Path.joined c.directory Settings.fileName)

/-- A configuration, as far as the command line does not say something else. -/
def amend (c : CommandLine) (s : Settings) : Settings :=
  { s with
    strategy := c.strategy.getD s.strategy
    verify :=
      { mode := c.verify.getD s.verify.mode
        testCommand := (c.testCommand.map Text.wordsOf).getD s.verify.testCommand } }

/-- The options of a run with a configuration. -/
def options (c : CommandLine) (s : Settings) : Upgrade.Options :=
  { strategy := s.strategy, dependencyTypes := s.dependencyTypes, only := c.only,
    exclude := c.exclude, dryRun := c.dryRun }

end CommandLine

end Patchwise

import Patchwise.Failure
import Patchwise.Text.WordChar

/-!
# Package managers

The package managers that can be driven, and the commands that make them do what an upgrade needs.

## Main definitions

- `PackageTool` — a package manager
- `PackageTool.outdatedArgs`, `PackageTool.upgradeArgs`, `PackageTool.addArgs` — its commands
- `PackageTool.lockfiles` — how a project's package manager is told
- `PackageTool.argument` — a package at a version, as an argument that is safe to pass
-/

namespace Patchwise

/-- A package manager. -/
inductive PackageTool
  | yarn
  | npm
  | pnpm
  deriving DecidableEq, Repr

namespace PackageTool

def program : PackageTool → String
  | yarn => "yarn"
  | npm => "npm"
  | pnpm => "pnpm"

/-- The package manager that a user's word names. Case and the white space around the word do not
matter. -/
def ofText (text : String) : Except String PackageTool :=
  let word := Text.lowered (Text.trimmed text)
  match [yarn, npm, pnpm].find? (·.program == word) with
  | some tool => .ok tool
  | none =>
    .error ("unsupported package manager '" ++ word ++ "': expected 'yarn', 'npm' or 'pnpm'")

/-- The lock files that tell a project's package manager. One that stands before another counts
more. -/
def lockfiles : List (String × PackageTool) :=
  [("yarn.lock", yarn), ("pnpm-lock.yaml", pnpm), ("package-lock.json", npm)]

/-- The package manager of a project without any lock file. -/
def usual : PackageTool := yarn

/-- The arguments of the command that reports outdated packages. -/
def outdatedArgs : PackageTool → List String
  | yarn => ["outdated", "--json"]
  | npm => ["outdated", "--json", "--long"]
  | pnpm => ["outdated", "--format", "json"]

/-- The arguments of the command that upgrades a package. -/
def upgradeArgs (tool : PackageTool) (spec : String) : List String :=
  let verb :=
    match tool with
    | yarn => "upgrade"
    | npm => "install"
    | pnpm => "update"
  [verb, spec]

/-- The manifest section of packages that are needed for development only. -/
def developmentSection : String := "devDependencies"

/-- The arguments of the command that pins a package in a manifest section. -/
def addArgs (tool : PackageTool) (spec dependencyType : String) : List String :=
  let verb :=
    match tool with
    | npm => "install"
    | yarn | pnpm => "add"
  let flag :=
    match tool with
    | npm => "--save-dev"
    | yarn | pnpm => "--dev"
  [verb, spec] ++ (if dependencyType = developmentSection then [flag] else [])

/-! ## Safe arguments -/

/-- Whether a character is an ASCII letter or digit. -/
def isAsciiAlphanumeric (c : Char) : Bool :=
  c.isAlphanum

/-- Whether a text is a letter or digit followed by word characters and the extra ones. -/
def isIdentifier (extra : List Char) : List Char → Bool
  | [] => false
  | c :: rest => isAsciiAlphanumeric c && rest.all fun c => Text.isWord c || extra.contains c

def nameMarks : List Char := ['.', '-']

def versionMarks : List Char := ['.', '+', '-']

/-- Whether a text is the name of a package, with or without a scope in front of it. -/
def isPackageName (cs : List Char) : Bool :=
  match cs with
  | '@' :: rest =>
    isIdentifier nameMarks (rest.takeWhile (· != '/')) &&
      isIdentifier nameMarks ((rest.dropWhile (· != '/')).drop 1)
  | cs => isIdentifier nameMarks cs

/-- Whether a text can stand as a version in an argument. -/
def isVersionArgument (cs : List Char) : Bool :=
  isIdentifier versionMarks cs

/-- A package at a version, as an argument. A name or a version that a tool could take for something
else is refused, the name first. -/
def argument (tool : PackageTool) (package version : String) : Except ToolError String :=
  if !isPackageName package.toList then .error (.refused tool.program package)
  else if !isVersionArgument version.toList then .error (.refused tool.program version)
  else .ok (package ++ "@" ++ version)

end PackageTool

end Patchwise

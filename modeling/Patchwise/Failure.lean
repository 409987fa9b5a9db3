import Patchwise.Report

/-!
# Failures

Everything that can go wrong around an upgrade, by cause, and how it is told.

## Main definitions

- `InputError` — a manifest or a configuration that cannot be used
- `ToolError` — a package manager or version control command that did not do its work
- `VerifyError` — a verification that came to no verdict
- `Failure` — any cause that ends a section or an attempt
-/

namespace Patchwise

/-- Why a manifest or a configuration cannot be used. -/
inductive InputError
  | manifestNotFound (path : String)
  | unreadable (path reason : String)
  | unwritable (path reason : String)
  /-- The manifest's text is no JSON. -/
  | notJson (path detail : String)
  | notDeclared (path dependencyType package : String)
  | invalidSettings (detail : String)
  deriving DecidableEq, Repr

def InputError.message : InputError → String
  | manifestNotFound path => "manifest file not found: " ++ path
  | unreadable path reason => "failed to read " ++ path ++ ": " ++ reason
  | unwritable path reason => "failed to write " ++ path ++ ": " ++ reason
  | notJson path detail => "failed to parse JSON in " ++ path ++ ": " ++ detail
  | notDeclared path dependencyType package =>
    "'" ++ package ++ "' is not declared under " ++ dependencyType ++ " in " ++ path
  | invalidSettings detail => "invalid configuration: " ++ detail

/-- Why a command did not do its work. -/
inductive ToolError
  /-- The command could not be started. -/
  | notStarted (command reason : String)
  /-- The command said that it failed. -/
  | failed (command stderr : String)
  /-- An argument was refused, so nothing was started. -/
  | refused (tool argument : String)
  deriving DecidableEq, Repr

def ToolError.message : ToolError → String
  | notStarted command reason => "failed to execute '" ++ command ++ "': " ++ reason
  | failed command stderr => "'" ++ command ++ "' failed: " ++ stderr
  | refused tool argument => "refusing to pass unsafe argument '" ++ argument ++ "' to " ++ tool

/-- Why a verification came to no verdict. -/
inductive VerifyError
  | notStarted (command reason : String)
  /-- The CI service could not be asked, or gave no usable answer. -/
  | network (endpoint detail : String)
  /-- A pipeline was still running when no polls were left. -/
  | timeout (pipeline : String) (polls : Nat)
  | cancelled
  /-- Version control could not prepare the verification. -/
  | tool (cause : ToolError)
  deriving DecidableEq, Repr

def VerifyError.message : VerifyError → String
  | notStarted command reason => "failed to start test command '" ++ command ++ "': " ++ reason
  | network endpoint detail => "CI request to " ++ endpoint ++ " failed: " ++ detail
  | timeout pipeline polls =>
    "pipeline " ++ pipeline ++ " still running after " ++ toString polls ++ " polls"
  | cancelled => "verification cancelled"
  | tool cause => cause.message

/-- A cause that ends a section or an attempt. -/
inductive Failure
  | input (cause : InputError)
  | report (cause : ReportError)
  | tool (cause : ToolError)
  deriving DecidableEq, Repr

def Failure.message : Failure → String
  | input cause => cause.message
  | report cause => cause.message
  | tool cause => cause.message

end Patchwise

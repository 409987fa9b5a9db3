import Patchwise.Style
import Patchwise.Summary

/-!
# Summaries as text

A run summary as it is shown to a reader: each section with its attempts, the totals, and what needs
attention.

## Main definitions

- `Verbosity` — how much is shown
- `Summary.Canvas` — how much is shown, and with which marks and colours
- `Summary.failed` — how many attempts failed
- `SectionResult.listing` — one section
- `Summary.listing` — the whole summary
-/

namespace Patchwise

/-- How much of a summary is shown. -/
inductive Verbosity
  /-- One line. -/
  | quiet
  | normal
  /-- Also sections without attempts, and notes in full. -/
  | verbose
  deriving DecidableEq, Repr, Inhabited

namespace Summary

structure Canvas where
  verbosity : Verbosity
  /-- Whether marks are chosen, and texts styled, for a reader with colours. -/
  color : Bool
  /-- Whether styled texts carry the escape sequences of a terminal. -/
  terminal : Bool
  deriving DecidableEq, Repr

/-- How many attempts failed. -/
def failed (s : Summary) : Nat :=
  s.attempts.countP (·.state.isFailure)

namespace Canvas

/-- A text in a style, if there are colours. -/
def styled (c : Canvas) (style : Style) (text : String) : String :=
  if c.color then style.paint c.terminal text else text

def severity (c : Canvas) (s : Severity) : String :=
  let style : Style :=
    match s with
    | .major => .boldRed
    | .minor => .yellow
    | .patch => .green
    | .unchanged => .dimmed
  c.styled style s.label

def state (c : Canvas) (s : Attempt.State) : String :=
  match s with
  | .committed => c.styled .boldGreen s.label
  | .planned => c.styled .cyan s.label
  | .reverted => c.styled .yellow s.label
  | .applyFailed | .commitFailed | .revertFailed => c.styled .boldRed s.label
  | _ => s.label

def arrow (c : Canvas) : String :=
  if c.color then c.styled .dimmed "→" else "->"

/-- The mark in front of the reason why a section was not processed. -/
def errorMark (c : Canvas) : String :=
  if c.color then c.styled .red "✗" else "error:"

/-- The mark in front of an error in the list of errors. -/
def bullet (c : Canvas) : String :=
  if c.color then c.styled .red "✗" else "-"

end Canvas

/-- The least width of the column of package names. -/
def nameWidth : Nat := 20

/-- A text with spaces behind it up to a width in characters. -/
def padRight (width : Nat) (text : String) : String :=
  text ++ .ofList (List.replicate (width - text.length) ' ')

/-- The lines of a note that are not blank. -/
def noteLines (note : String) : List String :=
  (Text.linesOf note).filter (!Text.allBlank ·)

/-- The lines of an attempt: what was tried and how it ended, and in a verbose listing its note. -/
def attemptLines (c : Canvas) (width : Nat) (a : Attempt) : List String :=
  let line := "  " ++ padRight width a.package ++ " " ++ a.previous ++ " " ++ c.arrow ++ " " ++
    a.target ++ " [" ++ c.severity a.severity ++ "] " ++ c.state a.state
  let notes :=
    match c.verbosity, a.note with
    | .verbose, some note => (noteLines note).map fun text => "      " ++ c.styled .dimmed text
    | _, _ => []
  line :: notes

/-- The width of the column of package names: that of the longest name in bytes, but not less than
`nameWidth`. -/
def columnWidth (attempts : List Attempt) : Nat :=
  attempts.foldl (fun width a => max width a.package.utf8ByteSize) nameWidth

/-- The lines of a section. A section without attempts and without an error is shown only in a
verbose listing. -/
def sectionLines (c : Canvas) (r : SectionResult) : List String :=
  if r.attempts.isEmpty && r.error.isNone && c.verbosity ≠ .verbose then
    []
  else
    let counts := "(" ++ toString r.outdated ++ " outdated, " ++ toString r.groups ++ " group(s))"
    let heading := c.styled .bold r.dependencyType ++ " " ++ c.styled .dimmed counts
    let error := r.error.map fun error => "  " ++ c.errorMark ++ " " ++ error
    heading :: error.toList ++
      r.attempts.flatMap (attemptLines c (columnWidth r.attempts)) ++ [""]

/-- The mark in front of the totals of a dry run. -/
def dryRunMark (c : Canvas) (s : Summary) : String :=
  if s.dryRun then c.styled .cyan "(dry-run)" ++ " " else ""

/-- The one line of a quiet listing. -/
def quietLine (c : Canvas) (s : Summary) : String :=
  dryRunMark c s ++
    if s.dryRun then toString (s.count .planned) ++ " planned"
    else toString s.committed ++ " committed, " ++ toString s.reverted ++ " reverted, " ++
      toString s.failed ++ " failed"

def totalsLine (c : Canvas) (s : Summary) : String :=
  if s.dryRun then "  " ++ toString (s.count .planned) ++ " upgrade(s) planned"
  else "  " ++ c.styled .green (toString s.committed) ++ " committed, " ++
    c.styled .yellow (toString s.reverted) ++ " reverted, " ++
    c.styled .red (toString s.failed) ++ " failed"

/-- The first line of an error, as an item of the list of errors. -/
def errorLine (c : Canvas) (error : String) : String :=
  "  " ++ c.bullet ++ " " ++ ((Text.linesOf error).head?.getD "")

def errorLines (c : Canvas) (errors : List String) : List String :=
  if errors.isEmpty then []
  else (c.styled .boldRed "Errors" ++ ":") :: errors.map (errorLine c)

/-- The lines below the sections: totals, errors, and why the run stopped. -/
def closingLines (c : Canvas) (s : Summary) : List String :=
  [dryRunMark c s ++ c.styled .bold "Summary" ++ ":", totalsLine c s] ++ errorLines c s.errors ++
    (s.halted.map fun reason => c.styled .boldRed "Stopped:" ++ " " ++ reason).toList

/-- Lines as a text, each with a line feed at its end. -/
def ofLines (lines : List String) : String :=
  String.join (lines.map (· ++ "\n"))

def listing (c : Canvas) (s : Summary) : String :=
  ofLines <|
    if c.verbosity = .quiet then [quietLine c s]
    else s.sections.flatMap (sectionLines c) ++ closingLines c s

end Summary

def SectionResult.listing (c : Summary.Canvas) (r : SectionResult) : String :=
  Summary.ofLines (Summary.sectionLines c r)

end Patchwise

import Patchwise.Text

/-!
# Version requirements

What a manifest declares for a package: a range operator, and the version that it applies to.

## Main definitions

- `Requirement.Operator` — the range operators
- `Requirement` — an operator and a version
- `Requirement.ofSpec` — takes a declared specification apart
-/

namespace Patchwise

/-- A range operator and the version that it applies to. -/
structure Requirement where
  /-- The operator, which is empty if there is none. -/
  operator : List Char
  version : List Char
  deriving DecidableEq, Repr

namespace Requirement

/-- The range operators. One that begins another stands after it. -/
def operators : List (List Char) :=
  [['^'], ['~'], ['>', '='], ['<', '='], ['>'], ['<'], ['=']]

/-- The operator that a text begins with, and the rest of the text. The longest one is meant. -/
def takeOperator (cs : List Char) : List Char × List Char :=
  match operators.find? (·.isPrefixOf cs) with
  | some operator => (operator, cs.drop operator.length)
  | none => ([], cs)

/-- Takes a declared specification apart. White space around it and after the operator is not part
of the version; a specification that goes over several lines is left as it is. -/
def ofSpec (spec : List Char) : Requirement :=
  let (operator, rest) := takeOperator (Text.trim spec)
  let version := Text.trimStart rest
  if version.contains '\n' then ⟨[], spec⟩ else ⟨operator, version⟩

end Requirement

end Patchwise

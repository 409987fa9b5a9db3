/-!
# Verdicts

What a verification that ran to its end says of an upgrade.

## Main definitions

- `Verdict` — the upgrade is safe to keep, or it is not
-/

namespace Patchwise

/-- What a verification says of an upgrade. -/
inductive Verdict
  | passed
  | failed (reason : String)
  deriving DecidableEq, Repr

namespace Verdict

def isPassed : Verdict → Bool
  | passed => true
  | failed _ => false

def display : Verdict → String
  | passed => "passed"
  | failed reason => "failed: " ++ reason

end Verdict

end Patchwise

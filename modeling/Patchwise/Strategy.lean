import Patchwise.Record

/-!
# Upgrade strategies

How far an upgrade may move a package.

## Main definitions

- `Strategy` — staying in the declared range or going for the newest version
- `Strategy.reach` — the version that a strategy targets
- `Strategy.ofText` — the strategy that a user's word names
-/

namespace Patchwise

/-- How far an upgrade may move a package. -/
inductive Strategy
  /-- Stay in the declared range. -/
  | conservative
  /-- Go for the newest published version. -/
  | aggressive
  deriving DecidableEq, Repr, Inhabited

namespace Strategy

/-- The version that a strategy sizes and targets. -/
def reach : Strategy → Reach
  | conservative => .wanted
  | aggressive => .latest

def label : Strategy → String
  | conservative => "conservative"
  | aggressive => "aggressive"

def ofLabel? (word : String) : Option Strategy :=
  [conservative, aggressive].find? (·.label == word)

theorem ofLabel?_label (s : Strategy) : ofLabel? s.label = some s := by
  cases s <;> rfl

/-- The strategy that a user's word names, by itself or by the version it targets. Case and the
white space around the word do not matter. -/
def ofText (text : String) : Except String Strategy :=
  let word := Text.lowered (Text.trimmed text)
  if word = "conservative" ∨ word = "wanted" then .ok conservative
  else if word = "aggressive" ∨ word = "latest" then .ok aggressive
  else .error ("invalid strategy '" ++ word ++ "': expected 'conservative' or 'aggressive'")

end Strategy

end Patchwise

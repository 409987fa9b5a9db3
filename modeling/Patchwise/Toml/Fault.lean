/-!
# Faults of TOML documents

## Main definitions

- `Toml.Fault` — what is wrong with a document
- `Toml.Fault.message` — what is said of it

## Design notes

What a reader says of a text that is no TOML is made of its own words and of the lines around the
place. `syntaxMessage` stands for whatever it says: which texts are refused is modelled, and the
words are not.
-/

namespace Patchwise.Toml

/-- What is said of a text that is no TOML, or of a value without a better complaint. -/
def syntaxMessage : String :=
  "<toml>"

/-- What is wrong with a document. -/
inductive Fault
  /-- An escape has a code that belongs to no character. -/
  | noCharacter
  /-- Something else is wrong. -/
  | other
  deriving DecidableEq, Repr

def Fault.message : Fault → String
  | noCharacter => "invalid value, expected unicode hexadecimal value"
  | other => syntaxMessage

end Patchwise.Toml

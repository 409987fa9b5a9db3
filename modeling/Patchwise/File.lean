import Patchwise.Text.Utf8

/-!
# Files

What is found where a file is looked for, and the text that a file holds.

## Main definitions

- `File.Content` — what is found at a path
- `File.text` — the text of a file that is there
-/

namespace Patchwise.File

/-- What is found at a path. -/
inductive Content
  /-- There is nothing at the path. -/
  | absent
  /-- There is something that cannot be read, for the given reason. -/
  | unreadable (reason : String)
  /-- There is a file that holds the given bytes. -/
  | bytes (bytes : List UInt8)
  deriving DecidableEq, Repr

/-- What is said of a file whose bytes are no text. -/
def notTextReason : String :=
  "stream did not contain valid UTF-8"

/-- The text of a file that is there, or the reason why it has none. -/
def text (bytes : List UInt8) : Except String String :=
  match Text.Utf8.decode? bytes with
  | some text => .ok text
  | none => .error notTextReason

end Patchwise.File

/-!
# UTF-8

Reading bytes as text. The bytes are cut into chunks, each of which is either the encoding of one
character or malformed: a malformed chunk is the longest run of bytes that could have begun a
character, and at least one byte.

## Main definitions

- `Text.Utf8.chunks` — the characters of a byte sequence, `none` for a malformed chunk
- `Text.Utf8.decode?` — the text of well-formed bytes
- `Text.Utf8.decodeLossy` — the text with U+FFFD for each malformed chunk
- `Text.Utf8.encode` — the bytes of a text
-/

namespace Patchwise.Text.Utf8

/-- The bytes that may follow a character's first byte, one range for each further byte. A byte
that begins no character, or is a character by itself, has none. -/
def continuations (lead : Nat) : List (Nat × Nat) :=
  let any := (0x80, 0xBF)
  if 0xC2 ≤ lead && lead ≤ 0xDF then [any]
  else if lead == 0xE0 then [(0xA0, 0xBF), any]
  else if lead == 0xED then [(0x80, 0x9F), any]
  else if 0xE1 ≤ lead && lead ≤ 0xEF then [any, any]
  else if lead == 0xF0 then [(0x90, 0xBF), any, any]
  else if 0xF1 ≤ lead && lead ≤ 0xF3 then [any, any, any]
  else if lead == 0xF4 then [(0x80, 0x8F), any, any]
  else []

/-- The part of a character's code that its first byte carries. -/
def leadBits (lead : Nat) : Nat :=
  if lead < 0x80 then lead
  else if lead < 0xE0 then lead % 0x20
  else if lead < 0xF0 then lead % 0x10
  else lead % 0x08

/-- Whether a byte begins a character. -/
def isLead (byte : Nat) : Bool :=
  byte < 0x80 || (0xC2 ≤ byte && byte ≤ 0xF4)

/-- Reads the bytes still owed to a character whose code so far is `code`, and answers the character
and the bytes after it. When a byte is not in its range the chunk ends in front of it. -/
def finish (code : Nat) : List (Nat × Nat) → List UInt8 → Option Char × List UInt8
  | [], bytes => (some (Char.ofNat code), bytes)
  | _ :: _, [] => (none, [])
  | (low, high) :: owed, byte :: bytes =>
    if low ≤ byte.toNat && byte.toNat ≤ high then
      finish (code * 0x40 + byte.toNat % 0x40) owed bytes
    else
      (none, byte :: bytes)

theorem finish_length_le (code : Nat) (owed : List (Nat × Nat)) (bytes : List UInt8) :
    (finish code owed bytes).2.length ≤ bytes.length := by
  induction owed generalizing code bytes with
  | nil => simp [finish]
  | cons range owed ih =>
    cases bytes with
    | nil => simp [finish]
    | cons byte bytes =>
      obtain ⟨low, high⟩ := range
      rw [finish]
      split
      · exact Nat.le_succ_of_le (ih _ _)
      · exact Nat.le_refl _

/-- The characters of a byte sequence, with `none` in the place of each malformed chunk. -/
def chunks : List UInt8 → List (Option Char)
  | [] => []
  | lead :: bytes =>
    if isLead lead.toNat then
      let read := finish (leadBits lead.toNat) (continuations lead.toNat) bytes
      read.1 :: chunks read.2
    else
      none :: chunks bytes
termination_by bytes => bytes.length
decreasing_by
  · exact Nat.lt_succ_of_le (finish_length_le _ _ _)
  · exact Nat.lt_succ_self _

/-- The text that bytes encode, if every chunk is well-formed. -/
def decode? (bytes : List UInt8) : Option String :=
  ((chunks bytes).mapM id).map .ofList

/-- The text that bytes encode, with the replacement character for each malformed chunk. -/
def decodeLossy (bytes : List UInt8) : String :=
  .ofList ((chunks bytes).map (·.getD '\uFFFD'))

/-- The bytes of a text. -/
def encode (s : String) : List UInt8 :=
  s.toUTF8.toList

end Patchwise.Text.Utf8

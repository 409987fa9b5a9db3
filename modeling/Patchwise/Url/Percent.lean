import Patchwise.Text.Digit
import Patchwise.Text.Utf8

/-!
# Percent signs in addresses

What may not stand in a part of an address is written as percent signs and hexadecimal digits, byte
by byte.

## Main definitions

- `Url.Percent.encode` — a part of an address without what may not stand in it
- `Url.Percent.decode?` — the text that a part of an address tells
- `Url.Percent.pathSet`, `Url.Percent.querySet`, … — what may not stand in a part
-/

namespace Patchwise.Url.Percent

/-- A part of an address, in which `mustEncode` says what may not stand. -/
def encode (mustEncode : Char → Bool) (cs : List Char) : List Char :=
  cs.flatMap fun c =>
    if mustEncode c then
      (Text.Utf8.encode (String.singleton c)).flatMap fun byte => '%' :: Text.hexByte byte
    else [c]

/-- The bytes that a part of an address tells. A percent sign without two digits stands for
itself. -/
def bytes : List Char → List UInt8
  | '%' :: high :: low :: rest =>
    match Text.number? 16 [high, low] with
    | some byte => UInt8.ofNat byte :: bytes rest
    | none => UInt8.ofNat '%'.toNat :: bytes (high :: low :: rest)
  | c :: rest => Text.Utf8.encode (String.singleton c) ++ bytes rest
  | [] => []

/-- The text that a part of an address tells, if it tells one. -/
def decode? (cs : List Char) : Option (List Char) :=
  (Text.Utf8.decode? (bytes cs)).map (·.toList)

/-! ## Sets -/

/-- What may stand nowhere in an address: controls and everything outside ASCII. -/
def isForeign (c : Char) : Bool :=
  c.toNat < 0x20 || 0x7E < c.toNat

/-- What may not stand in a fragment. -/
def fragmentSet (c : Char) : Bool :=
  isForeign c || [' ', '"', '<', '>', '\x60'].contains c

/-- What may not stand in a path. -/
def pathSet (c : Char) : Bool :=
  fragmentSet c || ['#', '?', '\x7b', '\x7d'].contains c

/-- What may not stand in the name or the password of a user. -/
def userSet (c : Char) : Bool :=
  pathSet c || ['/', ':', ';', '=', '@', '[', '\\', ']', '^', '|'].contains c

/-- What may not stand in a query. -/
def querySet (c : Char) : Bool :=
  isForeign c || [' ', '"', '#', '<', '>'].contains c

/-- What may not stand in a query whose address has one of the usual schemes. -/
def specialQuerySet (c : Char) : Bool :=
  querySet c || c == '\x27'

end Patchwise.Url.Percent

import Patchwise.Url.Host
import Patchwise.Url.Path

/-!
# Addresses on the web

The addresses that requests are sent to, as they are held once they have been read.

## Main definitions

- `Url.Authority` — who is asked, and as whom
- `Url` — an address
- `Url.toText` — the text of an address
- `Url.withoutUser` — an address as it is sent, without the user
- `Url.isSendable` — whether a request can be sent to an address
-/

namespace Patchwise

/-- Who is asked, and as whom. -/
structure Url.Authority where
  user : List Char
  /-- The password of the user, which is not empty. -/
  password : Option (List Char)
  host : Option Url.Host
  /-- The port, unless it is the usual one. -/
  port : Option Nat
  deriving DecidableEq, Repr

structure Url where
  scheme : List Char
  authority : Option Url.Authority
  path : Url.Path
  query : Option (List Char)
  fragment : Option (List Char)
  deriving DecidableEq, Repr

namespace Url

/-- The text of a user, with the sign that parts it from the host. -/
def Authority.userText (a : Authority) : List Char :=
  let text := a.user ++ (a.password.map (':' :: ·)).getD []
  if text.isEmpty then [] else text ++ ['@']

/-- The text that says who is asked. -/
def Authority.toText (a : Authority) : List Char :=
  a.userText ++ (a.host.map Host.toText).getD [] ++
    (a.port.map fun port => ':' :: (toString port).toList).getD []

/-- The text between the scheme and the path. A path that begins with two slashes is kept from being
taken for a host. -/
def authorityText (u : Url) : List Char :=
  match u.authority with
  | some a => ['/', '/'] ++ a.toText
  | none => if ['/', '/'].isPrefixOf u.path.toText then ['/', '.'] else []

def toText (u : Url) : String :=
  .ofList (u.scheme ++ [':'] ++ u.authorityText ++ u.path.toText ++
    (u.query.map ('?' :: ·)).getD [] ++ (u.fragment.map ('#' :: ·)).getD [])

def host? (u : Url) : Option Host :=
  u.authority.bind (·.host)

/-- An address as it is sent: the user is told apart from it. A user that is no text stays. -/
def withoutUser (u : Url) : Url :=
  match u.authority with
  | none => u
  | some a =>
    let password := (a.password.bind Percent.decode?).isSome
    if (Percent.decode? a.user).isSome && (!a.user.isEmpty || password) then
      { u with authority := some { a with user := [], password := none } }
    else u

/-- Whether the name of a host can be sent: there is no quotation mark and no brace in it. -/
def Host.isSendable : Host → Bool
  | name cs => !cs.any ['"', '\x60', '\x7b', '\x7d'].contains
  | _ => true

/-- The most bytes that an address may have to be sent. -/
def longest : Nat := 65534

/-- Whether a request can be sent to an address. -/
def isSendable (u : Url) : Bool :=
  (u.scheme = "http".toList || u.scheme = "https".toList) &&
    u.host?.all Host.isSendable && u.toText.utf8ByteSize ≤ longest

end Url

end Patchwise

import Patchwise.Domain
import Patchwise.Url.Ipv4
import Patchwise.Url.Ipv6
import Patchwise.Url.Percent

/-!
# Hosts

The part of an address that names the host: a domain name, or a number in one of its two forms.

## Main definitions

- `Url.Host` — what names a host
- `Url.Host.usual?` — the host that a text names, for the schemes whose hosts are in the network
- `Url.Host.other?` — the host that a text names, for any other scheme
- `Url.Host.toText` — the text of a host
-/

namespace Patchwise.Url

/-- What names a host. -/
inductive Host where
  | name (cs : List Char)
  | four (address : Ipv4)
  | eight (address : Ipv6)
  deriving DecidableEq, Repr

namespace Host

/-- The address that stands between brackets. -/
def bracketed? (cs : List Char) : Option Host :=
  if cs.getLast? = some ']' then (Ipv6.ofText? cs.dropLast).map eight else none

/-- The host that a text names, for the schemes whose hosts are in the network. A name that ends
with a number must be a number. -/
def usual? : List Char → Option Host
  | '[' :: rest => bracketed? rest
  | cs => do
    let name ← Domain.ascii? (← Percent.decode? cs)
    if name.isEmpty then none
    else if Ipv4.isMeant name then (Ipv4.ofName? name).map four
    else return Host.name name

/-- What may not stand in the name of a host whose scheme says nothing of names. -/
def isDivider (c : Char) : Bool :=
  ['\x00', '\t', '\n', '\r', ' ', '#', '/', ':', '<', '>', '?', '@', '[', '\\', ']', '^',
    '|'].contains c

/-- The host that a text names, for a scheme that says nothing of names. -/
def other? : List Char → Option Host
  | '[' :: rest => bracketed? rest
  | cs => if cs.any isDivider then none else some (name (Percent.encode Percent.isForeign cs))

def toText : Host → List Char
  | name cs => cs
  | four address => address.toText
  | eight address => '[' :: address.toText ++ [']']

end Host

end Patchwise.Url

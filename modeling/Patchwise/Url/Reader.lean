import Patchwise.Url

/-!
# Reading addresses

The address that a text tells. How the text after the scheme is read depends on the scheme: the
usual schemes of the network need a host, that of files may have one, and for all others the slashes
after the scheme tell whether there is one.

## Main definitions

- `Url.Kind` — what a scheme needs
- `Url.ofText?` — the address that a text tells
-/

namespace Patchwise.Url

/-- What a scheme needs. -/
inductive Kind where
  /-- A host, and the port that is usual. -/
  | network (port : Nat)
  /-- A path to a file. -/
  | file
  /-- Nothing that is known. -/
  | other
  deriving DecidableEq, Repr

namespace Kind

def ofScheme (scheme : List Char) : Kind :=
  match String.ofList scheme with
  | "http" | "ws" => network 80
  | "https" | "wss" => network 443
  | "ftp" => network 21
  | "file" => file
  | _ => other

def usualPort : Kind → Option Nat
  | network port => some port
  | _ => none

/-- Whether a character divides an address as a slash does. -/
def isSlash (kind : Kind) (c : Char) : Bool :=
  c == '/' || (kind ≠ other && c == '\\')

/-- Whether a character ends the part of an address that names the host. -/
def endsAuthority (kind : Kind) (c : Char) : Bool :=
  kind.isSlash c || c == '?' || c == '#'

end Kind

/-- A text without the white space around it and the breaks in it, which do not count. -/
def cleaned (text : String) : List Char :=
  let isBare (c : Char) : Bool := c.toNat ≤ 0x20
  let cs := ((text.toList.dropWhile isBare).reverse.dropWhile isBare).reverse
  cs.filter fun c => c != '\t' && c != '\n' && c != '\r'

/-- The scheme in front of a text, without capitals, and the text after its colon. -/
def scheme? (cs : List Char) : Option (List Char × List Char) :=
  let scheme := cs.takeWhile (· != ':')
  let isPart (c : Char) : Bool := c.isAlphanum || ['+', '-', '.'].contains c
  if (scheme.head?.any Char.isAlpha) && scheme.all isPart && scheme.length < cs.length then
    some (scheme.map Char.toLower, cs.drop (scheme.length + 1))
  else none

/-! ## Hosts -/

/-- The name and the password of the user in front of the last at sign of a text, and the text after
it. -/
def takeUser (cs : List Char) : List Char × Option (List Char) × List Char :=
  let host := (cs.reverse.takeWhile (· != '@')).reverse
  let user := (cs.take (cs.length - host.length)).dropLast
  let name := user.takeWhile (· != ':')
  let password := user.drop (name.length + 1)
  (Percent.encode Percent.userSet name,
    if password.isEmpty then none else some (Percent.encode Percent.userSet password), host)

/-- The text of a host in front of a text, which goes on to the first colon that does not stand
between brackets, and the text after it. -/
def takeHost (inBrackets : Bool) : List Char → List Char × List Char
  | [] => ([], [])
  | c :: rest =>
    if c == ':' && !inBrackets then ([], c :: rest)
    else
      let (host, rest) := takeHost (c == '[' || (inBrackets && c != ']')) rest
      (c :: host, rest)

/-- The port that stands in front of a text, and the text after it, which begins with what may
follow a host. -/
def takePort? (kind : Kind) (cs : List Char) : Option (Option Nat × List Char) := do
  let digits := cs.takeWhile Char.isDigit
  let rest := cs.drop digits.length
  let port ← Text.number? 10 digits
  if 65535 < port || rest.head?.any (· != '\\') then none
  else if digits.isEmpty || kind.usualPort = some port then return (none, rest)
  else return (some port, rest)

/-- The host that a text names, for a kind of scheme, and the text after it. No host may be named
only where there is no user, no port and no need for one. -/
def authority? (kind : Kind) (cs : List Char) : Option (Authority × List Char) := do
  let (user, password, cs) := takeUser cs
  let (name, rest) := takeHost false cs
  if name.isEmpty then
    if kind ≠ .other || !rest.isEmpty || !user.isEmpty || password.isSome then none
    else return (⟨[], none, none, none⟩, [])
  else
    let host ← if kind = .other then Host.other? name else Host.usual? name
    let (port, rest) ← takePort? kind (rest.drop 1)
    return (⟨user, password, some host, port⟩, rest)

/-! ## What follows the host -/

/-- What stands in front of the query and the fragment, the query, and the fragment. -/
def divide (kind : Kind) (cs : List Char) :
    List Char × Option (List Char) × Option (List Char) :=
  let whole := cs.takeWhile (· != '#')
  let front := whole.takeWhile (· != '?')
  let querySet := if kind = .other then Percent.querySet else Percent.specialQuerySet
  let part (mustEncode : Char → Bool) : List Char → Option (List Char)
    | [] => none
    | _ :: rest => some (Percent.encode mustEncode rest)
  (front, part querySet (whole.drop front.length),
    part Percent.fragmentSet (cs.drop whole.length))

/-- The segments of a path. A slash in front of the first one is not part of it. -/
def segmentsOf (kind : Kind) (cs : List Char) : List (List Char) :=
  let cs := if cs.head?.any kind.isSlash then cs.drop 1 else cs
  Text.split kind.isSlash cs

/-- An address with a host, whose text after the scheme and the slashes is given. The path may only
be missing if nothing is known of the scheme. -/
def withHost? (scheme cs : List Char) : Option Url := do
  let kind := Kind.ofScheme scheme
  let named := cs.takeWhile (!kind.endsAuthority ·)
  let rest := cs.drop named.length
  if named = ['@'] && !rest.isEmpty then none
  else
    let (authority, left) ← authority? kind named
    let (path, query, fragment) := divide kind (left ++ rest)
    let path := if kind = .other && path.isEmpty then .segments []
      else Path.ofSegments (segmentsOf kind path)
    return { scheme, authority := some authority, path, query, fragment }

/-- An address without a host. Its path has segments if it begins with a slash. -/
def withoutHost (scheme cs : List Char) : Url :=
  let (path, query, fragment) := divide .other cs
  let path := if path.head? = some '/' then Path.ofSegments (segmentsOf .other path)
    else .undivided (Percent.encode Percent.isForeign path)
  { scheme, authority := none, path, query, fragment }

/-- The host that a text names in the address of a file. This machine is no host. -/
def fileHost? (name : List Char) : Option (Option Host) :=
  if name.isEmpty then some none
  else
    (Host.usual? name).map fun host =>
      if host = .name "localhost".toList then none else some host

/-- The address of a file, whose text after the scheme is given. A drive in the place of the host is
part of the path, and where a path begins with a drive there is no host. -/
def ofFile? (scheme cs : List Char) : Option Url := do
  let slashes := (cs.take 2).takeWhile Path.isSlash
  let after := cs.drop 2
  let name := after.takeWhile (!Kind.file.endsAuthority ·)
  let (host, rest) ←
    if slashes.length < 2 then some (none, cs)
    else if Path.isDrive name then some (none, after)
    else (fileHost? name).map fun host => (host, after.drop name.length)
  let (path, query, fragment) := divide .file rest
  let (path, hasDrive) := Path.ofFile (segmentsOf .file path)
  let host := if hasDrive then none else host
  return { scheme, authority := some ⟨[], none, host, none⟩, path, query, fragment }

/-- The address that a text tells. -/
def ofText? (text : String) : Option Url := do
  let (scheme, rest) ← scheme? (cleaned text)
  match Kind.ofScheme scheme, rest with
  | .network _, rest => withHost? scheme (rest.dropWhile Path.isSlash)
  | .file, rest => ofFile? scheme rest
  | .other, '/' :: '/' :: rest => withHost? scheme rest
  | .other, rest => return withoutHost scheme rest

end Patchwise.Url

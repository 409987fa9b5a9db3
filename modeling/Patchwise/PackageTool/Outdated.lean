import Patchwise.Json.Mismatch
import Patchwise.Json.Reader
import Patchwise.PackageTool

/-!
# What package managers print of outdated packages

Reading the reports that package managers print. One prints a line of JSON for each thing it has to
say, and one of these lines is a table; the others print one JSON object that has an entry for each
package.

## Main definitions

- `Report.ofLines` — the table among lines of JSON
- `Report.ofEntries` — the table of an object of packages
- `PackageTool.readOutdated` — the report that a package manager has printed
-/

namespace Patchwise

namespace Report

/-! ## Lines of JSON -/

def texts : Json → Except Json.Mismatch (List String) :=
  Json.asList Json.asText

/-- The report in a JSON value: the names of its columns, and its rows. -/
def ofTable : Json → Except Json.Mismatch Report :=
  Json.asRecord "OutdatedReport"
    (fun members => do
      let body ← Json.field? members "body" (Json.asList texts)
      let head ← Json.field? members "head" texts
      let head ← Json.required "head" head
      let body ← Json.required "body" body
      return ⟨head, body⟩)
    (fun items => do
      let head ← Json.item items "OutdatedReport" 2 0 texts
      let body ← Json.item items "OutdatedReport" 2 1 (Json.asList texts)
      Json.noMoreItems items 2
      return ⟨head, body⟩)

/-- Whether a line tells of a table. -/
def isTableEvent (event : Json) : Bool :=
  (event.member? "type").bind Json.text? == some "table"

/-- The report in the line of a table. -/
def ofTableEvent : Json → Except Json.Mismatch Report
  | .object members => do
    Json.required "data" (← Json.field? members "data" ofTable)
  | event => .error (.wrongType event "struct OutdatedTable")

/-- The first of some lines that is JSON and tells of a table. -/
def tableEvent? (lines : List (List Char)) : Option Json :=
  lines.findSome? fun line => (Json.ofChars? (Text.trim line)).filter isTableEvent

/-- The report that lines of JSON hold, if one of them is a table. Lines that are something else are
read over; a table that is not well-formed is complained of. -/
def ofLines (stdout : String) : Except ReportError (Option Report) :=
  match tableEvent? (Text.lines stdout.toList) with
  | none => .ok none
  | some event =>
    match ofTableEvent event with
    | .ok report => .ok (some report)
    | .error cause => .error (.unreadable "yarn" cause.message)

/-! ## An object of packages -/

/-- What is printed of one outdated package. -/
structure Listing where
  /-- The installed version; a package that is not installed has none. -/
  current : Option String
  wanted : String
  latest : String
  /-- The manifest section, if it is told. -/
  packageType : Option String
  /-- The manifest section under its other name, if it is told. -/
  dependencyType : Option String
  deriving DecidableEq, Repr

/-- The listing in a JSON value. -/
def Listing.ofJson : Json → Except Json.Mismatch Listing :=
  let text? := Json.asOptional Json.asText
  Json.asRecord "OutdatedEntry"
    (fun members => do
      let current ← Json.field? members "current" text?
      let dependencyType ← Json.field? members "dependencyType" text?
      let latest ← Json.field? members "latest" Json.asText
      let packageType ← Json.field? members "type" text?
      let wanted ← Json.field? members "wanted" Json.asText
      let wanted ← Json.required "wanted" wanted
      let latest ← Json.required "latest" latest
      return { current := current.join, wanted, latest, packageType := packageType.join,
               dependencyType := dependencyType.join })
    (fun items => do
      let current ← Json.item items "OutdatedEntry" 5 0 text?
      let wanted ← Json.item items "OutdatedEntry" 5 1 Json.asText
      let latest ← Json.item items "OutdatedEntry" 5 2 Json.asText
      let packageType ← Json.item items "OutdatedEntry" 5 3 text?
      let dependencyType ← Json.item items "OutdatedEntry" 5 4 text?
      Json.noMoreItems items 5
      return { current, wanted, latest, packageType, dependencyType })

/-- The row of a package that is installed. -/
def Listing.row? (name : String) (l : Listing) : Option (List String) :=
  l.current.map fun current =>
    [name, current, l.wanted, l.latest, (l.packageType.or l.dependencyType).getD ""]

/-- The columns of a report that is made from an object of packages. -/
def listingHead : List String :=
  [packageColumn, currentColumn, wantedColumn, latestColumn, typeColumn]

def listings (tool : String) :
    List (String × Json) → Except ReportError (List (String × Listing))
  | [] => .ok []
  | (name, value) :: rest =>
    match Listing.ofJson value with
    | .error cause => .error (.unreadable tool (name ++ ": " ++ cause.message))
    | .ok listing => do return (name, listing) :: (← listings tool rest)

/-- The report in an object of packages, in the order of their names. Packages that are not
installed are left out. A text without anything but white space is an empty object. -/
def ofEntries (tool stdout : String) : Except ReportError Report :=
  if Text.allBlank stdout then
    .ok ⟨listingHead, []⟩
  else
    match Json.read stdout with
    | some (.object members) => do
      let found ← listings tool (Json.sortedMembers members)
      return ⟨listingHead, found.filterMap fun (name, listing) => listing.row? name⟩
    | _ => .error (.unreadable tool Json.syntaxMessage)

end Report

/-- The report that a package manager has printed, if it has printed one. -/
def PackageTool.readOutdated (tool : PackageTool) (stdout : String) :
    Except ReportError (Option Report) :=
  match tool with
  | yarn => Report.ofLines stdout
  | npm | pnpm => (Report.ofEntries tool.program stdout).map some

/-- The rows of a report that belong to a manifest section or do not say which they belong to. -/
def Report.ofSection (r : Report) (dependencyType : String) : Report :=
  r.keepRows typeColumn fun cell => cell = "" || cell = dependencyType

end Patchwise

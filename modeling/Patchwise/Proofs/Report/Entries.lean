import Mathlib.Data.List.Sort
import Patchwise.PackageTool.Outdated
import Patchwise.Proofs.Json.Members
import Patchwise.Proofs.Json.Mismatch
import Patchwise.Proofs.Json.Scan
import Patchwise.Proofs.Report.Answer
import Patchwise.Proofs.Text.Order

/-!
# Packages in an object

A package manager that prints an object has a member for each package. All of them must tell a
listing, and those of packages that are installed become the rows of a report, in the order of their
names. Nothing is made of the order that they are written in.

## Main definitions

- `Report.Listing.IsToldBy` — the values that tell a listing
- `Report.Listing.IsRow` — the row of a listing
- `Report.EntriesAnswer` — what is made of some members
- `Report.ReadsEntries` — a reading of objects that depends on what is found in them only

## Main results

- `Report.ofEntries_readsEntries` — the object of a package manager is read so
-/

namespace Patchwise.Report

/-! ## Listings -/

/-- A field that need not be there, and may be null. -/
inductive TellsOptional (members : List (String × Json)) (name : String) : Option String → Prop
  | missing (h : Json.lookup? name members = none) : TellsOptional members name none
  | written {content : Option String}
      (h : Json.lookup? name members = some (Json.ofOptionalText content)) :
      TellsOptional members name content

/-- A value tells a listing: by the fields of an object, or by a list of all of them in order. -/
inductive Listing.IsToldBy (l : Listing) : Json → Prop
  | members {members : List (String × Json)}
      (hcurrent : TellsOptional members "current" l.current)
      (hwanted : Json.lookup? "wanted" members = some (.text l.wanted))
      (hlatest : Json.lookup? "latest" members = some (.text l.latest))
      (hpackageType : TellsOptional members "type" l.packageType)
      (hdependencyType : TellsOptional members "dependencyType" l.dependencyType) :
      l.IsToldBy (.object members)
  | items : l.IsToldBy (.array [Json.ofOptionalText l.current, .text l.wanted, .text l.latest,
      Json.ofOptionalText l.packageType, Json.ofOptionalText l.dependencyType])

/-- The manifest section that a listing tells, of which the one under the shorter name counts. -/
inductive Listing.TellsSection (l : Listing) : String → Prop
  | packageType {cell : String} (h : l.packageType = some cell) : l.TellsSection cell
  | dependencyType {cell : String} (hnone : l.packageType = none)
      (h : l.dependencyType = some cell) : l.TellsSection cell
  | nothing (hnone : l.packageType = none) (hnone' : l.dependencyType = none) : l.TellsSection ""

/-- The row of a package. Only a package that is installed has one. -/
inductive Listing.IsRow (l : Listing) (name : String) : List String → Prop
  | row {current cell : String} (hcurrent : l.current = some current) (hcell : l.TellsSection cell) :
      l.IsRow name [name, current, l.wanted, l.latest, cell]

/-! ## Objects -/

/-- A row stands in front of another, by the bytes of the names that they begin with. -/
def Precedes (row later : List String) : Prop :=
  ∃ name name', row.head? = some name ∧ later.head? = some name' ∧
    Text.Utf8.encode name < Text.Utf8.encode name'

/-- What is made of some members. -/
inductive EntriesAnswer (tool : String) (members : List (String × Json)) :
    Except ReportError Report → Prop
  /-- All of them tell a listing, and the rows are those of the packages that are installed. -/
  | report {rows : List (List String)}
      (htold : ∀ name value, Json.lookup? name members = some value →
        ∃ l : Listing, l.IsToldBy value)
      (hrows : ∀ row, row ∈ rows ↔ ∃ name value, ∃ l : Listing,
        Json.lookup? name members = some value ∧ l.IsToldBy value ∧ l.IsRow name row)
      (hordered : rows.Pairwise Precedes) : EntriesAnswer tool members (.ok ⟨listingHead, rows⟩)
  /-- Otherwise the first that tells none, by the bytes of the names, is complained of. -/
  | foreign {name : String} {value : Json} {cause : Json.Mismatch}
      (hvalue : Json.lookup? name members = some value) (h : ∀ l : Listing, ¬ l.IsToldBy value)
      (hcause : Listing.ofJson value = .error cause)
      (hfirst : ∀ name' value', Text.Utf8.encode name' < Text.Utf8.encode name →
        Json.lookup? name' members = some value' → ∃ l : Listing, l.IsToldBy value') :
      EntriesAnswer tool members (.error (.unreadable tool (name ++ ": " ++ cause.message)))

/-- A reading of objects that depends on what is found in them only, and whose reports have the
columns that are looked for. -/
structure ReadsEntries (read : String → String → Except ReportError Report) : Prop where
  /-- There is a report just if every member tells a listing. -/
  isOk_iff : ∀ (tool stdout : String) members, Json.read stdout = some (.object members) →
    ((∃ report, read tool stdout = .ok report) ↔
      ∀ name value, Json.lookup? name members = some value → ∃ l : Listing, l.IsToldBy value)
  answer_iff : ∀ (tool stdout : String) members, Json.read stdout = some (.object members) →
    ∀ answer, read tool stdout = answer ↔ EntriesAnswer tool members answer
  /-- The members may be written in any order. -/
  eq_of_reordered : ∀ (tool stdout stdout' : String) members value,
    Json.read stdout = some (.object members) → Json.read stdout' = some value →
      (Json.object members).Reordered value → read tool stdout' = read tool stdout
  eq_of_blank : ∀ tool stdout : String, (∀ c ∈ stdout.toList, Text.isBlank c = true) →
    read tool stdout = .ok ⟨listingHead, []⟩
  /-- No column is missing in a report, and no row is too short or too long. -/
  records : ∀ (tool stdout : String) report, read tool stdout = .ok report →
    (∃ records, report.records = .ok records) ∨
      ∃ package cause, report.records = .error (.malformedVersion package cause)

/-! ## What tells a listing -/

theorem tellsOptional_iff {members : List (String × Json)} {name : String}
    {content : Option String} :
    TellsOptional members name content ↔ ∃ found : Option (Option String),
      Json.lookup? name members = found.map Json.ofOptionalText ∧ found.join = content := by
  constructor
  · intro h
    cases h with
    | missing h => exact ⟨none, h, rfl⟩
    | written h => exact ⟨some content, h, rfl⟩
  · rintro ⟨found, h, rfl⟩
    cases found with
    | none => exact .missing h
    | some content => exact .written h

theorem Listing.ofJson_eq_ok_iff {value : Json} {l : Listing} :
    Listing.ofJson value = .ok l ↔ l.IsToldBy value := by
  cases value with
  | object members =>
    simp only [ofJson, Json.asRecord, Except.bind_eq_ok_iff,
      Json.accepts_asText.field?_eq_ok_iff, Json.accepts_asOptionalText.field?_eq_ok_iff,
      Json.required_eq_ok_iff]
    constructor
    · rintro ⟨current, hcurrent, dependencyType, hdependencyType, _, hlatest, packageType,
        hpackageType, _, hwanted, wanted, rfl, latest, rfl, heq⟩
      cases heq
      exact .members (tellsOptional_iff.2 ⟨_, hcurrent, rfl⟩) hwanted hlatest
        (tellsOptional_iff.2 ⟨_, hpackageType, rfl⟩) (tellsOptional_iff.2 ⟨_, hdependencyType, rfl⟩)
    · -- an object is looked at in the order of the names, which is not that of the record
      intro h
      cases h with
      | members hcurrent hwanted hlatest hpackageType hdependencyType =>
        obtain ⟨current, hcurrent, hcurrent'⟩ := tellsOptional_iff.1 hcurrent
        obtain ⟨packageType, hpackageType, hpackageType'⟩ := tellsOptional_iff.1 hpackageType
        obtain ⟨dependencyType, hdependencyType, hdependencyType'⟩ :=
          tellsOptional_iff.1 hdependencyType
        refine ⟨current, hcurrent, dependencyType, hdependencyType, some l.latest, hlatest,
          packageType, hpackageType, some l.wanted, hwanted, l.wanted, rfl, l.latest, rfl, ?_⟩
        rw [hcurrent', hpackageType', hdependencyType']
        rfl
  | array items =>
    simp only [ofJson, Json.asRecord, Except.bind_eq_ok_iff, Json.accepts_asText.item_eq_ok_iff,
      Json.accepts_asOptionalText.item_eq_ok_iff, Json.noMoreItems_eq_ok_iff]
    constructor
    · rintro ⟨current, hcurrent, wanted, hwanted, latest, hlatest, packageType, hpackageType,
        dependencyType, hdependencyType, _, hlength, heq⟩
      cases heq
      have hfields : items = [Json.ofOptionalText current, .text wanted, .text latest,
          Json.ofOptionalText packageType, Json.ofOptionalText dependencyType] :=
        Json.eq_of_getElem? (fun i hi => match i, hi with
          | 0, _ => hcurrent
          | 1, _ => hwanted
          | 2, _ => hlatest
          | 3, _ => hpackageType
          | 4, _ => hdependencyType) hlength
      rw [hfields]
      exact .items
    · intro h
      cases h with
      | items =>
        exact ⟨_, rfl, _, rfl, _, rfl, _, rfl, _, rfl, (), Nat.le_refl 5, rfl⟩
  | _ => exact iff_of_false nofun nofun

theorem Listing.not_isToldBy {value : Json} {cause : Json.Mismatch}
    (h : ofJson value = .error cause) (l : Listing) : ¬ l.IsToldBy value := by
  intro hl
  rw [ofJson_eq_ok_iff.2 hl] at h
  cases h

theorem Listing.orderless_ofJson : Json.Orderless Listing.ofJson := by
  have htext := Json.orderless_asText
  have htext? := Json.orderless_asText.asOptional
  refine Json.orderless_asRecord _ (fun members members' h => ?_) fun items items' hlength h => ?_
  · refine (htext?.field? (h _)).bind fun _ => (htext?.field? (h _)).bind fun _ => ?_
    refine (htext.field? (h _)).bind fun _ => (htext?.field? (h _)).bind fun _ => ?_
    exact (htext.field? (h _)).bind fun _ => .refl _
  · refine (htext?.item (h _) _ _).bind fun _ => (htext.item (h _) _ _).bind fun _ => ?_
    refine (htext.item (h _) _ _).bind fun _ => (htext?.item (h _) _ _).bind fun _ => ?_
    exact (htext?.item (h _) _ _).bind fun _ =>
      (Json.agree_noMoreItems hlength _).bind fun _ => .refl _

theorem Listing.tellsSection_iff {l : Listing} {cell : String} :
    l.TellsSection cell ↔ (l.packageType.or l.dependencyType).getD "" = cell := by
  constructor
  · intro h
    cases h with
    | packageType h => rw [h]; rfl
    | dependencyType hnone h => rw [hnone, h]; rfl
    | nothing hnone hnone' => rw [hnone, hnone']; rfl
  · rintro rfl
    cases hpackageType : l.packageType with
    | some => exact .packageType hpackageType
    | none =>
      cases hdependencyType : l.dependencyType with
      | some => exact .dependencyType hpackageType hdependencyType
      | none => exact .nothing hpackageType hdependencyType

theorem Listing.row?_eq_some_iff {l : Listing} {name : String} {row : List String} :
    l.row? name = some row ↔ l.IsRow name row := by
  rw [row?, Option.map_eq_some_iff]
  constructor
  · rintro ⟨current, hcurrent, rfl⟩
    exact .row hcurrent (tellsSection_iff.2 rfl)
  · intro h
    cases h with
    | row hcurrent hcell => exact ⟨_, hcurrent, by rw [tellsSection_iff.1 hcell]⟩

/-! ## The members in order -/

theorem listings_eq_ok {tool : String} {members : List (String × Json)}
    {found : List (String × Listing)} (h : listings tool members = .ok found) :
    members.map (fun member => (member.1, Listing.ofJson member.2)) =
      found.map fun entry => (entry.1, .ok entry.2) := by
  induction members generalizing found with
  | nil =>
    cases h
    rfl
  | cons member members ih =>
    rw [listings] at h
    split at h
    next => cases h
    next l hl =>
      obtain ⟨rest, hrest, heq⟩ := Except.bind_eq_ok_iff.1 h
      cases heq
      rw [List.map_cons, List.map_cons, hl, ih hrest]

section Listings

variable {tool : String} {members : List (String × Json)} {found : List (String × Listing)}
  (h : listings tool (Json.sortedMembers members) = .ok found)

include h

theorem mem_listings {name : String} {l : Listing} :
    (name, l) ∈ found ↔ ∃ value, Json.lookup? name members = some value ∧ l.IsToldBy value := by
  have hmem : (name, l) ∈ found ↔
      (name, .ok l) ∈ (Json.sortedMembers members).map fun member =>
        (member.1, Listing.ofJson member.2) := by
    rw [listings_eq_ok h]
    simp
  rw [hmem]
  simp only [List.mem_map, Prod.mk.injEq, Prod.exists, Json.mem_sortedMembers_iff,
    Listing.ofJson_eq_ok_iff]
  constructor
  · rintro ⟨_, value, hvalue, rfl, htold⟩
    exact ⟨value, hvalue, htold⟩
  · rintro ⟨value, hvalue, htold⟩
    exact ⟨name, value, hvalue, rfl, htold⟩

theorem exists_listing {name : String} {value : Json}
    (hvalue : Json.lookup? name members = some value) : ∃ l : Listing, l.IsToldBy value := by
  have hmem : (name, Listing.ofJson value) ∈ (Json.sortedMembers members).map fun member =>
      (member.1, Listing.ofJson member.2) :=
    List.mem_map_of_mem (Json.mem_sortedMembers_iff.2 hvalue)
  rw [listings_eq_ok h] at hmem
  obtain ⟨entry, -, heq⟩ := List.mem_map.1 hmem
  exact ⟨entry.2, Listing.ofJson_eq_ok_iff.1 (Prod.mk.inj heq).2.symm⟩

theorem ascending_listings : found.Pairwise fun entry later => entry.1 < later.1 := by
  have hnames : found.map Prod.fst = (Json.sortedMembers members).map Prod.fst := by
    have hfst := congrArg (List.map Prod.fst) (listings_eq_ok h)
    rw [List.map_map, List.map_map] at hfst
    exact hfst.symm
  have hascending := List.pairwise_map.2 (Json.ascending_sortedMembers members)
  rw [← hnames] at hascending
  exact List.pairwise_map.1 hascending

end Listings

/-- The first member that tells no listing is complained of. -/
theorem listings_eq_error {tool : String} {members : List (String × Json)}
    {complaint : ReportError} (h : listings tool members = .error complaint) :
    ∃ front name value back cause, members = front ++ (name, value) :: back ∧
      (∀ member ∈ front, ∃ l : Listing, l.IsToldBy member.2) ∧
      Listing.ofJson value = .error cause ∧
      complaint = .unreadable tool (name ++ ": " ++ cause.message) := by
  induction members with
  | nil => cases h
  | cons member members ih =>
    obtain ⟨key, value⟩ := member
    rw [listings] at h
    split at h
    next cause hcause =>
      cases h
      exact ⟨[], key, value, members, cause, rfl, List.forall_mem_nil _, hcause, rfl⟩
    next l hl =>
      obtain hrest | ⟨_, -, hpure⟩ := Except.bind_eq_error_iff.1 h
      · obtain ⟨front, name, found, back, cause, rfl, hfront, hcause, rfl⟩ := ih hrest
        exact ⟨(key, value) :: front, name, found, back, cause, rfl,
          List.forall_mem_cons.2 ⟨⟨l, Listing.ofJson_eq_ok_iff.1 hl⟩, hfront⟩, hcause, rfl⟩
      · cases hpure

theorem Precedes.row {l l' : Listing} {name name' : String} {row row' : List String}
    (hname : name < name') (hrow : l.IsRow name row) (hrow' : l'.IsRow name' row') :
    Precedes row row' := by
  cases hrow
  cases hrow'
  exact ⟨name, name', rfl, rfl, Text.Utf8.encode_lt_encode_iff.2 hname⟩

/-! ## What is made of an object -/

theorem entriesAnswer_listings (tool : String) (members : List (String × Json)) :
    EntriesAnswer tool members ((listings tool (Json.sortedMembers members)).map fun found =>
      ⟨listingHead, found.filterMap fun (name, listing) => listing.row? name⟩) := by
  have hascending := Json.ascending_sortedMembers members
  cases h : listings tool (Json.sortedMembers members) with
  | error complaint =>
    obtain ⟨front, name, value, back, cause, hsplit, hfront, hcause, rfl⟩ := listings_eq_error h
    have hmem : (name, value) ∈ Json.sortedMembers members := by simp [hsplit]
    refine .foreign (Json.mem_sortedMembers_iff.1 hmem) (Listing.not_isToldBy hcause) hcause
      fun name' value' hlt hvalue' => ?_
    have hmem' := Json.mem_sortedMembers_iff.2 hvalue'
    have hlt' := Text.Utf8.encode_lt_encode_iff.1 hlt
    rw [hsplit] at hascending hmem'
    -- what stands behind the first that tells none has a larger name
    obtain hmem' | heq | hmem' : (name', value') ∈ front ∨ (name', value') = (name, value) ∨
        (name', value') ∈ back := by simpa using hmem'
    · exact hfront _ hmem'
    · cases heq
      exact absurd hlt' (String.lt_irrefl _)
    · have hbehind := (List.pairwise_cons.1 (List.pairwise_append.1 hascending).2.1).1 _ hmem'
      exact absurd hlt' (String.lt_asymm hbehind)
  | ok found =>
    have hmem : ∀ {name : String} {l : Listing}, (name, l) ∈ found ↔
        ∃ value, Json.lookup? name members = some value ∧ l.IsToldBy value := mem_listings h
    refine .report (fun name value hvalue => exists_listing h hvalue) (fun row => ?_) ?_
    · simp only [List.mem_filterMap, Listing.row?_eq_some_iff, Prod.exists, hmem]
      constructor
      · rintro ⟨name, l, ⟨value, hvalue, htold⟩, hrow⟩
        exact ⟨name, value, l, hvalue, htold, hrow⟩
      · rintro ⟨name, value, l, hvalue, htold, hrow⟩
        exact ⟨name, l, ⟨value, hvalue, htold⟩, hrow⟩
    · refine (ascending_listings h).filterMap _ fun entry later hlt row hrow row' hrow' => ?_
      exact .row hlt (Listing.row?_eq_some_iff.1 hrow) (Listing.row?_eq_some_iff.1 hrow')

instance : Std.Asymm Precedes where
  asymm := by
    rintro row row' ⟨name, name', hname, hname', hlt⟩ ⟨later, earlier, hlater, hearlier, hlt'⟩
    cases hlater.symm.trans hname'
    cases hearlier.symm.trans hname
    exact List.lt_asymm hlt hlt'

/-- Some members have one answer. -/
theorem EntriesAnswer.eq {tool : String} {members : List (String × Json)}
    {answer answer' : Except ReportError Report} (h : EntriesAnswer tool members answer)
    (h' : EntriesAnswer tool members answer') : answer = answer' := by
  cases h with
  | report htold hrows hordered =>
    cases h' with
    | report _ hrows' hordered' =>
      rw [hordered.eq_of_mem_iff hordered' fun row => (hrows row).trans (hrows' row).symm]
    | foreign hvalue hnone =>
      obtain ⟨l, hl⟩ := htold _ _ hvalue
      exact absurd hl (hnone l)
  | @foreign name _ _ hvalue hnone hcause hfirst =>
    cases h' with
    | report htold =>
      obtain ⟨l, hl⟩ := htold _ _ hvalue
      exact absurd hl (hnone l)
    | @foreign name' _ _ hvalue' hnone' hcause' hfirst' =>
      have hle : ¬ name' < name := by
        intro hlt
        obtain ⟨l, hl⟩ := hfirst _ _ (Text.Utf8.encode_lt_encode_iff.2 hlt) hvalue'
        exact hnone' l hl
      have hge : ¬ name < name' := by
        intro hlt
        obtain ⟨l, hl⟩ := hfirst' _ _ (Text.Utf8.encode_lt_encode_iff.2 hlt) hvalue
        exact hnone l hl
      obtain rfl := String.le_antisymm (String.not_lt.1 hle) (String.not_lt.1 hge)
      cases hvalue.symm.trans hvalue'
      cases hcause.symm.trans hcause'
      rfl

theorem EntriesAnswer.isOk_iff {tool : String} {members : List (String × Json)}
    {answer : Except ReportError Report} (h : EntriesAnswer tool members answer) :
    (∃ report, answer = .ok report) ↔
      ∀ name value, Json.lookup? name members = some value → ∃ l : Listing, l.IsToldBy value := by
  cases h with
  | report htold => exact iff_of_true ⟨_, rfl⟩ htold
  | foreign hvalue hnone =>
    refine iff_of_false (fun ⟨_, hok⟩ => by cases hok) fun htold => ?_
    obtain ⟨l, hl⟩ := htold _ _ hvalue
    exact hnone l hl

/-! ## Another order -/

theorem Listing.IsToldBy.iff_of_reordered {value value' : Json} (h : value.Reordered value')
    {l : Listing} : l.IsToldBy value ↔ l.IsToldBy value' := by
  rw [← ofJson_eq_ok_iff, ← ofJson_eq_ok_iff]
  exact (orderless_ofJson _ _ h).eq_ok_iff

theorem EntriesAnswer.of_reordered {tool : String} {members members' : List (String × Json)}
    {answer : Except ReportError Report} (h : EntriesAnswer tool members answer)
    (hlookup : ∀ name, Option.Rel Json.Reordered (Json.lookup? name members)
      (Json.lookup? name members')) : EntriesAnswer tool members' answer := by
  have hleft : ∀ {name value'}, Json.lookup? name members' = some value' →
      ∃ value, Json.lookup? name members = some value ∧ value.Reordered value' :=
    fun hvalue' => Json.exists_left_of_rel (hlookup _) hvalue'
  have hright : ∀ {name value}, Json.lookup? name members = some value →
      ∃ value', Json.lookup? name members' = some value' ∧ value.Reordered value' :=
    fun hvalue => Json.exists_right_of_rel (hlookup _) hvalue
  cases h with
  | report htold hrows hordered =>
    refine .report (fun name value' hvalue' => ?_) (fun row => (hrows row).trans ?_) hordered
    · obtain ⟨value, hvalue, hreordered⟩ := hleft hvalue'
      obtain ⟨l, hl⟩ := htold name value hvalue
      exact ⟨l, (Listing.IsToldBy.iff_of_reordered hreordered).1 hl⟩
    · constructor
      · rintro ⟨name, value, l, hvalue, hl, hrow⟩
        obtain ⟨value', hvalue', hreordered⟩ := hright hvalue
        exact ⟨name, value', l, hvalue', (Listing.IsToldBy.iff_of_reordered hreordered).1 hl, hrow⟩
      · rintro ⟨name, value', l, hvalue', hl, hrow⟩
        obtain ⟨value, hvalue, hreordered⟩ := hleft hvalue'
        exact ⟨name, value, l, hvalue, (Listing.IsToldBy.iff_of_reordered hreordered).2 hl, hrow⟩
  | foreign hvalue _ hcause hfirst =>
    obtain ⟨value', hvalue', hreordered⟩ := hright hvalue
    obtain ⟨cause', hcause', hmessage⟩ :=
      (Listing.orderless_ofJson _ _ hreordered).exists_error hcause
    rw [← hmessage]
    refine .foreign hvalue' (Listing.not_isToldBy hcause') hcause'
      fun name earlier hlt hearlier => ?_
    obtain ⟨value, hvalue, hreordered⟩ := hleft hearlier
    obtain ⟨l, hl⟩ := hfirst name value hlt hvalue
    exact ⟨l, (Listing.IsToldBy.iff_of_reordered hreordered).1 hl⟩

/-! ## What a text is read as -/

theorem allBlank_of_read {stdout : String} {value : Json} (h : Json.read stdout = some value) :
    Text.allBlank stdout = false := by
  obtain ⟨tokens, hscan, htokens⟩ := Json.ofChars?_eq_some h
  refine Bool.eq_false_iff.2 fun hblank => ?_
  have hnone : tokens = [] := Json.Token.scan?_blanks (List.all_eq_true.1 hblank) hscan
  rw [hnone] at htokens
  cases htokens

theorem ofEntries_of_object {stdout : String} {members : List (String × Json)}
    (h : Json.read stdout = some (.object members)) (tool : String) :
    EntriesAnswer tool members (ofEntries tool stdout) := by
  have heq : ofEntries tool stdout =
      (listings tool (Json.sortedMembers members)).map fun found =>
        ⟨listingHead, found.filterMap fun (name, listing) => listing.row? name⟩ := by
    rw [ofEntries, allBlank_of_read h, h]
    rfl
  rw [heq]
  exact entriesAnswer_listings tool members

theorem ofEntries_of_blank {stdout : String} (h : ∀ c ∈ stdout.toList, Text.isBlank c = true)
    (tool : String) : ofEntries tool stdout = .ok ⟨listingHead, []⟩ :=
  if_pos (List.all_eq_true.2 h)

/-- A report has the columns that are looked for, and every row has a cell for each. -/
theorem shape_of_ofEntries {tool stdout : String} {report : Report}
    (h : ofEntries tool stdout = .ok report) : report.head = listingHead ∧
      ∀ row ∈ report.rows, row.length = listingHead.length := by
  cases hblank : Text.allBlank stdout with
  | true =>
    rw [ofEntries_of_blank (List.all_eq_true.1 hblank)] at h
    cases h
    exact ⟨rfl, List.forall_mem_nil _⟩
  | false =>
    cases hread : Json.read stdout with
    | none =>
      rw [ofEntries, hblank, hread] at h
      cases h
    | some value =>
      cases value with
      | object members =>
        have hanswer := ofEntries_of_object hread tool
        rw [h] at hanswer
        cases hanswer with
        | report _ hrows =>
          refine ⟨rfl, fun row hmem => ?_⟩
          obtain ⟨_, _, _, -, -, hrow⟩ := (hrows row).1 hmem
          cases hrow
          rfl
      | _ =>
        rw [ofEntries, hblank, hread] at h
        cases h

theorem records_of_shape {report : Report} (hhead : report.head = listingHead)
    (hrows : ∀ row ∈ report.rows, row.length = listingHead.length) :
    (∃ records, report.records = .ok records) ∨
      ∃ package cause, report.records = .error (.malformedVersion package cause) := by
  have hanswer := answers_records report
  cases hrecords : report.records with
  | ok records => exact .inl ⟨records, rfl⟩
  | error complaint =>
    rw [hrecords] at hanswer
    cases hanswer with
    | missingColumn _ hmissing =>
      obtain ⟨front, back, hnames, -, hcolumn⟩ := hmissing
      have hall : ∀ name ∈ requiredColumns, name ∈ listingHead := by decide
      exact absurd (hall _ (by simp [hnames])) (hhead ▸ hcolumn)
    | @fault front back row _ _ hsplit _ hfault =>
      cases hfault with
      | rowLength hlength =>
        exact absurd ((hrows row (by simp [hsplit])).trans (congrArg List.length hhead.symm)) hlength
      | wanted => exact .inr ⟨_, _, rfl⟩
      | latest => exact .inr ⟨_, _, rfl⟩

/-- What is made of an object of packages is told by what is found in it, whichever order it is
written in, and the report of it can be read but for versions that cannot be sized. -/
theorem ofEntries_readsEntries : ReadsEntries ofEntries where
  isOk_iff tool _ _ hread := (ofEntries_of_object hread tool).isOk_iff
  answer_iff tool _ _ hread _ :=
    ⟨fun h => h ▸ ofEntries_of_object hread tool, fun h => (ofEntries_of_object hread tool).eq h⟩
  eq_of_reordered tool _ _ members _ hread hread' h := by
    obtain ⟨members', rfl, hlookup⟩ := h.exists_members
    exact (ofEntries_of_object hread' tool).eq
      ((ofEntries_of_object hread tool).of_reordered hlookup)
  eq_of_blank tool _ h := ofEntries_of_blank h tool
  records _ _ _ h := records_of_shape (shape_of_ofEntries h).1 (shape_of_ofEntries h).2

end Patchwise.Report

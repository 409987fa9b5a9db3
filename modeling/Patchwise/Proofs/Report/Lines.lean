import Patchwise.PackageTool.Outdated
import Patchwise.Proofs.Json.Mismatch
import Patchwise.Proofs.Json.Scan
import Patchwise.Proofs.Text.Lines

/-!
# Tables among other lines

A package manager that prints lines says many things besides the table of outdated packages. All
that is made of its lines is the first table among them: nothing in front of it hides it, nothing
behind it counts, and if it is not well-formed then no other table is taken for it.

## Main definitions

- `Report.IsNoise`, `Report.IsTable` — a line that tells of no table, and one that does
- `Report.Tells` — what the line of a table tells
- `Report.LinesAnswer` — what is made of some lines
- `Report.Disguised` — the same lines among other noise
- `Report.SeesFirstTable` — a reading of lines that depends on the first table only

## Main results

- `Report.ofLines_seesFirstTable` — the lines of a package manager are read so
-/

namespace Patchwise.Report

/-! ## Lines -/

/-- A line that tells of no table. Blanks at its ends do not count. -/
inductive IsNoise (line : List Char) : Prop
  | blank (h : ∀ c ∈ line, Text.isBlank c = true)
  | foreign (h : Json.ofChars? (Text.trim line) = none)
  | other {event : Json} (h : Json.ofChars? (Text.trim line) = some event)
      (htype : event.member? "type" ≠ some (.text "table"))

/-- A line that tells of a table in a JSON value. Blanks at its ends do not count. -/
structure IsTable (line : List Char) (event : Json) : Prop where
  read : Json.ofChars? (Text.trim line) = some event
  type_eq : event.member? "type" = some (.text "table")

/-- The data of a table: its head and its body under their names, or one after the other. Every text
is as it was printed. -/
inductive IsData (report : Report) : Json → Prop
  | members {members : List (String × Json)}
      (hhead : Json.lookup? "head" members = some (Json.ofTexts report.head))
      (hbody : Json.lookup? "body" members = some (.array (report.rows.map Json.ofTexts))) :
      IsData report (.object members)
  | items : IsData report (.array [Json.ofTexts report.head, .array (report.rows.map Json.ofTexts)])

/-- The line of a table tells a report. -/
def Tells (event : Json) (report : Report) : Prop :=
  ∃ data, event.member? "data" = some data ∧ IsData report data

/-- What is made of some lines. -/
inductive LinesAnswer (lines : List (List Char)) : Except ReportError (Option Report) → Prop
  /-- There is no table. -/
  | nothing (h : ∀ line ∈ lines, IsNoise line) : LinesAnswer lines (.ok none)
  /-- The first table tells a report. -/
  | table {front back : List (List Char)} {line : List Char} {event : Json} {report : Report}
      (hlines : lines = front ++ line :: back) (hfront : ∀ line ∈ front, IsNoise line)
      (hline : IsTable line event) (h : Tells event report) : LinesAnswer lines (.ok (some report))
  /-- The first table is not well-formed. -/
  | malformed {front back : List (List Char)} {line : List Char} {event : Json}
      {cause : Json.Mismatch} (hlines : lines = front ++ line :: back)
      (hfront : ∀ line ∈ front, IsNoise line) (hline : IsTable line event)
      (h : ∀ report, ¬ Tells event report) (hcause : ofTableEvent event = .error cause) :
      LinesAnswer lines (.error (.unreadable "yarn" cause.message))

/-- Lines with noise put between them, blanks put at their ends, and anything else behind the first
table. -/
inductive Disguised : List (List Char) → List (List Char) → Prop
  | nil : Disguised [] []
  | noise {line : List Char} {lines lines' : List (List Char)} (hline : IsNoise line)
      (h : Disguised lines lines') : Disguised lines (line :: lines')
  | line {left line right : List Char} {lines lines' : List (List Char)}
      (hleft : ∀ c ∈ left, Text.isBlank c = true) (hright : ∀ c ∈ right, Text.isBlank c = true)
      (h : Disguised lines lines') : Disguised (line :: lines) ((left ++ line ++ right) :: lines')
  | behind {left line right : List Char} {event : Json} (hline : IsTable line event)
      (hleft : ∀ c ∈ left, Text.isBlank c = true) (hright : ∀ c ∈ right, Text.isBlank c = true)
      (lines lines' : List (List Char)) :
      Disguised (line :: lines) ((left ++ line ++ right) :: lines')

/-- A reading of lines that depends on the first table among them only. -/
structure SeesFirstTable (read : String → Except ReportError (Option Report)) : Prop where
  /-- Every text is made of lines. -/
  isMadeOf : ∀ stdout : String, ∃ lines, Text.IsMadeOf lines stdout.toList
  answer_iff : ∀ (stdout : String) lines, Text.IsMadeOf lines stdout.toList →
    ∀ answer, read stdout = answer ↔ LinesAnswer lines answer
  /-- The lines may be ended and disguised in any way. -/
  eq_of_disguised : ∀ (stdout stdout' : String) lines lines', Text.IsMadeOf lines stdout.toList →
    Text.IsMadeOf lines' stdout'.toList → Disguised lines lines' → read stdout' = read stdout

/-! ## What a line tells of -/

/-- The table that a line tells of. -/
def tableOf? (line : List Char) : Option Json :=
  (Json.ofChars? (Text.trim line)).filter isTableEvent

theorem isTableEvent_iff {event : Json} :
    isTableEvent event = true ↔ event.member? "type" = some (.text "table") := by
  unfold isTableEvent
  cases event.member? "type" with
  | none => simp
  | some value => cases value <;> simp [Json.text?]

theorem tableOf?_eq_some_iff {line : List Char} {event : Json} :
    tableOf? line = some event ↔ IsTable line event := by
  rw [tableOf?, Option.filter_eq_some_iff, isTableEvent_iff]
  exact ⟨fun ⟨hread, htype⟩ => ⟨hread, htype⟩, fun ⟨hread, htype⟩ => ⟨hread, htype⟩⟩

theorem tableOf?_of_trim_eq {line line' : List Char} (h : Text.trim line = Text.trim line') :
    tableOf? line = tableOf? line' := by
  rw [tableOf?, h, tableOf?]

theorem tableOf?_of_blank {line : List Char} (h : ∀ c ∈ line, Text.isBlank c = true) :
    tableOf? line = none := by
  rw [tableOf?, Text.trim_of_blank h, Json.ofChars?, Json.Token.scan?_nil]
  rfl

theorem tableOf?_eq_none_iff {line : List Char} : tableOf? line = none ↔ IsNoise line := by
  constructor
  · intro h
    cases hread : Json.ofChars? (Text.trim line) with
    | none => exact .foreign hread
    | some event =>
      refine .other hread fun htype => ?_
      rw [tableOf?_eq_some_iff.2 ⟨hread, htype⟩] at h
      cases h
  · intro h
    cases h with
    | blank hblank => exact tableOf?_of_blank hblank
    | foreign hread =>
      rw [tableOf?, hread]
      rfl
    | other hread htype =>
      rw [tableOf?, hread, Option.filter_some, if_neg]
      rwa [isTableEvent_iff]

/-- What is found among the lines of a text is found among any lines that it is made of. -/
theorem tableEvent?_eq {stdout : String} {lines : List (List Char)}
    (h : Text.IsMadeOf lines stdout.toList) :
    tableEvent? (Text.lines stdout.toList) = lines.findSome? tableOf? :=
  h.findSome?_lines (fun _ _ => tableOf?_of_trim_eq) (tableOf?_of_blank (List.forall_mem_nil _))

/-! ## What a table tells -/

theorem ofTable_eq_ok_iff {data : Json} {report : Report} :
    ofTable data = .ok report ↔ IsData report data := by
  have hrows := Json.accepts_asTexts.asList
  cases data with
  | object members =>
    simp only [ofTable, Json.asRecord, texts, Except.bind_eq_ok_iff, hrows.field?_eq_ok_iff,
      Json.accepts_asTexts.field?_eq_ok_iff, Json.required_eq_ok_iff]
    constructor
    · rintro ⟨_, hbody, _, hhead, head, rfl, body, rfl, heq⟩
      cases heq
      exact .members hhead hbody
    · intro h
      cases h with
      | members hhead hbody =>
        exact ⟨some report.rows, hbody, some report.head, hhead, _, rfl, _, rfl, rfl⟩
  | array items =>
    simp only [ofTable, Json.asRecord, texts, Except.bind_eq_ok_iff, hrows.item_eq_ok_iff,
      Json.accepts_asTexts.item_eq_ok_iff, Json.noMoreItems_eq_ok_iff]
    constructor
    · rintro ⟨head, hhead, body, hbody, _, hlength, heq⟩
      cases heq
      have hfields : items = [Json.ofTexts head, .array (body.map Json.ofTexts)] :=
        Json.eq_of_getElem? (fun i hi => match i, hi with
          | 0, _ => hhead
          | 1, _ => hbody) hlength
      rw [hfields]
      exact .items
    · intro h
      cases h with
      | items => exact ⟨report.head, rfl, report.rows, rfl, (), Nat.le_refl 2, rfl⟩
  | _ => exact iff_of_false nofun nofun

theorem ofTableEvent_eq_ok_iff {event : Json} {report : Report} :
    ofTableEvent event = .ok report ↔ Tells event report := by
  cases event with
  | object members =>
    simp only [← ofTable_eq_ok_iff, Tells]
    exact Json.required_field?_eq_ok_iff
  | _ => exact iff_of_false nofun nofun

/-! ## What is made of lines -/

/-- A reading of lines is told by the first table that is found among them. -/
theorem ofLines_eq {stdout : String} {lines : List (List Char)}
    (h : Text.IsMadeOf lines stdout.toList) :
    ofLines stdout =
      match lines.findSome? tableOf? with
      | none => .ok none
      | some event =>
        match ofTableEvent event with
        | .ok report => .ok (some report)
        | .error cause => .error (.unreadable "yarn" cause.message) := by
  rw [← tableEvent?_eq h]
  rfl

theorem linesAnswer_ofLines {stdout : String} {lines : List (List Char)}
    (h : Text.IsMadeOf lines stdout.toList) : LinesAnswer lines (ofLines stdout) := by
  rw [ofLines_eq h]
  cases hfind : lines.findSome? tableOf? with
  | none =>
    refine .nothing fun line hline => tableOf?_eq_none_iff.1 ?_
    exact List.findSome?_eq_none_iff.1 hfind line hline
  | some event =>
    obtain ⟨front, line, back, hlines, hline, hfront⟩ := List.findSome?_eq_some_iff.1 hfind
    have hnoise : ∀ line ∈ front, IsNoise line := fun line hmem =>
      tableOf?_eq_none_iff.1 (hfront line hmem)
    have htable := tableOf?_eq_some_iff.1 hline
    dsimp only
    cases hread : ofTableEvent event with
    | ok report => exact .table hlines hnoise htable (ofTableEvent_eq_ok_iff.1 hread)
    | error cause =>
      refine .malformed hlines hnoise htable (fun report htells => ?_) hread
      rw [ofTableEvent_eq_ok_iff.2 htells] at hread
      cases hread

theorem findSome?_tableOf?_eq {front back : List (List Char)} {line : List Char} {event : Json}
    (hfront : ∀ line ∈ front, IsNoise line) (hline : IsTable line event) :
    (front ++ line :: back).findSome? tableOf? = some event :=
  List.findSome?_eq_some_iff.2 ⟨front, line, back, rfl, tableOf?_eq_some_iff.2 hline,
    fun line hmem => tableOf?_eq_none_iff.2 (hfront line hmem)⟩

theorem LinesAnswer.ofLines_eq {stdout : String} {lines : List (List Char)}
    {answer : Except ReportError (Option Report)} (hlines : Text.IsMadeOf lines stdout.toList)
    (h : LinesAnswer lines answer) : ofLines stdout = answer := by
  rw [Report.ofLines_eq hlines]
  cases h with
  | nothing h =>
    have hnone : lines.findSome? tableOf? = none :=
      List.findSome?_eq_none_iff.2 fun line hmem => tableOf?_eq_none_iff.2 (h line hmem)
    rw [hnone]
  | table hsplit hfront hline htells =>
    rw [hsplit, findSome?_tableOf?_eq hfront hline]
    dsimp only
    rw [ofTableEvent_eq_ok_iff.2 htells]
  | malformed hsplit hfront hline _ hcause =>
    rw [hsplit, findSome?_tableOf?_eq hfront hline]
    dsimp only
    rw [hcause]

/-- A disguise hides no table and brings no other one to the front. -/
theorem Disguised.findSome?_eq {lines lines' : List (List Char)} (h : Disguised lines lines') :
    lines'.findSome? tableOf? = lines.findSome? tableOf? := by
  induction h with
  | nil => rfl
  | noise hline _ ih => rw [List.findSome?_cons, tableOf?_eq_none_iff.2 hline, ih]
  | line hleft hright _ ih =>
    rw [List.findSome?_cons, List.findSome?_cons, ih,
      tableOf?_of_trim_eq (Text.trim_append hleft hright _)]
  | behind hline hleft hright =>
    rw [List.findSome?_cons, List.findSome?_cons,
      tableOf?_of_trim_eq (Text.trim_append hleft hright _), tableOf?_eq_some_iff.2 hline]

/-- Of the lines that a package manager prints, all that is made is the first table among them. -/
theorem ofLines_seesFirstTable : SeesFirstTable ofLines where
  isMadeOf stdout := ⟨_, Text.isMadeOf_lines stdout.toList⟩
  answer_iff _ _ hlines _ := ⟨fun h => h ▸ linesAnswer_ofLines hlines, fun h => h.ofLines_eq hlines⟩
  eq_of_disguised _ _ _ _ hlines hlines' h := by
    rw [ofLines_eq hlines', ofLines_eq hlines, h.findSome?_eq]

end Patchwise.Report

import Mathlib.Data.List.Forall2
import Patchwise.Json.Mismatch
import Patchwise.Proofs.Report

/-!
# Which values are of an expected shape

A value is taken apart just if it is of the shape that was expected, so what is accepted by a reader
can be said by what it would be written as.

## Main definitions

- `Json.Accepts` — a reader accepts what is written in one way, and nothing else
- `Json.ofTexts`, `Json.ofOptionalText` — how a list of texts, and a text or nothing, are written

## Main results

- `Json.accepts_asText`, `Json.Accepts.asList`, `Json.accepts_asOptionalText` — the simple readers
- `Json.Accepts.field?_eq_ok_iff`, `Json.Accepts.item_eq_ok_iff` — the fields of a record
-/

namespace Patchwise.Json

variable {α : Type}

/-- A reader accepts what is written in one way, and nothing else. -/
def Accepts (read : Json → Except Mismatch α) (write : α → Json) : Prop :=
  ∀ value a, read value = .ok a ↔ value = write a

/-! ## Texts and lists -/

theorem accepts_asText : Accepts asText .text := by
  intro value content
  cases value <;> simp [asText]

theorem mapM_eq_ok_iff {read : Json → Except Mismatch α} {items : List Json} {as : List α} :
    items.mapM read = .ok as ↔ List.Forall₂ (fun item a => read item = .ok a) items as := by
  induction items generalizing as with
  | nil => simp [pure, Except.pure, eq_comm]
  | cons item items ih =>
    simp only [List.mapM_cons, Except.bind_eq_ok_iff, ih, List.forall₂_cons_left_iff]
    constructor
    · rintro ⟨a, ha, rest, hrest, heq⟩
      cases heq
      exact ⟨a, rest, ha, hrest, rfl⟩
    · rintro ⟨a, rest, ha, hrest, rfl⟩
      exact ⟨a, ha, rest, hrest, rfl⟩

theorem Accepts.asList {read : Json → Except Mismatch α} {write : α → Json}
    (h : Accepts read write) : Accepts (asList read) fun as => .array (as.map write) := by
  intro value as
  have hitems : ∀ items : List Json, items.mapM read = .ok as ↔ items = as.map write := by
    intro items
    rw [mapM_eq_ok_iff, ← List.forall₂_eq_eq_eq, List.forall₂_map_right_iff]
    simp only [h _ _]
  cases value <;> simp [Json.asList, hitems]

/-- A list of texts. -/
def ofTexts (contents : List String) : Json :=
  .array (contents.map .text)

theorem accepts_asTexts : Accepts (Json.asList asText) ofTexts :=
  accepts_asText.asList

/-- A text, or nothing. -/
def ofOptionalText : Option String → Json
  | some content => .text content
  | none => .null

theorem accepts_asOptionalText : Accepts (asOptional asText) ofOptionalText := by
  intro value content
  cases value <;> cases content <;> simp [asOptional, asText, ofOptionalText, Except.map]

/-! ## Fields -/

theorem required_eq_ok_iff {name : String} {found : Option α} {a : α} :
    required name found = .ok a ↔ found = some a := by
  cases found <;> simp [required]

theorem required_field?_eq_ok_iff {read : Json → Except Mismatch α}
    {members : List (String × Json)} {name : String} {a : α} :
    (field? members name read >>= required name) = .ok a ↔
      ∃ value, lookup? name members = some value ∧ read value = .ok a := by
  simp only [Except.bind_eq_ok_iff, required_eq_ok_iff, field?]
  cases lookup? name members with
  | none => simp
  | some value => cases hread : read value <;> simp [hread, Except.map]

section Fields

variable {read : Json → Except Mismatch α} {write : α → Json} (h : Accepts read write)

include h

theorem Accepts.field?_eq_ok_iff {members : List (String × Json)} {name : String}
    {found : Option α} :
    field? members name read = .ok found ↔ lookup? name members = found.map write := by
  unfold field?
  cases lookup? name members with
  | none => cases found <;> simp
  | some value =>
    have hmap : (read value).map some = .ok found ↔ ∃ a, read value = .ok a ∧ some a = found := by
      cases read value <;> simp [Except.map]
    rw [hmap]
    cases found with
    | none => simp
    | some a => simp [h value a]

theorem Accepts.item_eq_ok_iff {items : List Json} {record : String} {size index : Nat} {a : α} :
    item items record size index read = .ok a ↔ items[index]? = some (write a) := by
  unfold item
  cases items[index]? with
  | none => simp
  | some value => simp [h value a]

end Fields

theorem noMoreItems_eq_ok_iff {items : List Json} {size : Nat} {done : Unit} :
    noMoreItems items size = .ok done ↔ items.length ≤ size := by
  unfold noMoreItems
  split <;> simp_all

/-- A list that has the fields of a record in their places, and no others, is made of them. -/
theorem eq_of_getElem? {items fields : List Json}
    (h : ∀ (i : Nat) (hi : i < fields.length), items[i]? = some fields[i])
    (hlength : items.length ≤ fields.length) : items = fields := by
  apply List.ext_getElem?
  intro i
  by_cases hi : i < fields.length
  · rw [h i hi, List.getElem?_eq_getElem hi]
  · rw [List.getElem?_eq_none (by omega), List.getElem?_eq_none (by omega)]

end Patchwise.Json

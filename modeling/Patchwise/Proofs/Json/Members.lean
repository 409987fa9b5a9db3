import Mathlib.Data.List.Induction
import Mathlib.Data.List.Forall2
import Patchwise.Json.Mismatch
import Patchwise.Proofs.Json.Reading

/-!
# The order of members

The members of an object are looked up by their names, and where they are gone through this is done
in the order of the names. So the order in which members of different names are written makes no
difference to what a value is read as.

## Main definitions

- `Json.Ascending` — members in the order of their names, no two of one name
- `Json.Reordered` — a value that is written with its members in another order
- `Json.Orderless` — a reader to which that order makes no difference

## Main results

- `Json.mem_sortedMembers_iff`, `Json.ascending_sortedMembers` — the members that count, in order
- `Json.reordered_of_perm` — members of different names may stand in any order
- `Json.Reordered.exists_members` — the same is looked up in an object that is reordered
- `Json.orderless_asText`, `Json.Orderless.asOptional` — the simple readers are orderless
-/

namespace Patchwise.Json

/-! ## Members that are sorted -/

/-- Members in the order of their names, no two of one name. -/
def Ascending (members : List (String × Json)) : Prop :=
  members.Pairwise fun member later => member.1 < later.1

/-- A member that is put in its place takes that of any other member of its name. -/
theorem mem_insertMember_iff {members : List (String × Json)} (h : Ascending members)
    {name : String} {value : Json} {member : String × Json} :
    member ∈ insertMember name value members ↔
      member = (name, value) ∨ member.1 ≠ name ∧ member ∈ members := by
  induction members with
  | nil => simp [insertMember]
  | cons first rest ih =>
    obtain ⟨hfirst, hrest⟩ := List.pairwise_cons.1 h
    rw [insertMember]
    split
    next hlt =>
      have hne : ∀ later ∈ first :: rest, later.1 ≠ name := by
        refine List.forall_mem_cons.2 ⟨(String.ne_of_lt hlt).symm, fun later hmem => ?_⟩
        exact (String.ne_of_lt (String.lt_trans hlt (hfirst later hmem))).symm
      rw [List.mem_cons]
      exact or_congr_right ⟨fun hmem => ⟨hne member hmem, hmem⟩, And.right⟩
    next =>
      split
      next heq =>
        have hne : ∀ later ∈ rest, later.1 ≠ name := by
          intro later hmem
          rw [heq]
          exact (String.ne_of_lt (hfirst later hmem)).symm
        rw [List.mem_cons, List.mem_cons]
        refine or_congr_right ⟨fun hmem => ⟨hne member hmem, .inr hmem⟩, ?_⟩
        rintro ⟨hname, rfl | hmem⟩
        · exact absurd heq.symm hname
        · exact hmem
      next hne =>
        rw [List.mem_cons, List.mem_cons, ih hrest]
        constructor
        · rintro (rfl | rfl | ⟨hname, hmem⟩)
          · exact .inr ⟨Ne.symm hne, .inl rfl⟩
          · exact .inl rfl
          · exact .inr ⟨hname, .inr hmem⟩
        · rintro (rfl | ⟨hname, rfl | hmem⟩)
          · exact .inr (.inl rfl)
          · exact .inl rfl
          · exact .inr (.inr ⟨hname, hmem⟩)

theorem Ascending.insertMember {members : List (String × Json)} (h : Ascending members)
    (name : String) (value : Json) : Ascending (insertMember name value members) := by
  induction members with
  | nil => exact List.pairwise_singleton _ _
  | cons first rest ih =>
    obtain ⟨hfirst, hrest⟩ := List.pairwise_cons.1 h
    rw [Json.insertMember]
    split
    next hlt =>
      refine List.pairwise_cons.2 ⟨List.forall_mem_cons.2 ⟨hlt, fun later hmem => ?_⟩, h⟩
      exact String.lt_trans hlt (hfirst later hmem)
    next hnlt =>
      split
      next heq =>
        refine List.pairwise_cons.2 ⟨fun later hmem => ?_, hrest⟩
        rw [heq]
        exact hfirst later hmem
      next hne =>
        refine List.pairwise_cons.2 ⟨fun later hmem => ?_, ih hrest⟩
        obtain rfl | ⟨-, hmem⟩ := (mem_insertMember_iff hrest).1 hmem
        · exact String.not_le.1 fun hle => hne (String.le_antisymm hle (String.not_lt.1 hnlt))
        · exact hfirst later hmem

theorem sortedMembers_concat (members : List (String × Json)) (name : String) (value : Json) :
    sortedMembers (members ++ [(name, value)]) = insertMember name value (sortedMembers members) := by
  rw [sortedMembers, List.foldl_append]
  rfl

theorem ascending_sortedMembers (members : List (String × Json)) :
    Ascending (sortedMembers members) := by
  induction members using List.reverseRecOn with
  | nil => exact .nil
  | append_singleton members member ih =>
    rw [sortedMembers_concat]
    exact ih.insertMember _ _

/-- The members that count are those that are found under their names. -/
theorem mem_sortedMembers_iff {members : List (String × Json)} {name : String} {value : Json} :
    (name, value) ∈ sortedMembers members ↔ lookup? name members = some value := by
  induction members using List.reverseRecOn with
  | nil => simp [sortedMembers, lookup?]
  | append_singleton members member ih =>
    obtain ⟨key, last⟩ := member
    rw [sortedMembers_concat, mem_insertMember_iff (ascending_sortedMembers members), ih,
      lookup?_append, lookup?_cons]
    by_cases hkey : key = name
    · subst hkey
      simp [lookup?, eq_comm]
    · simp [lookup?, hkey, Ne.symm hkey]

/-! ## Members in another order -/

/-- A value that is written with its members in another order, however deep within it they are.
Members of one name stay in order, since the last of them counts. -/
inductive Reordered : Json → Json → Prop
  | refl (value : Json) : Reordered value value
  | trans {value value' value'' : Json} (h : Reordered value value')
      (h' : Reordered value' value'') : Reordered value value''
  | swap {name name' : String} (hname : name ≠ name') (value value' : Json)
      (front back : List (String × Json)) :
      Reordered (.object (front ++ (name, value) :: (name', value') :: back))
        (.object (front ++ (name', value') :: (name, value) :: back))
  | member {value value' : Json} (h : Reordered value value') (name : String)
      (front back : List (String × Json)) :
      Reordered (.object (front ++ (name, value) :: back))
        (.object (front ++ (name, value') :: back))
  | item {value value' : Json} (h : Reordered value value') (front back : List Json) :
      Reordered (.array (front ++ value :: back)) (.array (front ++ value' :: back))

theorem rel_reordered_refl : ∀ found : Option Json, Option.Rel Reordered found found
  | none => .none
  | some value => .some (.refl value)

theorem rel_reordered_trans {found found' found'' : Option Json}
    (h : Option.Rel Reordered found found') (h' : Option.Rel Reordered found' found'') :
    Option.Rel Reordered found found'' := by
  cases h with
  | none => exact h'
  | some h =>
    cases h' with
    | some h' => exact .some (h.trans h')

theorem exists_left_of_rel {found found' : Option Json} (h : Option.Rel Reordered found found')
    {value' : Json} (hvalue' : found' = some value') :
    ∃ value, found = some value ∧ Reordered value value' := by
  cases h with
  | none => cases hvalue'
  | some hvalue =>
    cases hvalue'
    exact ⟨_, rfl, hvalue⟩

theorem exists_right_of_rel {found found' : Option Json} (h : Option.Rel Reordered found found')
    {value : Json} (hvalue : found = some value) :
    ∃ value', found' = some value' ∧ Reordered value value' := by
  cases h with
  | none => cases hvalue
  | some hvalue' =>
    cases hvalue
    exact ⟨_, rfl, hvalue'⟩

/-- Under each name stands the same as before, up to the order of what is within it. -/
theorem Reordered.exists_members {members : List (String × Json)} {value : Json}
    (h : Reordered (.object members) value) : ∃ members', value = .object members' ∧
      ∀ name, Option.Rel Reordered (lookup? name members) (lookup? name members') := by
  generalize hobject : Json.object members = before at h
  induction h generalizing members with
  | refl => exact ⟨members, hobject.symm, fun _ => rel_reordered_refl _⟩
  | trans _ _ ih ih' =>
    obtain ⟨middle, rfl, hmiddle⟩ := ih hobject
    obtain ⟨members', rfl, hmembers'⟩ := ih' rfl
    exact ⟨members', rfl, fun name => rel_reordered_trans (hmiddle name) (hmembers' name)⟩
  | @swap key key' hkeys item item' front back =>
    cases hobject
    refine ⟨_, rfl, fun name => ?_⟩
    have heq : lookup? name (front ++ (key, item) :: (key', item') :: back) =
        lookup? name (front ++ (key', item') :: (key, item) :: back) := by
      rw [lookup?_append, lookup?_append]
      congr 1
      simp only [lookup?_cons, Option.or_assoc]
      congr 1
      by_cases hkey : key = name
      · have hkey' : key' ≠ name := fun hkey' => hkeys (hkey.trans hkey'.symm)
        rw [if_neg hkey', Option.none_or, Option.or_none]
      · rw [if_neg hkey, Option.none_or, Option.or_none]
    rw [heq]
    exact rel_reordered_refl _
  | @member item item' h key front back =>
    cases hobject
    refine ⟨_, rfl, fun name => ?_⟩
    rw [lookup?_append, lookup?_append, lookup?_cons, lookup?_cons]
    cases lookup? name back with
    | some later => exact rel_reordered_refl _
    | none =>
      by_cases hkey : key = name
      · rw [if_pos hkey, if_pos hkey]
        exact .some h
      · rw [if_neg hkey, if_neg hkey]
        exact rel_reordered_refl _
  | item => cases hobject

theorem Reordered.exists_items {items : List Json} {value : Json}
    (h : Reordered (.array items) value) : ∃ items' : List Json, value = .array items' ∧
      items'.length = items.length ∧ ∀ i : Nat, Option.Rel Reordered items[i]? items'[i]? := by
  generalize harray : Json.array items = before at h
  induction h generalizing items with
  | refl => exact ⟨items, harray.symm, rfl, fun _ => rel_reordered_refl _⟩
  | trans _ _ ih ih' =>
    obtain ⟨middle, rfl, hlength, hmiddle⟩ := ih harray
    obtain ⟨items', rfl, hlength', hitems'⟩ := ih' rfl
    exact ⟨items', rfl, hlength'.trans hlength,
      fun i => rel_reordered_trans (hmiddle i) (hitems' i)⟩
  | swap => cases harray
  | member => cases harray
  | item h front back =>
    cases harray
    refine ⟨_, rfl, by simp, fun i => ?_⟩
    rw [List.getElem?_append, List.getElem?_append]
    split
    next => exact rel_reordered_refl _
    next =>
      rw [List.getElem?_cons, List.getElem?_cons]
      split
      next => exact .some h
      next => exact rel_reordered_refl _

/-- Only an object or an array can be written in another way. -/
theorem Reordered.eq_or_nested {value value' : Json} (h : Reordered value value') :
    value' = value ∨ (∃ members members', value = .object members ∧ value' = .object members') ∨
      ∃ items items', value = .array items ∧ value' = .array items' := by
  induction h with
  | refl => exact .inl rfl
  | trans _ _ ih ih' =>
    obtain rfl | ⟨_, middle, rfl, rfl⟩ | ⟨_, middle, rfl, rfl⟩ := ih
    · exact ih'
    · obtain rfl | ⟨_, members', -, rfl⟩ | ⟨_, _, hmiddle, -⟩ := ih'
      · exact .inr (.inl ⟨_, _, rfl, rfl⟩)
      · exact .inr (.inl ⟨_, _, rfl, rfl⟩)
      · cases hmiddle
    · obtain rfl | ⟨_, _, hmiddle, -⟩ | ⟨_, items', -, rfl⟩ := ih'
      · exact .inr (.inr ⟨_, _, rfl, rfl⟩)
      · cases hmiddle
      · exact .inr (.inr ⟨_, _, rfl, rfl⟩)
  | swap => exact .inr (.inl ⟨_, _, rfl, rfl⟩)
  | member => exact .inr (.inl ⟨_, _, rfl, rfl⟩)
  | item => exact .inr (.inr ⟨_, _, rfl, rfl⟩)

/-- Where no two members are of one name, they may stand in any order. -/
theorem reordered_of_perm {members members' : List (String × Json)} (h : members.Perm members')
    (hnames : (members.map Prod.fst).Nodup) : Reordered (.object members) (.object members') := by
  have hbehind : ∀ front : List (String × Json),
      Reordered (.object (front ++ members)) (.object (front ++ members')) := by
    induction h with
    | nil => exact fun _ => .refl _
    | cons member _ ih =>
      intro front
      simpa using ih (List.nodup_cons.1 hnames).2 (front ++ [member])
    | swap member member' rest =>
      intro front
      have hne : member'.1 ≠ member.1 := fun heq => (List.nodup_cons.1 hnames).1 (by simp [heq])
      exact .swap hne _ _ front rest
    | trans h _ ih ih' =>
      intro front
      exact (ih hnames front).trans (ih' ((h.map Prod.fst).nodup hnames) front)
  exact hbehind []

/-! ## Readers -/

variable {α β : Type}

/-- Two readings that come to the same, or are complained of in the same words. -/
inductive Agree : Except Mismatch α → Except Mismatch α → Prop
  | ok (a : α) : Agree (.ok a) (.ok a)
  | error {cause cause' : Mismatch} (h : cause'.message = cause.message) :
      Agree (.error cause) (.error cause')

/-- A reader to which the order of members makes no difference. -/
def Orderless (read : Json → Except Mismatch α) : Prop :=
  ∀ value value', Reordered value value' → Agree (read value) (read value')

theorem Agree.refl : ∀ found : Except Mismatch α, Agree found found
  | .ok a => .ok a
  | .error _ => .error rfl

theorem Agree.bind {found found' : Except Mismatch α} {f f' : α → Except Mismatch β}
    (h : Agree found found') (hf : ∀ a, Agree (f a) (f' a)) :
    Agree (found >>= f) (found' >>= f') := by
  cases h with
  | ok a => exact hf a
  | error hmessage => exact .error hmessage

theorem Agree.map {found found' : Except Mismatch α} (h : Agree found found') (f : α → β) :
    Agree (found.map f) (found'.map f) := by
  cases h with
  | ok a => exact .ok (f a)
  | error hmessage => exact .error hmessage

theorem Agree.eq_ok_iff {found found' : Except Mismatch α} (h : Agree found found') {a : α} :
    found = .ok a ↔ found' = .ok a := by
  cases h with
  | ok => exact Iff.rfl
  | error => exact iff_of_false nofun nofun

theorem Agree.exists_error {found found' : Except Mismatch α} (h : Agree found found')
    {cause : Mismatch} (hcause : found = .error cause) :
    ∃ cause', found' = .error cause' ∧ cause'.message = cause.message := by
  cases h with
  | ok => cases hcause
  | error hmessage =>
    cases hcause
    exact ⟨_, rfl, hmessage⟩

/-- Values that are written in another way are of one kind. -/
theorem agree_wrongType {value value' : Json} (h : Reordered value value') (expected : String) :
    Agree (.error (.wrongType value expected) : Except Mismatch α)
      (.error (.wrongType value' expected)) := by
  obtain rfl | ⟨_, _, rfl, rfl⟩ | ⟨_, _, rfl, rfl⟩ := h.eq_or_nested <;> exact .error rfl

theorem orderless_asText : Orderless asText := by
  intro value value' h
  obtain rfl | ⟨_, _, rfl, rfl⟩ | ⟨_, _, rfl, rfl⟩ := h.eq_or_nested
  · exact .refl _
  · exact agree_wrongType h _
  · exact agree_wrongType h _

section Orderless

variable {read : Json → Except Mismatch α} (hread : Orderless read)

include hread

theorem Orderless.asOptional : Orderless (asOptional read) := by
  intro value value' h
  obtain rfl | ⟨_, _, rfl, rfl⟩ | ⟨_, _, rfl, rfl⟩ := h.eq_or_nested
  · exact .refl _
  · exact (hread _ _ h).map some
  · exact (hread _ _ h).map some

theorem Orderless.field? {members members' : List (String × Json)} {name : String}
    (h : Option.Rel Reordered (lookup? name members) (lookup? name members')) :
    Agree (field? members name read) (field? members' name read) := by
  unfold Json.field?
  generalize lookup? name members = found at h ⊢
  generalize lookup? name members' = found' at h ⊢
  cases h with
  | none => exact .ok none
  | some hvalue => exact (hread _ _ hvalue).map some

theorem Orderless.item {items items' : List Json} {index : Nat}
    (h : Option.Rel Reordered items[index]? items'[index]?) (record : String) (size : Nat) :
    Agree (item items record size index read) (item items' record size index read) := by
  unfold Json.item
  generalize items[index]? = found at h ⊢
  generalize items'[index]? = found' at h ⊢
  cases h with
  | none => exact .refl _
  | some hvalue => exact hread _ _ hvalue

end Orderless

theorem agree_noMoreItems {items items' : List Json} (h : items'.length = items.length)
    (size : Nat) : Agree (noMoreItems items size) (noMoreItems items' size) := by
  rw [noMoreItems, noMoreItems, h]
  exact .refl _

theorem orderless_asRecord {ofMembers : List (String × Json) → Except Mismatch α}
    {ofItems : List Json → Except Mismatch α} (record : String)
    (hmembers : ∀ members members',
      (∀ name, Option.Rel Reordered (lookup? name members) (lookup? name members')) →
        Agree (ofMembers members) (ofMembers members'))
    (hitems : ∀ items items' : List Json, items'.length = items.length →
      (∀ i : Nat, Option.Rel Reordered items[i]? items'[i]?) →
        Agree (ofItems items) (ofItems items')) :
    Orderless (asRecord record ofMembers ofItems) := by
  intro value value' h
  obtain rfl | ⟨members, _, rfl, rfl⟩ | ⟨items, _, rfl, rfl⟩ := h.eq_or_nested
  · exact .refl _
  · obtain ⟨members', heq, hlookup⟩ := h.exists_members
    cases heq
    exact hmembers _ _ hlookup
  · obtain ⟨items', heq, hlength, hplaces⟩ := h.exists_items
    cases heq
    exact hitems _ _ hlength hplaces

end Patchwise.Json

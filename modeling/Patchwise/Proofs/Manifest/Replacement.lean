import Mathlib.Data.List.TakeWhile
import Patchwise.Proofs.Manifest.Regular

/-!
# What a replacement replaces

The editor reads no JSON. It takes the first place at which the section is opened, the first closing
brace behind it, and in between the first place at which an entry of the package stands. Here it is
said without the editor's searches which places these are, for any text and any names.

## Main definitions

- `Manifest.IsKey`, `Manifest.IsOpening`, `Manifest.IsPair` — keys, openings of sections and entries
- `Manifest.Occurs`, `Manifest.IsFirst` — that something of a kind stands in a text, and where first
- `Manifest.StandsFirst` — the entry that is replaced
- `Manifest.Lacks` — that there is none

## Main results

- `Manifest.StandsFirst.find?_eq`, `Manifest.find?_eq_none_iff` — the editor finds that entry
- `Manifest.IsKey.eq_of_within` — no name is found within a longer one
- `Manifest.replacements_edit_first_entry` — a replacement edits one span of a text
-/

namespace Patchwise.Manifest

/-! ## Places in a text -/

/-- A key of a name: the name between quotation marks, and a colon between blanks. -/
def IsKey (name key : List Char) : Prop :=
  ∃ blanks blanks', key = '"' :: (name ++ '"' :: (blanks ++ ':' :: blanks')) ∧
    (∀ c ∈ blanks, Text.isBlank c = true) ∧ ∀ c ∈ blanks', Text.isBlank c = true

/-- What opens a section: its key and a brace. -/
def IsOpening (heading opening : List Char) : Prop :=
  ∃ key, IsKey heading key ∧ opening = key ++ ['\x7b']

/-- An entry as it is written: its key, and a value between quotation marks. -/
def IsPair (package pair : List Char) : Prop :=
  ∃ key spec, (IsKey package key ∧ '"' ∉ spec) ∧ pair = key ++ '"' :: (spec ++ ['"'])

/-- Something of a kind stands in a text. -/
def Occurs (kind : List Char → Prop) (cs : List Char) : Prop :=
  ∃ before found after, cs = before ++ (found ++ after) ∧ kind found

/-- The first place in a text at which something of a kind stands. -/
structure IsFirst (kind : List Char → Prop) (cs before found after : List Char) : Prop where
  text_eq : cs = before ++ (found ++ after)
  isKind : kind found
  le_length : ∀ before' found' after', cs = before' ++ (found' ++ after') → kind found' →
    before.length ≤ before'.length

/-- The first entry of a package in the first section of a heading, with the text around it. -/
inductive StandsFirst (heading package cs : List Char) : Entry → Prop
  | intro {before opening body close lead key spec rest : List Char}
      (hopening : IsFirst (IsOpening heading) cs before opening (body ++ '\x7d' :: close))
      (hbody : '\x7d' ∉ body) (hkey : IsKey package key) (hspec : '"' ∉ spec)
      (hpair : IsFirst (IsPair package) body lead (key ++ '"' :: (spec ++ ['"'])) rest) :
      StandsFirst heading package cs
        ⟨before ++ opening ++ lead ++ key, spec, rest ++ '\x7d' :: close⟩

/-- There is no such entry. -/
inductive Lacks (heading package cs : List Char) : Prop
  /-- No section of the heading is opened anywhere. -/
  | noSection (h : ¬ Occurs (IsOpening heading) cs)
  /-- The first one that is opened is not closed. -/
  | notClosed {before opening inside : List Char}
      (hopening : IsFirst (IsOpening heading) cs before opening inside) (h : '\x7d' ∉ inside)
  /-- No entry of the package stands in front of the closing brace. -/
  | noEntry {before opening body close : List Char}
      (hopening : IsFirst (IsOpening heading) cs before opening (body ++ '\x7d' :: close))
      (hbody : '\x7d' ∉ body) (h : ¬ Occurs (IsPair package) body)

/-! ## Searches -/

section Search

variable {α : Type} {read? : List Char → Option (α × List Char)} {cs : List Char}

theorem search_eq_none_iff :
    search read? cs = none ↔ ∀ before here, cs = before ++ here → read? here = none := by
  induction cs with
  | nil =>
    rw [search, Option.map_eq_none_iff]
    constructor
    · intro h before here hcs
      obtain ⟨-, rfl⟩ := List.append_eq_nil_iff.1 hcs.symm
      exact h
    · intro h
      exact h [] [] rfl
  | cons c cs ih =>
    constructor
    · intro h before here hcs
      rw [search] at h
      split at h
      next => cases h
      next hread =>
        cases before with
        | nil => rwa [show here = c :: cs from hcs.symm]
        | cons d before => exact ih.1 (Option.map_eq_none_iff.1 h) before here (List.cons.inj hcs).2
    · intro h
      have hrest : search read? cs = none :=
        ih.2 fun before here hcs => h (c :: before) here (by rw [hcs]; rfl)
      rw [search, h [] (c :: cs) rfl, hrest]
      rfl

/-- A search goes past no place at which something can be read. -/
theorem length_le_of_search {before rest : List Char} {found : α}
    (h : search read? cs = some (before, found, rest)) {before' here' : List Char}
    (hcs : cs = before' ++ here') (hread : (read? here').isSome) :
    before.length ≤ before'.length := by
  induction cs generalizing before before' with
  | nil =>
    obtain ⟨⟨found, rest⟩, -, heq⟩ := Option.map_eq_some_iff.1 h
    cases heq
    exact Nat.zero_le _
  | cons c cs ih =>
    rw [search] at h
    split at h
    next =>
      cases h
      exact Nat.zero_le _
    next hnone =>
      obtain ⟨⟨before, found, rest⟩, hsearch, heq⟩ := Option.map_eq_some_iff.1 h
      cases heq
      cases before' with
      | nil =>
        rw [show here' = c :: cs from hcs.symm, hnone] at hread
        cases hread
      | cons d before' =>
        have hle := ih hsearch (List.cons.inj hcs).2
        simp only [List.length_cons]
        omega

variable {kind : List Char → Prop} {p : α → Prop} {text : α → List Char}

/-- A search for things of a kind ends at the first one. -/
theorem search_eq_some_iff (hkind : ∀ found, kind found ↔ ∃ a, p a ∧ found = text a)
    (hread : ∀ here a rest, read? here = some (a, rest) ↔ p a ∧ here = text a ++ rest)
    {before rest : List Char} {a : α} :
    search read? cs = some (before, a, rest) ↔ p a ∧ IsFirst kind cs before (text a) rest := by
  have hsome : ∀ {found}, kind found → ∀ after, (read? (found ++ after)).isSome := by
    intro found hfound after
    obtain ⟨b, hb, rfl⟩ := (hkind found).1 hfound
    rw [(hread _ b after).2 ⟨hb, rfl⟩]
    rfl
  constructor
  · intro h
    obtain ⟨here, hcs, hhere⟩ := search_eq_some h
    obtain ⟨ha, rfl⟩ := (hread _ _ _).1 hhere
    exact ⟨ha, hcs, (hkind _).2 ⟨a, ha, rfl⟩, fun before' found' after' hcs' hfound' =>
      length_le_of_search h hcs' (hsome hfound' after')⟩
  · rintro ⟨ha, hcs, hfound, hfirst⟩
    obtain ⟨before', b, rest', hsearch⟩ := exists_search before (hsome hfound rest)
    rw [← hcs] at hsearch
    -- neither of the two places can be in front of the other one
    have hle := length_le_of_search hsearch hcs (hsome hfound rest)
    obtain ⟨here, hcs', hhere⟩ := search_eq_some hsearch
    obtain ⟨hb, rfl⟩ := (hread _ _ _).1 hhere
    have hge := hfirst before' _ rest' hcs' ((hkind _).2 ⟨b, hb, rfl⟩)
    have hsame := hcs.symm.trans hcs'
    obtain ⟨rfl, hsame⟩ := List.append_inj hsame (Nat.le_antisymm hge hle)
    have hread' := (hread _ a rest).2 ⟨ha, rfl⟩
    rw [List.append_cancel_left hsame, hhere] at hread'
    cases hread'
    exact hsearch

theorem search_eq_none_iff_not_occurs (hkind : ∀ found, kind found ↔ ∃ a, p a ∧ found = text a)
    (hread : ∀ here a rest, read? here = some (a, rest) ↔ p a ∧ here = text a ++ rest) :
    search read? cs = none ↔ ¬ Occurs kind cs := by
  rw [search_eq_none_iff]
  constructor
  · rintro h ⟨before, found, after, hcs, hfound⟩
    obtain ⟨a, ha, rfl⟩ := (hkind found).1 hfound
    have hnone := h before _ hcs
    rw [(hread _ a after).2 ⟨ha, rfl⟩] at hnone
    cases hnone
  · intro h before here hcs
    cases hhere : read? here with
    | none => rfl
    | some found =>
      obtain ⟨a, rest⟩ := found
      obtain ⟨ha, rfl⟩ := (hread _ _ _).1 hhere
      exact absurd ⟨before, _, rest, hcs, (hkind _).2 ⟨a, ha, rfl⟩⟩ h

end Search

/-! ## Openings and entries -/

theorem IsKey.of_key? {name here key rest : List Char} (h : key? name here = some (key, rest)) :
    IsKey name key := by
  obtain ⟨blanks, blanks', hkey, -, hblanks⟩ := exists_blanks_of_key? h
  exact ⟨blanks, blanks', hkey, hblanks⟩

theorem IsKey.key?_append {name key : List Char} (h : IsKey name key) {c : Char}
    (hc : Text.isBlank c = false) (rest : List Char) :
    key? name (key ++ c :: rest) = some (key, c :: rest) := by
  obtain ⟨blanks, blanks', rfl, hblanks, hblanks'⟩ := h
  have happend := Manifest.key?_append name rest hblanks hblanks' hc
  simpa using happend

theorem opening?_eq_some_iff {heading here opening rest : List Char} :
    opening? heading here = some (opening, rest) ↔
      IsOpening heading opening ∧ here = opening ++ rest := by
  constructor
  · intro h
    refine ⟨?_, opening?_eq_some h⟩
    simp only [opening?, Option.bind_eq_bind, Option.bind_eq_some_iff] at h
    obtain ⟨⟨key, more⟩, hkey, h⟩ := h
    have hisKey := IsKey.of_key? hkey
    split at h
    next heq =>
      cases heq
      cases h
      exact ⟨key, hisKey, rfl⟩
    next => cases h
  · rintro ⟨⟨key, hkey, rfl⟩, rfl⟩
    have hbrace := hkey.key?_append (c := '\x7b') (by decide) rest
    simp [opening?, hbrace]

theorem pair?_eq_some_iff {package here key spec rest : List Char} :
    pair? package here = some ((key, spec), rest) ↔
      (IsKey package key ∧ '"' ∉ spec) ∧ here = key ++ '"' :: (spec ++ ['"']) ++ rest := by
  constructor
  · intro h
    obtain ⟨hhere, hspec, -⟩ := pair?_eq_some h
    refine ⟨⟨?_, hspec⟩, by simpa using hhere⟩
    simp only [pair?, Option.bind_eq_bind, Option.bind_eq_some_iff] at h
    obtain ⟨⟨key', more⟩, hkey, h⟩ := h
    have hisKey := IsKey.of_key? hkey
    split at h
    next heq =>
      cases heq
      split at h
      next =>
        cases h
        exact hisKey
      next => cases h
    next => cases h
  · rintro ⟨⟨hkey, hspec⟩, rfl⟩
    have hne : ∀ c ∈ spec, (c != '"') = true := fun c hc =>
      bne_iff_ne.2 (ne_of_mem_of_not_mem hc hspec)
    have hquote := hkey.key?_append (c := '"') (by decide) (spec ++ '"' :: rest)
    simp [pair?, hquote, List.takeWhile_append_of_pos hne, List.dropWhile_append_of_pos hne]

theorem isOpening_iff {heading opening : List Char} :
    IsOpening heading opening ↔ ∃ found, IsOpening heading found ∧ opening = id found := by
  simp

theorem search_opening?_eq_some_iff {heading cs before opening rest : List Char} :
    search (opening? heading) cs = some (before, opening, rest) ↔
      IsFirst (IsOpening heading) cs before opening rest := by
  rw [search_eq_some_iff (fun _ => isOpening_iff) fun _ _ _ => opening?_eq_some_iff]
  exact and_iff_right_of_imp IsFirst.isKind

theorem search_opening?_eq_none_iff {heading cs : List Char} :
    search (opening? heading) cs = none ↔ ¬ Occurs (IsOpening heading) cs :=
  search_eq_none_iff_not_occurs (fun _ => isOpening_iff) fun _ _ _ => opening?_eq_some_iff

theorem isPair_iff {package pair : List Char} :
    IsPair package pair ↔ ∃ found : List Char × List Char,
      (IsKey package found.1 ∧ '"' ∉ found.2) ∧ pair = found.1 ++ '"' :: (found.2 ++ ['"']) := by
  rw [Prod.exists]
  rfl

theorem search_pair?_eq_some_iff {package body lead key spec rest : List Char} :
    search (pair? package) body = some (lead, (key, spec), rest) ↔
      (IsKey package key ∧ '"' ∉ spec) ∧
        IsFirst (IsPair package) body lead (key ++ '"' :: (spec ++ ['"'])) rest :=
  search_eq_some_iff (a := (key, spec)) (fun _ => isPair_iff) fun _ _ _ => pair?_eq_some_iff

theorem search_pair?_eq_none_iff {package body : List Char} :
    search (pair? package) body = none ↔ ¬ Occurs (IsPair package) body :=
  search_eq_none_iff_not_occurs (fun _ => isPair_iff) fun _ _ _ => pair?_eq_some_iff

/-! ## The entry that is replaced -/

section Find

variable {heading package cs : List Char}

theorem StandsFirst.find?_eq {e : Entry} (h : StandsFirst heading package cs e) :
    Entry.find? heading package cs = some e := by
  cases h with
  | intro hopening hbody hkey hspec hpair =>
    exact Entry.find?_of_searches (search_opening?_eq_some_iff.2 hopening) hbody
      (search_pair?_eq_some_iff.2 ⟨⟨hkey, hspec⟩, hpair⟩)

/-- What is behind the opening of a section is closed or not. -/
theorem brace_cases (inside : List Char) :
    '\x7d' ∉ inside ∨ ∃ body close, inside = body ++ '\x7d' :: close ∧ '\x7d' ∉ body := by
  by_cases hmem : '\x7d' ∈ inside
  · obtain ⟨body, close, hinside, hbody⟩ := List.eq_append_cons_of_mem hmem
    exact .inr ⟨body, close, hinside, hbody⟩
  · exact .inl hmem

theorem standsFirst_or_lacks (heading package cs : List Char) :
    (∃ e, StandsFirst heading package cs e) ∨ Lacks heading package cs := by
  cases hopening : search (opening? heading) cs with
  | none => exact .inr (.noSection (search_opening?_eq_none_iff.1 hopening))
  | some found =>
    obtain ⟨before, opening, inside⟩ := found
    have hfirst := search_opening?_eq_some_iff.1 hopening
    obtain hclose | ⟨body, close, rfl, hbody⟩ := brace_cases inside
    · exact .inr (.notClosed hfirst hclose)
    · cases hpair : search (pair? package) body with
      | none => exact .inr (.noEntry hfirst hbody (search_pair?_eq_none_iff.1 hpair))
      | some found =>
        obtain ⟨lead, ⟨key, spec⟩, rest⟩ := found
        obtain ⟨⟨hkey, hspec⟩, hpair⟩ := search_pair?_eq_some_iff.1 hpair
        exact .inl ⟨_, .intro hfirst hbody hkey hspec hpair⟩

theorem Lacks.find?_eq (h : Lacks heading package cs) : Entry.find? heading package cs = none := by
  cases h with
  | noSection h =>
    rw [Entry.find?, search_opening?_eq_none_iff.2 h]
    rfl
  | @notClosed before opening inside hopening hclose =>
    have hdrop : inside.dropWhile (· != '\x7d') = [] :=
      List.dropWhile_eq_nil_iff.2 fun c hc => bne_iff_ne.2 (ne_of_mem_of_not_mem hc hclose)
    rw [Entry.find?, search_opening?_eq_some_iff.2 hopening]
    simp only [Option.bind_eq_bind, Option.bind_some, hdrop, List.isEmpty_nil, if_true]
  | noEntry hopening hbody h =>
    rw [Entry.find?_of_opening (search_opening?_eq_some_iff.2 hopening) hbody,
      search_pair?_eq_none_iff.2 h]
    rfl

theorem find?_eq_none_iff :
    Entry.find? heading package cs = none ↔ Lacks heading package cs := by
  constructor
  · intro h
    obtain ⟨e, he⟩ | hlacks := standsFirst_or_lacks heading package cs
    · rw [he.find?_eq] at h
      cases h
    · exact hlacks
  · exact Lacks.find?_eq

end Find

/-! ## Names -/

/-- A quotation mark that is reached before a text ends stands in it. -/
theorem quote_mem_of_append_eq {cs longer after back : List Char}
    (hsame : cs ++ '"' :: after = longer ++ back) (h : cs.length < longer.length) :
    '"' ∈ longer := by
  have hget : longer[cs.length]? = some '"' := by
    rw [← List.getElem?_append_left h, ← hsame, List.getElem?_append_right (Nat.le_refl _),
      Nat.sub_self, List.getElem?_cons_zero]
  exact List.mem_of_getElem? hget

/-- A name that is found within the quotation marks around a name without any is that name: a part
of it, at its beginning or its end or in between, is not taken for it. -/
theorem IsKey.eq_of_within {name key before after front longer back : List Char}
    (hkey : IsKey name key)
    (hsame : before ++ (key ++ after) = front ++ '"' :: (longer ++ '"' :: back))
    (hquote : '"' ∉ longer) (hfront : front.length ≤ before.length)
    (hback : before.length + name.length ≤ front.length + longer.length) : name = longer := by
  obtain ⟨blanks, blanks', rfl, -, -⟩ := hkey
  obtain ⟨between, rfl⟩ : front <+: before :=
    List.prefix_of_prefix_length_le ⟨_, hsame.symm⟩ ⟨_, rfl⟩ hfront
  rw [List.append_assoc, List.append_cancel_left_eq] at hsame
  rw [List.length_append] at hback
  cases between with
  | nil =>
    -- the mark behind the name must not stand in the longer one
    have hname : name ++ '"' :: (blanks ++ ':' :: blanks' ++ after) = longer ++ '"' :: back := by
      simpa using hsame
    have hlength : name.length = longer.length := by
      by_contra hne
      exact hquote (quote_mem_of_append_eq hname (by simp only [List.length_nil] at hback; omega))
    exact (List.append_inj hname hlength).1
  | cons c between =>
    -- nor must the mark in front of it
    have hbetween : between ++ '"' :: (name ++ '"' :: (blanks ++ ':' :: blanks') ++ after) =
        longer ++ '"' :: back := by
      simpa using (List.cons.inj hsame).2
    refine absurd (quote_mem_of_append_eq hbetween ?_) hquote
    simp only [List.length_cons] at hback
    omega

/-- A replacement edits one span of a text. There is nothing to replace just if the section is not
opened, or not closed behind the first place where it is, or has no entry of the package in between;
otherwise the value of the first entry there is replaced and everything around it stays, and for a
version so does the operator. Names are found as they are written, and not within longer ones. -/
theorem replacements_edit_first_entry (heading package version spec cs : List Char) :
    (replaceVersion heading package version cs = none ↔ Lacks heading package cs) ∧
    (replaceSpec heading package spec cs = none ↔ Lacks heading package cs) ∧
    (¬ Lacks heading package cs → ∃ e, StandsFirst heading package cs e ∧
      (∀ e', StandsFirst heading package cs e' → e' = e) ∧
      ∃ pre post, pre = e.before ++ ['"'] ∧ post = '"' :: e.after ∧
        cs = pre ++ e.spec ++ post ∧ '"' ∉ e.spec ∧
        replaceVersion heading package version cs =
          some (pre ++ (Requirement.ofSpec e.spec).operator ++ version ++ post) ∧
        replaceSpec heading package spec cs = some (pre ++ spec ++ post)) ∧
    ∀ name key before after front longer back, IsKey name key →
      cs = before ++ (key ++ after) → cs = front ++ '"' :: (longer ++ '"' :: back) →
      '"' ∉ longer → front.length ≤ before.length →
      before.length + name.length ≤ front.length + longer.length → name = longer := by
  refine ⟨?_, ?_, ?_, ?_⟩
  · rw [replaceVersion, Option.map_eq_none_iff, find?_eq_none_iff]
  · rw [replaceSpec, Option.map_eq_none_iff, find?_eq_none_iff]
  · intro hlacks
    obtain ⟨e, he⟩ := (standsFirst_or_lacks heading package cs).resolve_right hlacks
    have hfind := he.find?_eq
    have hat := Entry.isAt_of_find? hfind
    have hunique : ∀ e', StandsFirst heading package cs e' → e' = e := by
      intro e' he'
      exact Option.some.inj (he'.find?_eq.symm.trans hfind)
    refine ⟨e, he, hunique, _, _, rfl, rfl, ?_, hat.quote_not_mem, ?_, ?_⟩
    · rw [← hat.text_eq]
      simp [Entry.text, Entry.withSpec]
    · simp [replaceVersion, hfind, Entry.withSpec]
    · simp [replaceSpec, hfind, Entry.withSpec]
  · intro name key before after front longer back hkey hcs hcs'
    exact hkey.eq_of_within (hcs.symm.trans hcs')

end Patchwise.Manifest

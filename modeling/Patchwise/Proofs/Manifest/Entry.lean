import Patchwise.Manifest.Entry

/-!
# Where entries are found

An entry that is found in a text is the text, taken apart: nothing of it is lost, the value ends at
the first quotation mark, and a colon stands in front of it.

## Main definitions

- `Manifest.Entry.IsAt` — an entry is a text, taken apart

## Main results

- `Manifest.Entry.isAt_of_find?` — an entry stands in the text that it is found in
-/

namespace Patchwise.Manifest

/-- A search ends where something can be read. -/
theorem search_eq_some {α : Type} {read? : List Char → Option (α × List Char)}
    {cs before rest : List Char} {found : α} (h : search read? cs = some (before, found, rest)) :
    ∃ here, cs = before ++ here ∧ read? here = some (found, rest) := by
  induction cs generalizing before with
  | nil =>
    obtain ⟨⟨found, rest⟩, hread, heq⟩ := Option.map_eq_some_iff.1 h
    cases heq
    exact ⟨[], rfl, hread⟩
  | cons c cs ih =>
    rw [search] at h
    split at h
    next hread =>
      cases h
      exact ⟨c :: cs, rfl, hread⟩
    next =>
      obtain ⟨⟨before, found, rest⟩, hsearch, heq⟩ := Option.map_eq_some_iff.1 h
      cases heq
      obtain ⟨here, rfl, hread⟩ := ih hsearch
      exact ⟨here, rfl, hread⟩

/-- A key is its name between quotation marks, and a colon between blanks. -/
theorem exists_blanks_of_key? {name cs key rest : List Char}
    (h : key? name cs = some (key, rest)) :
    ∃ blanks blanks', key = '"' :: (name ++ '"' :: (blanks ++ ':' :: blanks')) ∧ cs = key ++ rest ∧
      (∀ c ∈ blanks, Text.isBlank c = true) ∧ ∀ c ∈ blanks', Text.isBlank c = true := by
  simp only [key?] at h
  split at h
  next hprefix =>
    obtain ⟨more, rfl⟩ := List.isPrefixOf_iff_prefix.1 hprefix
    rw [List.drop_left] at h
    split at h
    next after hcolon =>
      cases h
      have hmore := List.takeWhile_append_dropWhile (p := Text.isBlank) (l := more)
      have hafter := List.takeWhile_append_dropWhile (p := Text.isBlank) (l := after)
      rw [hcolon] at hmore
      refine ⟨more.takeWhile Text.isBlank, after.takeWhile Text.isBlank, by simp, ?_,
        fun c hc => List.all_eq_true.1 List.all_takeWhile c hc,
        fun c hc => List.all_eq_true.1 List.all_takeWhile c hc⟩
      simp only [List.append_assoc, List.cons_append, hafter, hmore]
    next => cases h
  next => cases h

/-- A key ends with a colon and the blanks behind it. -/
theorem key?_eq_some {name cs key rest : List Char} (h : key? name cs = some (key, rest)) :
    cs = key ++ rest ∧
      ∃ front blanks, key = front ++ ':' :: blanks ∧ ∀ c ∈ blanks, Text.isBlank c = true := by
  obtain ⟨blanks, blanks', rfl, hcs, -, hblanks'⟩ := exists_blanks_of_key? h
  exact ⟨hcs, '"' :: (name ++ '"' :: blanks), blanks', by simp, hblanks'⟩

theorem opening?_eq_some {heading cs opening rest : List Char}
    (h : opening? heading cs = some (opening, rest)) : cs = opening ++ rest := by
  simp only [opening?, Option.bind_eq_bind, Option.bind_eq_some_iff] at h
  obtain ⟨⟨key, more⟩, hkey, h⟩ := h
  obtain ⟨rfl, -⟩ := key?_eq_some hkey
  split at h
  next heq =>
    cases heq
    cases h
    simp
  next => cases h

theorem pair?_eq_some {package cs key spec rest : List Char}
    (h : pair? package cs = some ((key, spec), rest)) :
    cs = key ++ '"' :: spec ++ '"' :: rest ∧ '"' ∉ spec ∧
      ∃ front blanks, key = front ++ ':' :: blanks ∧ ∀ c ∈ blanks, Text.isBlank c = true := by
  simp only [pair?, Option.bind_eq_bind, Option.bind_eq_some_iff] at h
  obtain ⟨⟨key, more⟩, hkey, h⟩ := h
  obtain ⟨rfl, hcolon⟩ := key?_eq_some hkey
  split at h
  next value heq =>
    cases heq
    split at h
    next after hafter =>
      cases h
      refine ⟨?_, ?_, hcolon⟩
      · have hvalue := List.takeWhile_append_dropWhile (p := (· != '"')) (l := value)
        rw [hafter] at hvalue
        simp only [List.append_assoc, List.cons_append, hvalue]
      · intro hmem
        have hne := List.all_eq_true.1 List.all_takeWhile _ hmem
        simp at hne
    next => cases h
  next => cases h

namespace Entry

/-- An entry stands in a text if it is that text, taken apart, with a value that holds no quotation
mark and a colon in front of it. -/
structure IsAt (e : Entry) (cs : List Char) : Prop where
  text_eq : e.text = cs
  quote_not_mem : '"' ∉ e.spec
  colon : ∃ front blanks, e.before = front ++ ':' :: blanks ∧ ∀ c ∈ blanks, Text.isBlank c = true

/-- An entry stands in the text that it is found in. -/
theorem isAt_of_find? {heading package cs : List Char} {e : Entry}
    (h : find? heading package cs = some e) : e.IsAt cs := by
  simp only [find?, Option.bind_eq_bind, Option.bind_eq_some_iff] at h
  obtain ⟨⟨front, opening, inside⟩, hopening, h⟩ := h
  obtain ⟨here, rfl, hhere⟩ := search_eq_some hopening
  obtain rfl := opening?_eq_some hhere
  split at h
  next => cases h
  next =>
    obtain ⟨⟨lead, ⟨key, spec⟩, rest⟩, hpair, h⟩ := Option.bind_eq_some_iff.1 h
    cases h
    obtain ⟨body, hbody, hread⟩ := search_eq_some hpair
    obtain ⟨rfl, hspec, keyFront, blanks, rfl, hblanks⟩ := pair?_eq_some hread
    refine ⟨?_, hspec, front ++ opening ++ lead ++ keyFront, blanks, ?_, hblanks⟩
    · have hinside := List.takeWhile_append_dropWhile (p := (· != '\x7d')) (l := inside)
      rw [hbody] at hinside
      simp only [text, withSpec, List.append_assoc, List.cons_append] at hinside ⊢
      rw [hinside]
    · simp only [List.append_assoc]

end Entry

end Patchwise.Manifest

import Mathlib.Data.List.DropRight
import Patchwise.Proofs.Text.Lines

/-!
# Words and the white space between them

The words of a text hold no white space. Joined by single spaces they are the text again, if there
is no white space around it, except that each run of white space has become one space.

## Main definitions

- `Text.collapse` — a text whose runs of white space are single spaces

## Main results

- `Text.forall_mem_words` — what a word is made of
- `Text.intercalate_words` — the words of a trimmed text, joined by spaces
- `Text.intercalate_wordsOf` — the same of strings
-/

namespace Patchwise.Text

/-- A text in which each run of white space has become one space. The space stands for the run's
last member, so a blank with another one behind it is left out. -/
def collapse : List Char → List Char
  | [] => []
  | c :: rest =>
    if isBlank c then
      if rest.head?.any isBlank then collapse rest else ' ' :: collapse rest
    else c :: collapse rest

def collapsed (s : String) : String :=
  .ofList (collapse s.toList)

/-! ## What words are made of -/

theorem forall_mem_words {cs : List Char} :
    ∀ word ∈ words cs, word ≠ [] ∧ ∀ c ∈ word, isBlank c = false := by
  intro word hword
  obtain ⟨hsplit, hsome⟩ := List.mem_filter.1 hword
  exact ⟨by simpa using hsome, not_of_mem_split hsplit⟩

/-! ## Reading words character by character -/

theorem words_cons_of_blank {c : Char} (h : isBlank c = true) (rest : List Char) :
    words (c :: rest) = words rest := by
  simp [words, split, h]

theorem words_singleton {c : Char} (h : isBlank c = false) : words [c] = [[c]] := by
  simp [words, split, h]

/-- A character in front of a blank is a word by itself. -/
theorem words_cons_cons_of_blank {c d : Char} (hc : isBlank c = false) (hd : isBlank d = true)
    (rest : List Char) : words (c :: d :: rest) = [c] :: words (d :: rest) := by
  simp [words, split, hc, hd]

/-- A character in front of a word becomes the word's first. -/
theorem exists_words_cons_cons {c d : Char} (hc : isBlank c = false) (hd : isBlank d = false)
    (rest : List Char) : ∃ word others, words (d :: rest) = word :: others ∧
      words (c :: d :: rest) = (c :: word) :: others := by
  cases hrest : split isBlank rest with
  | nil => exact absurd hrest (split_ne_nil isBlank rest)
  | cons first others =>
    exact ⟨d :: first, others.filter (!·.isEmpty), by simp [words, split, hc, hd, hrest]⟩

theorem words_ne_nil {cs : List Char} (h : ∃ c ∈ cs, isBlank c = false) : words cs ≠ [] := by
  induction cs with
  | nil => simp at h
  | cons c rest ih =>
    cases hc : isBlank c with
    | true =>
      rw [words_cons_of_blank hc]
      apply ih
      simpa [hc] using h
    | false =>
      cases rest with
      | nil => simp [words_singleton hc]
      | cons d rest =>
        cases hd : isBlank d with
        | true => simp [words_cons_cons_of_blank hc hd]
        | false =>
          obtain ⟨word, others, -, hwords⟩ := exists_words_cons_cons hc hd rest
          simp [hwords]

/-! ## Joining words -/

/-- The words of a text that does not end in white space, joined by spaces, are the text with its
runs collapsed, but for a run at the front. -/
theorem collapse_eq {cs : List Char} (hlast : ∀ c ∈ cs.getLast?, isBlank c = false) :
    collapse cs = (if cs.head?.any isBlank then [' '] else []) ++ [' '].intercalate (words cs) := by
  induction cs with
  | nil => rfl
  | cons c rest ih =>
    cases rest with
    | nil =>
      have hc : isBlank c = false := hlast c rfl
      simp [collapse, hc, words_singleton hc]
    | cons d rest =>
      have hrest := ih (by simpa using hlast)
      have hsome : words (d :: rest) ≠ [] := by
        apply words_ne_nil
        obtain ⟨e, he⟩ := Option.isSome_iff_exists.1 (List.getLast?_isSome.2 (List.cons_ne_nil d rest))
        exact ⟨e, List.mem_of_getLast? he, hlast e (by simpa using he)⟩
      rw [collapse]
      cases hc : isBlank c <;> cases hd : isBlank d
      case true.true => simp [hrest, hc, hd, words_cons_of_blank hc]
      case true.false => simp [hrest, hc, hd, words_cons_of_blank hc]
      case false.true =>
        obtain ⟨word, others, hwords⟩ := List.exists_cons_of_ne_nil hsome
        simp [hrest, hc, hd, words_cons_cons_of_blank hc hd, hwords, List.intercalate_cons_cons]
      case false.false =>
        obtain ⟨word, others, hwords, hmore⟩ := exists_words_cons_cons hc hd rest
        rw [hwords] at hrest
        cases others <;> simp [hrest, hc, hd, hmore, List.intercalate_cons_cons]

/-! ## Trimmed texts -/

theorem not_blank_of_mem_head?_trimStart (cs : List Char) :
    ∀ c ∈ (trimStart cs).head?, isBlank c = false :=
  List.not_of_mem_head?_dropWhile

theorem not_blank_of_mem_getLast?_trim {cs : List Char} :
    ∀ c ∈ (trim cs).getLast?, isBlank c = false := by
  rw [trim, trimEnd, List.getLast?_reverse]
  exact not_blank_of_mem_head?_trimStart _

/-- What is left of a text at its end is a part of it from its beginning. -/
theorem trimEnd_isPrefix (cs : List Char) : trimEnd cs <+: cs :=
  List.rdropWhile_prefix isBlank cs

theorem not_blank_of_mem_head?_trim {cs : List Char} :
    ∀ c ∈ (trim cs).head?, isBlank c = false := by
  intro c hc
  apply not_blank_of_mem_head?_trimStart cs
  obtain ⟨rest, hrest⟩ := trimEnd_isPrefix (trimStart cs)
  rw [← hrest, List.head?_append, ← trim, Option.mem_def.1 hc]
  rfl

theorem intercalate_words (cs : List Char) :
    [' '].intercalate (words (trim cs)) = collapse (trim cs) := by
  have hfront : (trim cs).head?.any isBlank = false := by
    cases hhead : (trim cs).head? with
    | none => rfl
    | some c => exact not_blank_of_mem_head?_trim c hhead
  rw [collapse_eq not_blank_of_mem_getLast?_trim, hfront]
  rfl

/-- Only white space is trimmed away altogether. -/
theorem trim_eq_nil_iff {cs : List Char} : trim cs = [] ↔ ∀ c ∈ cs, isBlank c = true := by
  refine ⟨fun h => ?_, trim_of_blank⟩
  have hblank : ∀ c ∈ trimStart cs, isBlank c = true := by
    intro c hc
    rw [trim, trimEnd, List.reverse_eq_nil_iff, trimStart_eq_nil_iff] at h
    exact h c (List.mem_reverse.2 hc)
  cases hstart : trimStart cs with
  | nil => exact trimStart_eq_nil_iff.1 hstart
  | cons d rest =>
    have hd : isBlank d = false := not_blank_of_mem_head?_trimStart cs d (by simp [hstart])
    rw [hblank d (by simp [hstart])] at hd
    cases hd

theorem words_trim_ne_nil {cs : List Char} (h : ¬ ∀ c ∈ cs, isBlank c = true) :
    words (trim cs) ≠ [] := by
  have hsome : trim cs ≠ [] := fun hnil => h (trim_eq_nil_iff.1 hnil)
  have hlast : (trim cs).getLast hsome ∈ (trim cs).getLast? := List.getLast?_eq_some_getLast hsome
  exact words_ne_nil ⟨_, List.getLast_mem hsome, not_blank_of_mem_getLast?_trim _ hlast⟩

/-! ## On strings -/

theorem forall_mem_wordsOf {s : String} :
    ∀ word ∈ wordsOf s, word ≠ "" ∧ ∀ c ∈ word.toList, isBlank c = false := by
  intro word hword
  obtain ⟨cs, hcs, rfl⟩ := List.mem_map.1 hword
  rw [String.toList_ofList, ne_eq, String.ofList_eq_empty_iff]
  exact forall_mem_words cs hcs

theorem wordsOf_trimmed_ne_nil {s : String} (h : allBlank s = false) :
    wordsOf (trimmed s) ≠ [] := by
  rw [wordsOf, trimmed, String.toList_ofList, ne_eq, List.map_eq_nil_iff]
  apply words_trim_ne_nil
  simpa [allBlank] using h

theorem intercalate_wordsOf (s : String) :
    " ".intercalate (wordsOf (trimmed s)) = collapsed (trimmed s) := by
  have hwords : (wordsOf (trimmed s)).map String.toList = words (trim s.toList) := by
    simp [wordsOf, trimmed, Function.comp_def]
  have hspace : " ".toList = [' '] := by decide
  apply String.toList_inj.1
  rw [String.toList_intercalate, hwords, hspace, intercalate_words, collapsed,
    String.toList_ofList, trimmed, String.toList_ofList]

example : collapsed "yarn \t test" = "yarn test" := by
  decide +kernel

end Patchwise.Text

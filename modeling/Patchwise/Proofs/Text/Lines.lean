import Mathlib.Data.List.TakeWhile
import Patchwise.Proofs.Requirement
import Patchwise.Proofs.Text.Pieces

/-!
# Lines of a text

A text is made of its lines, each with one of the two line endings behind it, and it may be taken
apart in other ways that differ in blanks only. What is looked for line by line, where blanks at
either end of a line do not count, does not depend on the way.

## Main definitions

- `Text.IsMadeOf` — a text that is made of some lines

## Main results

- `Text.trim_append` — blanks around a text are trimmed away
- `Text.isMadeOf_lines` — a text is made of its lines
- `Text.IsMadeOf.findSome?_lines` — what is found among the lines of a text
-/

namespace Patchwise.Text

/-! ## Blanks -/

theorem trimStart_eq_nil_iff {cs : List Char} : trimStart cs = [] ↔ ∀ c ∈ cs, isBlank c = true :=
  List.dropWhile_eq_nil_iff

theorem trimEnd_append {blanks : List Char} (h : ∀ c ∈ blanks, isBlank c = true) (cs : List Char) :
    trimEnd (cs ++ blanks) = trimEnd cs := by
  have hreverse : ∀ c ∈ blanks.reverse, isBlank c = true := by simpa using h
  rw [trimEnd, List.reverse_append, trimStart_append hreverse, trimEnd]

theorem trim_of_blank {cs : List Char} (h : ∀ c ∈ cs, isBlank c = true) : trim cs = [] := by
  rw [trim, trimStart_eq_nil_iff.2 h]
  rfl

theorem trim_append {left right : List Char} (hleft : ∀ c ∈ left, isBlank c = true)
    (hright : ∀ c ∈ right, isBlank c = true) (cs : List Char) :
    trim (left ++ cs ++ right) = trim cs := by
  rw [List.append_assoc, trim, trimStart_append hleft]
  by_cases hblank : ∀ c ∈ cs, isBlank c = true
  · have hall : ∀ c ∈ cs ++ right, isBlank c = true := List.forall_mem_append.2 ⟨hblank, hright⟩
    rw [trim_of_blank hblank, ← trim, trim_of_blank hall]
  · have hsome : (trimStart cs).isEmpty = false := by
      rw [List.isEmpty_eq_false_iff, ne_eq, trimStart_eq_nil_iff]
      exact hblank
    have hstart : trimStart (cs ++ right) = trimStart cs ++ right := by
      rw [trimStart, List.dropWhile_append, ← trimStart, hsome]
      rfl
    rw [hstart, trimEnd_append hright, trim]

/-! ## Lines -/

/-- A text is made of some lines: each is ended by a line feed, with or without a carriage return in
front of it, and only the last one may go without. -/
inductive IsMadeOf : List (List Char) → List Char → Prop
  | nil : IsMadeOf [] []
  | last {line : List Char} (h : '\n' ∉ line) : IsMadeOf [line] line
  | lineFeed {line : List Char} {lines : List (List Char)} {cs : List Char} (h : '\n' ∉ line)
      (hrest : IsMadeOf lines cs) : IsMadeOf (line :: lines) (line ++ '\n' :: cs)
  | returnLineFeed {line : List Char} {lines : List (List Char)} {cs : List Char} (h : '\n' ∉ line)
      (hrest : IsMadeOf lines cs) : IsMadeOf (line :: lines) (line ++ '\r' :: '\n' :: cs)

theorem lines_append {line : List Char} (h : '\n' ∉ line) (cs : List Char) :
    lines (line ++ '\n' :: cs) = dropReturn line :: lines cs := by
  have hline : ∀ c ∈ line, (c == '\n') = false := fun c hc =>
    beq_false_of_ne (ne_of_mem_of_not_mem hc h)
  rw [lines, split_append hline rfl, lines]
  cases hsplit : split (· == '\n') cs with
  | nil => exact absurd hsplit (split_ne_nil _ cs)
  | cons piece pieces => rfl

theorem lines_of_not_mem {line : List Char} (h : '\n' ∉ line) :
    lines line = if line.isEmpty then [] else [line] := by
  have hline : ∀ c ∈ line, (c == '\n') = false := fun c hc =>
    beq_false_of_ne (ne_of_mem_of_not_mem hc h)
  rw [lines, split_eq_singleton hline]
  rfl

/-- A carriage return at the end of a line belongs to the line feed behind it. -/
theorem dropReturn_cases (line : List Char) :
    dropReturn line = line ∨ ∃ front, line = front ++ ['\r'] ∧ dropReturn line = front := by
  unfold dropReturn
  split
  next h =>
    obtain ⟨front, rfl⟩ := List.getLast?_eq_some_iff.1 h
    exact .inr ⟨front, rfl, List.dropLast_concat⟩
  next => exact .inl rfl

theorem trim_return (line : List Char) : trim (line ++ ['\r']) = trim line :=
  trim_append (List.forall_mem_nil _) (List.forall_mem_singleton.2 rfl) line

theorem trim_dropReturn (line : List Char) : trim (dropReturn line) = trim line := by
  obtain h | ⟨front, rfl, h⟩ := dropReturn_cases line
  · rw [h]
  · rw [h, trim_return]

theorem isMadeOf_lines (cs : List Char) : IsMadeOf (lines cs) cs := by
  induction hlength : cs.length using Nat.strongRecOn generalizing cs with
  | ind n ih =>
    by_cases hfeed : '\n' ∈ cs
    · obtain ⟨line, rest, rfl, hline⟩ := List.eq_append_cons_of_mem hfeed
      have hrest : IsMadeOf (lines rest) rest := by
        refine ih rest.length ?_ rest rfl
        simp only [List.length_append, List.length_cons] at hlength
        omega
      rw [lines_append hline]
      obtain h | ⟨front, rfl, h⟩ := dropReturn_cases line
      · rw [h]
        exact .lineFeed hline hrest
      · rw [h, List.append_assoc]
        exact .returnLineFeed (fun hmem => hline (List.mem_append_left _ hmem)) hrest
    · rw [lines_of_not_mem hfeed]
      cases cs with
      | nil => exact .nil
      | cons c cs => exact .last hfeed

/-- What is found among the lines of a text is found among any lines that it is made of, if blanks
at their ends do not count and nothing is found in an empty line. -/
theorem IsMadeOf.findSome?_lines {α : Type} {ls : List (List Char)} {cs : List Char}
    (h : IsMadeOf ls cs) {find? : List Char → Option α}
    (htrim : ∀ line line', trim line = trim line' → find? line = find? line')
    (hempty : find? [] = none) : (lines cs).findSome? find? = ls.findSome? find? := by
  induction h with
  | nil => rfl
  | @last line hline =>
    rw [lines_of_not_mem hline]
    cases line with
    | nil => simp [hempty]
    | cons => rfl
  | @lineFeed line lines cs hline _ ih =>
    rw [lines_append hline, List.findSome?_cons, List.findSome?_cons, ih,
      htrim _ _ (trim_dropReturn line)]
  | @returnLineFeed line lines cs hline _ ih =>
    have hreturn : '\n' ∉ line ++ ['\r'] := by simpa using hline
    have hsplit : line ++ '\r' :: '\n' :: cs = (line ++ ['\r']) ++ '\n' :: cs := by simp
    rw [hsplit, lines_append hreturn, List.findSome?_cons, List.findSome?_cons, ih,
      htrim _ _ ((trim_dropReturn _).trans (trim_return line))]

end Patchwise.Text

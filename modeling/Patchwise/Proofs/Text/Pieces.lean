import Patchwise.Text

/-!
# Pieces between separators

A text is cut at its separators, so the piece in front of the first one does not depend on what is
behind it, and there is one piece more than there are separators.

## Main results

- `Text.split_append` — the first piece, and the others
- `Text.split_append_cons` — the pieces on both sides of a separator
- `Text.length_split` — how many pieces there are
-/

namespace Patchwise

/-- What is dropped from the front of a list ends where the list begins with something else. -/
theorem List.not_of_mem_head?_dropWhile {α : Type} {p : α → Bool} {l : List α} :
    ∀ a ∈ (l.dropWhile p).head?, p a = false := by
  intro a ha
  have h := List.head?_dropWhile_not p l
  rw [Option.mem_def.1 ha] at h
  exact h

namespace Text

variable {isSeparator : Char → Bool}

/-- A text without separators is one piece. -/
theorem split_eq_singleton {cs : List Char} (h : ∀ c ∈ cs, isSeparator c = false) :
    split isSeparator cs = [cs] := by
  induction cs with
  | nil => rfl
  | cons c cs ih =>
    obtain ⟨hc, hcs⟩ := List.forall_mem_cons.1 h
    rw [split, if_neg (by simp [hc]), ih hcs]

theorem split_append {piece : List Char} (hpiece : ∀ c ∈ piece, isSeparator c = false) {mark : Char}
    (hmark : isSeparator mark = true) (rest : List Char) :
    split isSeparator (piece ++ mark :: rest) = piece :: split isSeparator rest := by
  induction piece with
  | nil => rw [List.nil_append, split, if_pos hmark]
  | cons c piece ih =>
    obtain ⟨hc, hpiece⟩ := List.forall_mem_cons.1 hpiece
    rw [List.cons_append, split, if_neg (by simp [hc]), ih hpiece]

/-- Texts on both sides of a separator are cut apart from each other. -/
theorem split_append_cons {mark : Char} (hmark : isSeparator mark = true) (front rest : List Char) :
    split isSeparator (front ++ mark :: rest) =
      split isSeparator front ++ split isSeparator rest := by
  induction front with
  | nil =>
    have hempty : split isSeparator [] = [[]] := rfl
    rw [List.nil_append, hempty, split, if_pos hmark, List.singleton_append]
  | cons c front ih =>
    rw [List.cons_append, split, split, ih]
    by_cases hc : isSeparator c = true
    · rw [if_pos hc, if_pos hc, List.cons_append]
    · rw [if_neg hc, if_neg hc]
      cases hfront : split isSeparator front with
      | nil => exact absurd hfront (split_ne_nil isSeparator front)
      | cons piece pieces => rfl

/-- No piece holds a separator. -/
theorem not_of_mem_split {cs piece : List Char} (h : piece ∈ split isSeparator cs) :
    ∀ c ∈ piece, isSeparator c = false := by
  induction cs generalizing piece with
  | nil =>
    obtain rfl := List.mem_singleton.1 h
    simp
  | cons d rest ih =>
    rw [split] at h
    by_cases hd : isSeparator d = true
    · rw [if_pos hd] at h
      obtain rfl | h := List.mem_cons.1 h
      · simp
      · exact ih h
    · rw [if_neg hd] at h
      cases hrest : split isSeparator rest with
      | nil => exact absurd hrest (split_ne_nil isSeparator rest)
      | cons first others =>
        rw [hrest] at h ih
        obtain rfl | h := List.mem_cons.1 h
        · have hfirst := ih (List.mem_cons_self (a := first))
          intro c hc
          obtain rfl | hc := List.mem_cons.1 hc
          · exact Bool.eq_false_iff.2 hd
          · exact hfirst c hc
        · exact ih (List.mem_cons_of_mem _ h)

theorem length_split (cs : List Char) :
    (split isSeparator cs).length = cs.countP isSeparator + 1 := by
  induction cs with
  | nil => rfl
  | cons c cs ih =>
    rw [split]
    by_cases hc : isSeparator c = true
    · rw [if_pos hc, List.countP_cons_of_pos hc, List.length_cons, ih]
    · rw [if_neg hc, List.countP_cons_of_neg hc, ← ih]
      cases hsplit : split isSeparator cs with
      | nil => exact absurd hsplit (split_ne_nil isSeparator cs)
      | cons piece pieces => rfl

end Text

end Patchwise

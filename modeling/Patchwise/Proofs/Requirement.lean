import Patchwise.Requirement

/-!
# Operators in front of versions

A requirement is taken apart at its longest operator. A version that begins like none can be put
behind any operator and is found there again.

## Main definitions

- `Requirement.IsVersion` — a version that can be told from an operator in front of it

## Main results

- `Requirement.IsVersion.ofSpec_append` — an operator and a version put together are told apart
-/

namespace Patchwise

/-! ## Blanks around a text -/

namespace Text

theorem trimStart_cons {c : Char} (h : isBlank c = false) (cs : List Char) :
    trimStart (c :: cs) = c :: cs :=
  List.dropWhile_cons_of_neg (by simp [h])

theorem trimStart_append {blanks : List Char} (h : ∀ c ∈ blanks, isBlank c = true)
    (cs : List Char) : trimStart (blanks ++ cs) = trimStart cs :=
  List.dropWhile_append_of_pos h

theorem trimEnd_concat {c : Char} (h : isBlank c = false) (cs : List Char) :
    trimEnd (cs ++ [c]) = cs ++ [c] := by
  rw [trimEnd, List.reverse_append, List.reverse_singleton, List.singleton_append,
    trimStart_cons h]
  simp

end Text

namespace Requirement

/-- A version that can be told from an operator in front of it. -/
structure IsVersion (version : List Char) : Prop where
  /-- It begins with a character that is no blank and stands in no operator, like every letter and
  every digit. -/
  starts : ∃ c rest, version = c :: rest ∧ Text.isBlank c = false ∧ c ∉ operators.flatten
  lineFeed_not_mem : '\n' ∉ version
  /-- It does not end with a blank. -/
  ends : ∃ rest c, version = rest ++ [c] ∧ Text.isBlank c = false

theorem takeOperator_mem (text : List Char) : (takeOperator text).1 ∈ [] :: operators := by
  rw [takeOperator]
  split
  next hfind => exact List.mem_cons_of_mem _ (List.mem_of_find?_eq_some hfind)
  next => exact List.mem_cons_self

/-- A character that stands in no operator makes none longer. -/
theorem takeOperator_append {operator : List Char} (hoperator : operator ∈ [] :: operators)
    {c : Char} (hc : c ∉ operators.flatten) (rest : List Char) :
    takeOperator (operator ++ c :: rest) = (operator, c :: rest) := by
  have hne : ∀ mark ∈ operators.flatten, (mark == c) = false := fun mark hmark =>
    beq_false_of_ne (ne_of_mem_of_not_mem hmark hc)
  have hmarks : ('^' == c) = false ∧ ('~' == c) = false ∧ ('>' == c) = false ∧
      ('<' == c) = false ∧ ('=' == c) = false :=
    ⟨hne _ (by decide), hne _ (by decide), hne _ (by decide), hne _ (by decide), hne _ (by decide)⟩
  simp only [operators, List.mem_cons, List.not_mem_nil, or_false] at hoperator
  obtain rfl | rfl | rfl | rfl | rfl | rfl | rfl | rfl := hoperator <;>
    simp [takeOperator, operators, List.find?, List.isPrefixOf, hmarks]

theorem not_mem_operators_of_isBlank {c : Char} (h : Text.isBlank c = true) :
    c ∉ operators.flatten := by
  have hall : operators.flatten.all (!Text.isBlank ·) = true := by decide
  intro hmem
  simpa [h] using List.all_eq_true.1 hall c hmem

section Version

variable {version : List Char} (h : IsVersion version)

include h

theorem IsVersion.trimStart_append {blanks : List Char}
    (hblanks : ∀ c ∈ blanks, Text.isBlank c = true) :
    Text.trimStart (blanks ++ version) = version := by
  obtain ⟨first, rest, rfl, hfirst, -⟩ := h.starts
  rw [Text.trimStart_append hblanks, Text.trimStart_cons hfirst]

theorem IsVersion.trimEnd_append (text : List Char) :
    Text.trimEnd (text ++ version) = text ++ version := by
  obtain ⟨front, last, rfl, hlast⟩ := h.ends
  rw [← List.append_assoc, Text.trimEnd_concat hlast]

theorem IsVersion.takeOperator_append {operator blanks : List Char}
    (hoperator : operator ∈ [] :: operators) (hblanks : ∀ c ∈ blanks, Text.isBlank c = true) :
    takeOperator (operator ++ (blanks ++ version)) = (operator, blanks ++ version) := by
  cases blanks with
  | nil =>
    obtain ⟨first, rest, rfl, -, hfirst⟩ := h.starts
    exact Requirement.takeOperator_append hoperator hfirst rest
  | cons c blanks =>
    have hc := not_mem_operators_of_isBlank (hblanks c List.mem_cons_self)
    exact Requirement.takeOperator_append hoperator hc (blanks ++ version)

/-- A version is found again behind an operator, with or without blanks in between. -/
theorem IsVersion.ofSpec_append {operator blanks : List Char}
    (hoperator : operator ∈ [] :: operators) (hblanks : ∀ c ∈ blanks, Text.isBlank c = true) :
    ofSpec (operator ++ (blanks ++ version)) = ⟨operator, version⟩ := by
  -- blanks are trimmed away if there is no operator in front of them
  obtain ⟨between, hbetween, htrim⟩ : ∃ between, (∀ c ∈ between, Text.isBlank c = true) ∧
      Text.trim (operator ++ (blanks ++ version)) = operator ++ (between ++ version) := by
    cases operator with
    | nil =>
      refine ⟨[], by simp, ?_⟩
      rw [Text.trim, List.nil_append, h.trimStart_append hblanks]
      exact h.trimEnd_append []
    | cons c operator =>
      have hc : Text.isBlank c = false := by
        have hall : ([] :: operators).all (·.all (!Text.isBlank ·)) = true := by decide
        have hoperator := List.all_eq_true.1 (List.all_eq_true.1 hall _ hoperator)
        simpa using hoperator c List.mem_cons_self
      refine ⟨blanks, hblanks, ?_⟩
      rw [Text.trim, List.cons_append, Text.trimStart_cons hc, ← List.cons_append,
        ← List.append_assoc, h.trimEnd_append]
  have hlines : version.contains '\n' = false := by
    simpa using h.lineFeed_not_mem
  simp only [ofSpec, htrim, h.takeOperator_append hoperator hbetween, h.trimStart_append hbetween,
    hlines, Bool.false_eq_true, if_false]

end Version

end Requirement

end Patchwise

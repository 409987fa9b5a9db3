import Mathlib.Logic.ExistsUnique
import Patchwise.Proofs.Requirement
import Patchwise.Proofs.Text.Words

/-!
# How specifications are read

A specification without the white space around it can be cut in one way into the longest operator
that it begins with, the white space behind the operator, and the rest, which is the version if it
is one line. The same is found by trying all readings in turn, the operators in their order and as
much white space as there is before less of it, and taking the first whose version is one line.

## Main definitions

- `Requirement.Cut` — an operator, the white space behind it and the rest
- `Requirement.readings` — the readings of a text, in the order in which they are tried
- `Requirement.TakesApart` — how specifications are taken apart

## Main results

- `Requirement.existsUnique_cut` — a text can be cut in one way
- `Requirement.ofSpec_eq_getD_readings` — the first reading is the one by the longest operator
- `Requirement.ofSpec_takesApart` — every specification is taken apart so
-/

namespace Patchwise

namespace Text

theorem mem_trimStart_append {c : Char} {cs : List Char} (h : c ∈ trimStart cs)
    (front : List Char) : c ∈ trimStart (front ++ cs) := by
  induction front with
  | nil => exact h
  | cons d front ih =>
    rw [List.cons_append, trimStart, List.dropWhile_cons]
    split
    · exact ih
    · exact List.mem_cons_of_mem _ (List.mem_append_right _ ((List.dropWhile_suffix _).subset h))

end Text

namespace Requirement

variable {text spec : List Char}

/-! ## Cutting a text -/

/-- The range operators, no operator being one of them. -/
def IsOperator (operator : List Char) : Prop :=
  operator = [] ∨ operator = ['^'] ∨ operator = ['~'] ∨ operator = ['>', '='] ∨
    operator = ['<', '='] ∨ operator = ['>'] ∨ operator = ['<'] ∨ operator = ['=']

theorem isOperator_iff {operator : List Char} :
    IsOperator operator ↔ operator ∈ [] :: operators := by
  simp [IsOperator, operators]

/-- An operator, the white space behind it and the rest. -/
@[ext]
structure Cut where
  operator : List Char
  blanks : List Char
  version : List Char

/-- A text is cut at the longest operator that it begins with, which may be none. -/
structure Cut.IsOf (cut : Cut) (text : List Char) : Prop where
  eq : text = cut.operator ++ (cut.blanks ++ cut.version)
  isOperator : IsOperator cut.operator
  longest : ∀ other, IsOperator other → other <+: text → other.length ≤ cut.operator.length
  blanks : ∀ c ∈ cut.blanks, Text.isBlank c = true
  version : ∀ c ∈ cut.version.head?, Text.isBlank c = false

/-- The cut that a specification is taken apart by. -/
def cutOf (text : List Char) : Cut :=
  ⟨(takeOperator text).1, (takeOperator text).2.takeWhile Text.isBlank,
    Text.trimStart (takeOperator text).2⟩

theorem takeOperator_append_eq (text : List Char) :
    (takeOperator text).1 ++ (takeOperator text).2 = text := by
  rw [takeOperator]
  split
  next operator hfind =>
    have hbegins := List.find?_some hfind
    exact List.prefix_iff_eq_append.1 (List.isPrefixOf_iff_prefix.1 hbegins)
  next => rfl

/-- An operator that begins another one stands behind it. -/
theorem pairwise_not_isPrefix : operators.Pairwise fun operator later => ¬ operator <+: later := by
  decide

/-- The operator that is found first is the longest. -/
theorem takeOperator_longest {other : List Char} (hoperator : IsOperator other)
    (hother : other <+: text) : other.length ≤ (takeOperator text).1.length := by
  obtain rfl | hmem := List.mem_cons.1 (isOperator_iff.1 hoperator)
  · exact Nat.zero_le _
  have hbegins : other.isPrefixOf text = true := List.isPrefixOf_iff_prefix.2 hother
  rw [takeOperator]
  split
  next operator hfind =>
    obtain ⟨hfound, before, later, heq, hbefore⟩ := List.find?_eq_some_iff_append.1 hfind
    have hpairwise := pairwise_not_isPrefix
    rw [heq] at hmem hpairwise
    -- in front of what is found stands no operator of the text, and behind it no longer one
    obtain hmem | hmem := List.mem_append.1 hmem
    · have hnot := hbefore other hmem
      simp [hbegins] at hnot
    · obtain rfl | hmem := List.mem_cons.1 hmem
      · exact Nat.le_refl _
      · have hnot := (List.pairwise_cons.1 (List.pairwise_append.1 hpairwise).2.1).1 other hmem
        have hfound := List.isPrefixOf_iff_prefix.1 hfound
        exact (Nat.le_total other.length operator.length).resolve_right fun hle =>
          hnot (List.prefix_of_prefix_length_le hfound hother hle)
  next hnone =>
    have hnot := List.find?_eq_none.1 hnone other hmem
    exact absurd hbegins hnot

theorem cutOf_isOf (text : List Char) : (cutOf text).IsOf text where
  eq := by
    have hrest := List.takeWhile_append_dropWhile (p := Text.isBlank) (l := (takeOperator text).2)
    rw [cutOf, Text.trimStart, hrest, takeOperator_append_eq]
  isOperator := isOperator_iff.2 (takeOperator_mem text)
  longest _ := takeOperator_longest
  blanks c hc := List.mem_takeWhile_imp hc
  version := Text.not_blank_of_mem_head?_trimStart _

namespace Cut.IsOf

variable {cut cut' : Cut}

/-- White space ends in front of the first character that is none. -/
theorem trimStart_eq (h : cut.IsOf text) :
    Text.trimStart (cut.blanks ++ cut.version) = cut.version := by
  rw [Text.trimStart_append h.blanks]
  cases hversion : cut.version with
  | nil => rfl
  | cons c rest => exact Text.trimStart_cons (h.version c (by simp [hversion])) rest

theorem operator_isPrefix (h : cut.IsOf text) : cut.operator <+: text :=
  h.eq ▸ List.prefix_append _ _

theorem unique (h : cut.IsOf text) (h' : cut'.IsOf text) : cut = cut' := by
  have hlength : cut.operator.length = cut'.operator.length :=
    Nat.le_antisymm (h'.longest _ h.isOperator h.operator_isPrefix)
      (h.longest _ h'.isOperator h'.operator_isPrefix)
  have heq := h.eq.symm.trans h'.eq
  obtain ⟨hoperator, hrest⟩ := List.append_inj heq hlength
  have hversion : cut.version = cut'.version := by
    rw [← h.trimStart_eq, hrest, h'.trimStart_eq]
  rw [hversion] at hrest
  exact Cut.ext hoperator (List.append_cancel_right hrest) hversion

end Cut.IsOf

theorem existsUnique_cut (text : List Char) : ∃! cut : Cut, cut.IsOf text :=
  ⟨cutOf text, cutOf_isOf text, fun _ h => h.unique (cutOf_isOf text)⟩

theorem ofSpec_eq (spec : List Char) : ofSpec spec =
    if '\n' ∈ (cutOf (Text.trim spec)).version then ⟨[], spec⟩
    else ⟨(cutOf (Text.trim spec)).operator, (cutOf (Text.trim spec)).version⟩ := by
  by_cases hline : '\n' ∈ (cutOf (Text.trim spec)).version
  · rw [if_pos hline]
    exact if_pos (List.contains_iff_mem.2 hline)
  · rw [if_neg hline]
    exact if_neg fun h => hline (List.contains_iff_mem.1 h)

/-! ## Trying readings in turn -/

/-- The ways to read an operator in front of a text, and what is left of the text in each: the
operators in their order, then none. -/
def operatorReadings (text : List Char) : List (List Char × List Char) :=
  (operators.filter (·.isPrefixOf text)).map
    (fun operator => (operator, text.drop operator.length)) ++ [([], text)]

/-- What is left of a text if white space is skipped in front of it: as much as there is first, and
less and less of it then. -/
def skips : List Char → List (List Char)
  | [] => [[]]
  | c :: rest => (if Text.isBlank c then skips rest else []) ++ [c :: rest]

/-- The readings of a text as an operator, white space and one line, in the order in which they are
tried. -/
def readings (text : List Char) : List Requirement :=
  (operatorReadings text).flatMap fun reading =>
    ((skips reading.2).filter fun version => !version.contains '\n').map fun version =>
      ⟨reading.1, version⟩

theorem head?_operatorReadings (text : List Char) :
    (operatorReadings text).head? = some (takeOperator text) := by
  rw [operatorReadings, List.head?_append, List.head?_map, List.head?_filter, takeOperator]
  cases operators.find? (·.isPrefixOf text) <;> rfl

theorem of_mem_operatorReadings {operator rest : List Char}
    (h : (operator, rest) ∈ operatorReadings text) :
    IsOperator operator ∧ text = operator ++ rest := by
  rw [isOperator_iff]
  obtain h | h := List.mem_append.1 h
  · obtain ⟨found, hfound, heq⟩ := List.mem_map.1 h
    obtain ⟨hmem, hbegins⟩ := List.mem_filter.1 hfound
    cases heq
    have hsplit := List.prefix_iff_eq_append.1 (List.isPrefixOf_iff_prefix.1 hbegins)
    exact ⟨List.mem_cons_of_mem _ hmem, hsplit.symm⟩
  · cases List.mem_singleton.1 h
    exact ⟨List.mem_cons_self, rfl⟩

theorem head?_skips (cs : List Char) : (skips cs).head? = some (Text.trimStart cs) := by
  induction cs with
  | nil => rfl
  | cons c rest ih =>
    rw [skips, Text.trimStart, List.dropWhile_cons]
    split
    · rw [List.head?_append, ih]
      rfl
    · rfl

/-- What is left after all white space is left after less of it too. -/
theorem trimStart_suffix_of_mem_skips {cs version : List Char} (h : version ∈ skips cs) :
    Text.trimStart cs <:+ version := by
  induction cs with
  | nil =>
    cases List.mem_singleton.1 h
    exact List.suffix_refl _
  | cons c rest ih =>
    obtain h | h := List.mem_append.1 h
    · by_cases hblank : Text.isBlank c = true
      · rw [if_pos hblank] at h
        rw [Text.trimStart, List.dropWhile_cons_of_pos hblank]
        exact ih h
      · simp [hblank] at h
    · cases List.mem_singleton.1 h
      exact List.dropWhile_suffix _

/-- A line feed behind the longest operator and the white space there is in whatever another reading
leaves. -/
theorem lineFeed_mem_of_mem_skips {operator rest version : List Char}
    (hline : '\n' ∈ (cutOf text).version) (h : (operator, rest) ∈ operatorReadings text)
    (hversion : version ∈ skips rest) : '\n' ∈ version := by
  obtain ⟨hoperator, heq⟩ := of_mem_operatorReadings h
  have hshorter := takeOperator_longest hoperator ⟨rest, heq.symm⟩
  have hboth := (takeOperator_append_eq text).trans heq
  -- a shorter operator leaves what the longest one leaves, and more in front of it
  obtain ⟨between, hbetween⟩ : operator <+: (takeOperator text).1 :=
    List.prefix_of_prefix_length_le ⟨rest, heq.symm⟩ ⟨_, takeOperator_append_eq text⟩ hshorter
  rw [← hbetween, List.append_assoc] at hboth
  have hrest := List.append_cancel_left hboth
  have hmem := Text.mem_trimStart_append hline between
  rw [hrest] at hmem
  exact (trimStart_suffix_of_mem_skips hversion).subset hmem

/-- The first reading is the one by the longest operator and all the white space behind it: if there
is a line feed behind these, there is one in what any other reading leaves. -/
theorem ofSpec_eq_getD_readings (spec : List Char) :
    ofSpec spec = (readings (Text.trim spec)).head?.getD ⟨[], spec⟩ := by
  rw [ofSpec_eq]
  generalize Text.trim spec = text
  split
  next hline =>
    have hnone : readings text = [] := by
      refine List.flatMap_eq_nil_iff.2 fun reading h => ?_
      rw [List.map_eq_nil_iff, List.filter_eq_nil_iff]
      intro version hversion
      simpa using lineFeed_mem_of_mem_skips hline h hversion
    rw [hnone]
    rfl
  next hline =>
    obtain ⟨others, hothers⟩ := List.head?_eq_some_iff.1 (head?_operatorReadings text)
    obtain ⟨less, hless⟩ := List.head?_eq_some_iff.1 (head?_skips (takeOperator text).2)
    have hkept : '\n' ∉ Text.trimStart (takeOperator text).2 := hline
    rw [readings, hothers, List.flatMap_cons, hless, List.filter_cons_of_pos (by simp [hkept])]
    rfl

example : readings ['>', '=', ' ', '1'] =
    [⟨['>', '='], ['1']⟩, ⟨['>', '='], [' ', '1']⟩, ⟨['>'], ['=', ' ', '1']⟩,
      ⟨[], ['>', '=', ' ', '1']⟩] := by
  decide

/-! ## Taking specifications apart -/

/-- How specifications are taken apart. -/
structure TakesApart (split : List Char → Requirement) : Prop where
  /-- A specification can be cut in one way into the longest operator that it begins with, the white
  space behind the operator, and the rest. -/
  existsUnique_cut : ∀ spec, ∃! cut : Cut, cut.IsOf (Text.trim spec)
  /-- If the rest is one line, it is the version. -/
  eq_cut : ∀ spec (cut : Cut), cut.IsOf (Text.trim spec) → '\n' ∉ cut.version →
    split spec = ⟨cut.operator, cut.version⟩
  /-- Otherwise the specification is left as it is, white space around it included. -/
  eq_whole : ∀ spec (cut : Cut), cut.IsOf (Text.trim spec) → '\n' ∈ cut.version →
    split spec = ⟨[], spec⟩
  /-- An operator and one line that are put together are told apart, with or without white space in
  between, if the line neither begins nor ends with white space nor begins like an operator. -/
  append : ∀ operator blanks version first last, IsOperator operator →
    (∀ c ∈ blanks, Text.isBlank c = true) → '\n' ∉ version →
    version.head? = some first → Text.isBlank first = false → first ∉ ['^', '~', '>', '<', '='] →
    version.getLast? = some last → Text.isBlank last = false →
      split (operator ++ (blanks ++ version)) = ⟨operator, version⟩
  /-- The first of the readings in turn is taken. -/
  eq_reading : ∀ spec, split spec = (readings (Text.trim spec)).head?.getD ⟨[], spec⟩

/-- Every specification is taken apart so, whatever its characters are. -/
theorem ofSpec_takesApart : TakesApart ofSpec where
  existsUnique_cut spec := existsUnique_cut (Text.trim spec)
  eq_cut spec cut h hline := by
    rw [h.unique (cutOf_isOf _)] at hline ⊢
    rw [ofSpec_eq, if_neg hline]
  eq_whole spec cut h hline := by
    rw [h.unique (cutOf_isOf _)] at hline
    rw [ofSpec_eq, if_pos hline]
  append operator blanks version first last hoperator hblanks hline hfirst hfirstBlank hmark hlast
      hlastBlank := by
    obtain ⟨rest, hrest⟩ := List.head?_eq_some_iff.1 hfirst
    obtain ⟨front, hfront⟩ := List.getLast?_eq_some_iff.1 hlast
    have hmarks : ∀ c ∈ operators.flatten, c ∈ ['^', '~', '>', '<', '='] := by simp [operators]
    have hversion : IsVersion version := {
      starts := ⟨first, rest, hrest, hfirstBlank, fun h => hmark (hmarks first h)⟩
      lineFeed_not_mem := hline
      ends := ⟨front, last, hfront, hlastBlank⟩ }
    exact hversion.ofSpec_append (isOperator_iff.1 hoperator) hblanks
  eq_reading := ofSpec_eq_getD_readings

end Requirement

end Patchwise

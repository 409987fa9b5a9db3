import Patchwise.Proofs.Project
import Patchwise.Proofs.Text.Pieces

/-!
# Arguments that are safe to pass

A package and a version come from a report, and a package manager is handed both in one argument.
What is accepted cannot be taken for an option, has nothing in it that a tool would give a meaning
of its own, and is told apart into the package and the version again at its last at sign. What is
refused is never handed to anything.

## Main definitions

- `Text.splitAtLast?` — a text in front of a character's last occurrence, and behind it
- `PackageTool.IsIdentifier`, `PackageTool.IsPackageName` — the language of versions and of names
- `PackageTool.IsArgument` — an argument for a package at a version
- `PackageTool.Runner.Guards` — what becomes of a package and a version

## Main results

- `PackageTool.isPackageName_iff` — what is accepted as a name
- `PackageTool.argument_eq_ok_iff` — what is accepted together
- `PackageTool.Runner.guards` — what is accepted is an argument, and what is not is handed to nobody
-/

namespace Patchwise

/-! ## Last occurrences -/

namespace Text

/-- A text in front of the last occurrence of a character, and what is behind it. -/
def splitAtLast? (mark : Char) : List Char → Option (List Char × List Char)
  | [] => none
  | c :: rest =>
    match splitAtLast? mark rest with
    | some (front, back) => some (c :: front, back)
    | none => if c = mark then some ([], rest) else none

variable {mark : Char} {front back : List Char}

theorem splitAtLast?_eq_none {cs : List Char} (h : mark ∉ cs) : splitAtLast? mark cs = none := by
  induction cs with
  | nil => rfl
  | cons c rest ih =>
    rw [List.mem_cons, not_or] at h
    obtain ⟨hc, hrest⟩ := h
    rw [splitAtLast?, ih hrest]
    exact if_neg (Ne.symm hc)

theorem splitAtLast?_append (h : mark ∉ back) :
    splitAtLast? mark (front ++ mark :: back) = some (front, back) := by
  induction front with
  | nil =>
    rw [List.nil_append, splitAtLast?, splitAtLast?_eq_none h]
    exact if_pos rfl
  | cons c front ih => rw [List.cons_append, splitAtLast?, ih]

/-! ## Word characters of ASCII -/

theorem isWord_of_isAlphanum {c : Char} (h : c.isAlphanum = true) : isWord c = true := by
  unfold Char.isAlphanum Char.isAlpha Char.isUpper Char.isLower Char.isDigit at h
  simp only [Bool.or_eq_true, Bool.and_eq_true, decide_eq_true_eq, ge_iff_le,
    UInt32.le_iff_toNat_le] at h
  have hfirst : '0'.val.toNat = 0x30 ∧ 'A'.val.toNat = 0x41 ∧ 'a'.val.toNat = 0x61 := by decide
  have hlast : '9'.val.toNat = 0x39 ∧ 'Z'.val.toNat = 0x5A ∧ 'z'.val.toNat = 0x7A := by decide
  have hcode : c.toNat = c.val.toNat := rfl
  have hwithin : ∀ range ∈ wordRanges, range.1 ≤ c.toNat ∧ c.toNat ≤ range.2 → isWord c = true :=
    fun range hrange hc => List.any_eq_true.2 ⟨range, hrange, by simpa using hc⟩
  obtain (h | h) | h := h
  · exact hwithin (0x41, 0x5A) (by decide) (by omega)
  · exact hwithin (0x61, 0x7A) (by decide) (by omega)
  · exact hwithin (0x30, 0x39) (by decide) (by omega)

theorem not_isWord_at : isWord '@' = false := by
  decide +kernel

theorem not_isWord_slash : isWord '/' = false := by
  decide +kernel

end Text

namespace PackageTool

/-! ## Identifiers -/

/-- A text is a letter or digit of ASCII followed by word characters and some others. -/
def IsIdentifier (extra cs : List Char) : Prop :=
  ∃ first rest, cs = first :: rest ∧ first.isAlphanum = true ∧
    ∀ c ∈ rest, Text.isWord c = true ∨ c ∈ extra

theorem isIdentifier_iff {extra cs : List Char} :
    isIdentifier extra cs = true ↔ IsIdentifier extra cs := by
  cases cs with
  | nil => exact iff_of_false nofun fun ⟨_, _, h, _⟩ => nomatch h
  | cons first rest =>
    simp only [isIdentifier, isAsciiAlphanumeric, Bool.and_eq_true, List.all_eq_true,
      Bool.or_eq_true, List.contains_iff_mem]
    constructor
    · rintro ⟨hfirst, hrest⟩
      exact ⟨first, rest, rfl, hfirst, hrest⟩
    · rintro ⟨_, _, heq, hfirst, hrest⟩
      obtain ⟨rfl, rfl⟩ := List.cons.inj heq
      exact ⟨hfirst, hrest⟩

example : isIdentifier versionMarks "1.0.0; rm -rf /".toList = false := by decide +kernel

namespace IsIdentifier

variable {extra cs : List Char}

theorem forall_mem (h : IsIdentifier extra cs) : ∀ c ∈ cs, Text.isWord c = true ∨ c ∈ extra := by
  obtain ⟨first, rest, rfl, hfirst, hrest⟩ := h
  exact List.forall_mem_cons.2 ⟨.inl (Text.isWord_of_isAlphanum hfirst), hrest⟩

theorem not_mem {c : Char} (h : IsIdentifier extra cs) (hword : Text.isWord c = false)
    (hextra : c ∉ extra) : c ∉ cs := by
  intro hc
  obtain hc | hc := h.forall_mem c hc
  · rw [hword] at hc
    cases hc
  · exact hextra hc

end IsIdentifier

/-! ## Names -/

/-- A text is the name of a package: an identifier, or one in a scope that is another one. -/
inductive IsPackageName : List Char → Prop
  | plain {name : List Char} (h : IsIdentifier nameMarks name) : IsPackageName name
  | inScope {scope name : List Char} (hscope : IsIdentifier nameMarks scope)
      (hname : IsIdentifier nameMarks name) : IsPackageName ('@' :: (scope ++ '/' :: name))

theorem isPackageName_iff {cs : List Char} : isPackageName cs = true ↔ IsPackageName cs := by
  constructor
  · intro h
    unfold isPackageName at h
    split at h
    next rest =>
      obtain ⟨hscope, hname⟩ := Bool.and_eq_true_iff.1 h
      have hslash := List.not_of_mem_head?_dropWhile (p := (· != '/')) (l := rest)
      cases hdrop : rest.dropWhile (· != '/') with
      | nil =>
        rw [hdrop] at hname
        cases hname
      | cons slash name =>
        rw [hdrop] at hname hslash
        obtain rfl : slash = '/' := by simpa using hslash slash rfl
        rw [← List.takeWhile_append_dropWhile (p := (· != '/')) (l := rest), hdrop]
        exact .inScope (isIdentifier_iff.1 hscope) (isIdentifier_iff.1 hname)
    next => exact .plain (isIdentifier_iff.1 h)
  · rintro (h | ⟨hscope, hname⟩)
    · unfold isPackageName
      split
      next rest =>
        obtain ⟨_, _, heq, hfirst, -⟩ := h
        obtain ⟨rfl, -⟩ := List.cons.inj heq
        cases hfirst
      next => exact isIdentifier_iff.2 h
    · rename_i scope name
      have hnot : ∀ c ∈ scope, (c != '/') = true := fun c hc => by
        simpa using ne_of_mem_of_not_mem hc (hscope.not_mem Text.not_isWord_slash (by decide))
      have htake : (scope ++ '/' :: name).takeWhile (· != '/') = scope := by
        rw [List.takeWhile_append_of_pos hnot]
        simp
      have hdrop : (scope ++ '/' :: name).dropWhile (· != '/') = '/' :: name := by
        rw [List.dropWhile_append_of_pos hnot]
        simp
      rw [isPackageName, htake, hdrop]
      exact Bool.and_eq_true_iff.2 ⟨isIdentifier_iff.2 hscope, isIdentifier_iff.2 hname⟩

namespace IsPackageName

variable {cs : List Char}

theorem exists_eq_cons (h : IsPackageName cs) :
    ∃ first rest, cs = first :: rest ∧ (first.isAlphanum = true ∨ first = '@') := by
  cases h with
  | plain h =>
    obtain ⟨first, rest, rfl, hfirst, -⟩ := h
    exact ⟨first, rest, rfl, .inl hfirst⟩
  | inScope => exact ⟨_, _, rfl, .inr rfl⟩

theorem forall_mem (h : IsPackageName cs) :
    ∀ c ∈ cs, Text.isWord c = true ∨ c ∈ '@' :: '/' :: nameMarks := by
  have hidentifier : ∀ {part : List Char}, IsIdentifier nameMarks part →
      ∀ c ∈ part, Text.isWord c = true ∨ c ∈ '@' :: '/' :: nameMarks := by
    intro part hpart c hc
    exact (hpart.forall_mem c hc).imp_right fun h => by simp [h]
  cases h with
  | plain h => exact hidentifier h
  | inScope hscope hname =>
    rw [List.forall_mem_cons, List.forall_mem_append, List.forall_mem_cons]
    exact ⟨.inr (by simp), hidentifier hscope, .inr (by simp), hidentifier hname⟩

theorem count_slash_le (h : IsPackageName cs) : cs.count '/' ≤ 1 := by
  have hzero : ∀ {part : List Char}, IsIdentifier nameMarks part → part.count '/' = 0 :=
    fun hpart => List.count_eq_zero.2 (hpart.not_mem Text.not_isWord_slash (by decide))
  cases h with
  | plain h => simp [hzero h]
  | inScope hscope hname => simp [hzero hscope, hzero hname]

end IsPackageName

/-! ## Arguments -/

theorem argument_eq_ok_iff {tool : PackageTool} {package version argument : String} :
    tool.argument package version = .ok argument ↔
      IsPackageName package.toList ∧ IsIdentifier versionMarks version.toList ∧
        argument = package ++ "@" ++ version := by
  rw [← isPackageName_iff, ← isIdentifier_iff, PackageTool.argument, isVersionArgument]
  cases isPackageName package.toList <;> cases isIdentifier versionMarks version.toList <;>
    simp [eq_comm]

/-- What is refused is named, and the package first. -/
theorem argument_eq_error_iff {tool : PackageTool} {package version : String} {cause : ToolError} :
    tool.argument package version = .error cause ↔
      ¬ IsPackageName package.toList ∧ cause = .refused tool.program package ∨
      IsPackageName package.toList ∧ ¬ IsIdentifier versionMarks version.toList ∧
        cause = .refused tool.program version := by
  rw [← isPackageName_iff, ← isIdentifier_iff, PackageTool.argument, isVersionArgument]
  cases isPackageName package.toList <;> cases isIdentifier versionMarks version.toList <;>
    simp [eq_comm]

/-- A text is an argument for a package at a version. -/
structure IsArgument (package version argument : String) : Prop where
  eq : argument = package ++ "@" ++ version
  starts : ∃ first rest, argument.toList = first :: rest ∧ (first.isAlphanum = true ∨ first = '@')
  made : ∀ c ∈ argument.toList, Text.isWord c = true ∨ c ∈ ['.', '-', '+', '@', '/']
  count_slash_le : argument.toList.count '/' ≤ 1
  splits : Text.splitAtLast? '@' argument.toList = some (package.toList, version.toList)

theorem isArgument_of_ok {tool : PackageTool} {package version argument : String}
    (h : tool.argument package version = .ok argument) : IsArgument package version argument := by
  obtain ⟨hpackage, hversion, rfl⟩ := argument_eq_ok_iff.1 h
  have hat : '@' ∉ version.toList := hversion.not_mem Text.not_isWord_at (by decide)
  have hslash : '/' ∉ version.toList := hversion.not_mem Text.not_isWord_slash (by decide)
  have hlist : (package ++ "@" ++ version).toList = package.toList ++ '@' :: version.toList := by
    simp [String.toList_append]
  constructor
  case eq => rfl
  case starts =>
    obtain ⟨first, rest, hcons, hfirst⟩ := hpackage.exists_eq_cons
    exact ⟨first, rest ++ '@' :: version.toList, by rw [hlist, hcons, List.cons_append], hfirst⟩
  case made =>
    rw [hlist, List.forall_mem_append, List.forall_mem_cons]
    have hname : '@' :: '/' :: nameMarks ⊆ ['.', '-', '+', '@', '/'] := by decide
    have hmarks : versionMarks ⊆ ['.', '-', '+', '@', '/'] := by decide
    refine ⟨fun c hc => ?_, .inr (by decide), fun c hc => ?_⟩
    · exact (hpackage.forall_mem c hc).imp_right fun hmem => hname hmem
    · exact (hversion.forall_mem c hc).imp_right fun hmem => hmarks hmem
  case count_slash_le =>
    rw [hlist, List.count_append, List.count_cons, List.count_eq_zero.2 hslash]
    have hcount := hpackage.count_slash_le
    simpa using hcount
  case splits => rw [hlist, Text.splitAtLast?_append hat]

/-- No argument is one for two packages or two versions. -/
theorem IsArgument.unique {package package' version version' argument : String}
    (h : IsArgument package version argument) (h' : IsArgument package' version' argument) :
    package = package' ∧ version = version' := by
  have heq := Option.some.inj (h.splits.symm.trans h'.splits)
  obtain ⟨hpackage, hversion⟩ := Prod.mk.inj heq
  exact ⟨String.toList_inj.1 hpackage, String.toList_inj.1 hversion⟩

/-! ## Commands -/

namespace Runner

open Session

variable {r : Runner} {package version argument : String}

/-- What becomes of a package and a version, whichever they are. -/
structure Guards (r : Runner) (package version dependencyType : String) : Prop where
  accepts_iff : (∃ argument, r.tool.argument package version = .ok argument) ↔
    IsPackageName package.toList ∧ IsIdentifier versionMarks version.toList
  isArgument : ∀ argument, r.tool.argument package version = .ok argument →
    IsArgument package version argument
  unique : ∀ argument, r.tool.argument package version = .ok argument →
    ∀ (tool : PackageTool) package' version', tool.argument package' version' = .ok argument →
      package = package' ∧ version = version'
  /-- One command is started with what is accepted, and nothing else is. -/
  upgraded : ∀ argument, r.tool.argument package version = .ok argument →
    (r.upgrade package version).Ensures Host.Call.isWork
      (r.command (r.tool.upgradeArgs argument)).Performed
  added : ∀ argument, r.tool.argument package version = .ok argument →
    (r.add package version dependencyType).Ensures Host.Call.isWork
      (r.command (r.tool.addArgs argument dependencyType)).Performed
  /-- A package that is refused is named, and nothing at all is called. -/
  package_refused : ¬ IsPackageName package.toList →
    r.upgrade package version = .done (.error (.refused r.tool.program package)) ∧
      r.add package version dependencyType = .done (.error (.refused r.tool.program package))
  /-- So is a version that is refused, unless the package is. -/
  version_refused : IsPackageName package.toList → ¬ IsIdentifier versionMarks version.toList →
    r.upgrade package version = .done (.error (.refused r.tool.program version)) ∧
      r.add package version dependencyType = .done (.error (.refused r.tool.program version))

/-- What is accepted is handed on in one argument that can be mistaken for nothing else, and what is
refused is handed to nobody. -/
theorem guards (r : Runner) (package version dependencyType : String) :
    r.Guards package version dependencyType := by
  constructor
  case accepts_iff =>
    constructor
    · rintro ⟨argument, h⟩
      obtain ⟨hpackage, hversion, -⟩ := argument_eq_ok_iff.1 h
      exact ⟨hpackage, hversion⟩
    · rintro ⟨hpackage, hversion⟩
      exact ⟨_, argument_eq_ok_iff.2 ⟨hpackage, hversion, rfl⟩⟩
  case isArgument => exact fun argument h => isArgument_of_ok h
  case unique =>
    intro argument h tool package' version' h'
    exact (isArgument_of_ok h).unique (isArgument_of_ok h')
  case upgraded => exact fun argument h => perform_ensures_of_ok h _
  case added => exact fun argument h => perform_ensures_of_ok h _
  case package_refused =>
    intro hpackage
    have h : r.tool.argument package version = .error (.refused r.tool.program package) :=
      argument_eq_error_iff.2 (.inl ⟨hpackage, rfl⟩)
    exact ⟨perform_of_error h _, perform_of_error h _⟩
  case version_refused =>
    intro hpackage hversion
    have h : r.tool.argument package version = .error (.refused r.tool.program version) :=
      argument_eq_error_iff.2 (.inr ⟨hpackage, hversion, rfl⟩)
    exact ⟨perform_of_error h _, perform_of_error h _⟩

end Runner

end PackageTool

end Patchwise

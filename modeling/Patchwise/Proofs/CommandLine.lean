import Patchwise.CommandLine
import Patchwise.Proofs.Report
import Patchwise.Proofs.Text.Words

/-!
# What a command line is made of

Each value on a command line is for one parameter: the one that its own argument names, the one that
the argument in front of it names, or the path. A command line that is accepted gives no more than
one value for a parameter, except for the packages to leave out or to consider, and each value has
been understood.

## Main definitions

- `CommandLine.itemsOf` — the values that arguments give, each with the parameter that it is for
- `CommandLine.IsGivenBy` — a command line says just what some values say
- `CommandLine.Amends` — a configuration is another one except for what some values say

## Main results

- `CommandLine.IsGivenBy.give` — what taking one more value keeps
- `CommandLine.isGivenBy_of_read` — arguments that are accepted say what their values say
- `CommandLine.IsGivenBy.amends` — what is not asked for is left as it is configured

## Design notes

While arguments are read, a value that has been seen is held back until the next argument is in
order. `CommandLine.Progress.IsGivenBy` counts it among the values that have been given.
-/

namespace Patchwise.CommandLine

/-! ## Values -/

/-- A value, and the parameter that it is for. -/
abbrev Item : Type := Parameter × String

/-- The values that arguments give. A name without a value is about the next argument, and behind
two dashes there are only paths. -/
def itemsOf : Option Parameter → List String → List Item
  | _, [] => []
  | awaited, argument :: rest =>
    match shape argument.toList with
    | .separator => rest.map fun path => (.path, path)
    | .long name (some value) =>
      ((Parameter.ofName? name).map fun parameter => (parameter, value)).toList ++ itemsOf none rest
    | .long name none => itemsOf (Parameter.ofName? name) rest
    | .letters _ => itemsOf none rest
    | .plain => (awaited.getD .path, argument) :: itemsOf none rest

/-- The values for one parameter. -/
def valuesFor (parameter : Parameter) (items : List Item) : List String :=
  (items.filter fun item => item.1 = parameter).map (·.2)

theorem mem_valuesFor {parameter : Parameter} {items : List Item} {value : String} :
    value ∈ valuesFor parameter items ↔ (parameter, value) ∈ items := by
  simp [valuesFor]

@[simp]
theorem valuesFor_concat (parameter : Parameter) (items : List Item) (item : Item) :
    valuesFor parameter (items ++ [item]) =
      valuesFor parameter items ++ if item.1 = parameter then [item.2] else [] := by
  by_cases h : item.1 = parameter <;> simp [valuesFor, List.filter_append, h]

/-- A command line says just what the values say: no parameter has a second value, and each value
was understood. Of packages there may be several. -/
structure IsGivenBy (c : CommandLine) (items : List Item) : Prop where
  path : (valuesFor .path items).map pathOfText = c.path.toList.map .ok
  config : (valuesFor .config items).map pathOfText = c.config.toList.map .ok
  strategy : (valuesFor .strategy items).map Strategy.ofText = c.strategy.toList.map .ok
  verify : (valuesFor .verify items).map VerifyMode.ofText = c.verify.toList.map .ok
  testCommand :
    (valuesFor .testCommand items).map testCommandOfText = c.testCommand.toList.map .ok
  exclude : valuesFor .exclude items = c.exclude
  only : valuesFor .only items = c.only

variable {c c' : CommandLine} {items : List Item}

theorem isGivenBy_blank : blank.IsGivenBy [] := by
  constructor <;> rfl

theorem eq_false_of_once {said : Bool} (h : once said = .ok ()) : said = false := by
  cases said with
  | false => rfl
  | true => cases h

theorem IsGivenBy.give {parameter : Parameter} {value : String} (h : c.IsGivenBy items)
    (hgive : c.give value parameter = .ok c') : c'.IsGivenBy (items ++ [(parameter, value)]) := by
  obtain ⟨hpath, hconfig, hstrategy, hverify, htestCommand, hexclude, honly⟩ := h
  cases parameter with
  | exclude =>
    obtain rfl := Except.ok.inj hgive
    constructor <;> simp [*]
  | only =>
    obtain rfl := Except.ok.inj hgive
    constructor <;> simp [*]
  | path | config =>
    obtain ⟨_, honce, hgive⟩ := Except.bind_eq_ok_iff.1 hgive
    obtain ⟨path, hread, hgive⟩ := Except.bind_eq_ok_iff.1 hgive
    obtain rfl := Except.ok.inj hgive
    have hnone := Option.isSome_eq_false_iff.1 (eq_false_of_once honce)
    constructor <;> simp_all
  | strategy | verify | testCommand =>
    obtain ⟨_, honce, hgive⟩ := Except.bind_eq_ok_iff.1 hgive
    obtain ⟨read, hread, hgive⟩ := Except.bind_eq_ok_iff.1 hgive
    obtain rfl := Except.ok.inj hgive
    have hnone := Option.isSome_eq_false_iff.1 (eq_false_of_once honce)
    have hread := Except.eq_ok_of_mapError hread
    constructor <;> simp_all

/-- A switch gives no value. -/
theorem IsGivenBy.turnOn {switch : Switch} (h : c.IsGivenBy items)
    (hturn : c.turnOn switch = .ok c') : c'.IsGivenBy items := by
  cases switch with
  | help | version => cases hturn
  | dryRun | json | verbose | quiet =>
    obtain ⟨_, -, hturn⟩ := Except.bind_eq_ok_iff.1 hturn
    obtain rfl := Except.ok.inj hturn
    exact { h with }

/-! ## Arguments -/

namespace Progress

variable {p p' : Progress} {argument : String}

/-- The parameter that the next argument is to give a value for. -/
def awaited (p : Progress) : Option Parameter :=
  match p.pending with
  | some (parameter, none) => some parameter
  | _ => none

/-- The value that is held back. -/
def held (p : Progress) : List Item :=
  match p.pending with
  | some (parameter, some value) => [(parameter, value)]
  | _ => []

/-- What has been read says just what the values say, the last of which may be held back. -/
def IsGivenBy (p : Progress) (items : List Item) : Prop :=
  ∃ front, items = front ++ p.held ∧ p.given.IsGivenBy front

/-- What is held back can be taken over only if no value is awaited. -/
theorem IsGivenBy.settle (h : p.IsGivenBy items) (hsettle : p.settle = .ok c) :
    c.IsGivenBy items ∧ p.awaited = none := by
  obtain ⟨given, pending, ended⟩ := p
  obtain ⟨front, rfl, hgiven⟩ := h
  match pending with
  | none =>
    obtain rfl := Except.ok.inj hsettle
    refine ⟨?_, rfl⟩
    rw [held, List.append_nil]
    exact hgiven
  | some (parameter, none) => cases hsettle
  | some (parameter, some value) => exact ⟨hgiven.give hsettle, rfl⟩

theorem isGivenBy_of_settled {ended : Bool} (h : c.IsGivenBy items) :
    IsGivenBy ⟨c, none, ended⟩ items :=
  ⟨items, (List.append_nil items).symm, h⟩

/-- An argument that is no option gives the value that is awaited, or else the path. -/
theorem IsGivenBy.takePlain (h : p.IsGivenBy items) (htake : p.takePlain argument = .ok p') :
    p'.ended = p.ended ∧ p'.awaited = none ∧
      p'.IsGivenBy (items ++ [(p.awaited.getD .path, argument)]) ∧
      (p.ended = true → p.awaited = none) := by
  obtain ⟨given, pending, ended⟩ := p
  unfold Progress.takePlain at htake
  split at htake
  next hended hpending =>
    obtain rfl := Except.ok.inj htake
    obtain ⟨front, rfl, hgiven⟩ := h
    dsimp only at hended hpending
    subst hended hpending
    refine ⟨rfl, rfl, ⟨front, ?_, hgiven⟩, nofun⟩
    rw [held, List.append_nil]
    rfl
  next =>
    split at htake
    next => cases htake
    next =>
      obtain ⟨settled, hsettle, htake⟩ := Except.bind_eq_ok_iff.1 htake
      obtain rfl := Except.ok.inj htake
      obtain ⟨hsettled, hnone⟩ := h.settle hsettle
      rw [hnone]
      exact ⟨rfl, rfl, ⟨items, rfl, hsettled⟩, fun _ => rfl⟩

/-- A long name gives the value in its argument, or awaits one, or is a switch. -/
theorem IsGivenBy.takeLong {name : String} {value : Option String} (h : p.IsGivenBy items)
    (htake : p.takeLong name value = .ok p') :
    p'.ended = p.ended ∧
      match value with
      | some value => p'.awaited = none ∧ p'.IsGivenBy
          (items ++ ((Parameter.ofName? name).map fun parameter => (parameter, value)).toList)
      | none => p'.awaited = Parameter.ofName? name ∧ p'.IsGivenBy items := by
  unfold Progress.takeLong at htake
  split at htake
  next parameter _ value hname _ =>
    obtain ⟨settled, hsettle, htake⟩ := Except.bind_eq_ok_iff.1 htake
    obtain ⟨given, hgive, htake⟩ := Except.bind_eq_ok_iff.1 htake
    obtain rfl := Except.ok.inj htake
    have hgiven := (h.settle hsettle).1.give hgive
    rw [hname]
    exact ⟨rfl, rfl, isGivenBy_of_settled hgiven⟩
  next parameter _ hname _ =>
    obtain ⟨settled, hsettle, htake⟩ := Except.bind_eq_ok_iff.1 htake
    obtain rfl := Except.ok.inj htake
    obtain ⟨hsettled, -⟩ := h.settle hsettle
    exact ⟨rfl, hname.symm, items, (List.append_nil items).symm, hsettled⟩
  next hname _ _ =>
    obtain ⟨settled, hsettle, htake⟩ := Except.bind_eq_ok_iff.1 htake
    obtain ⟨given, hturn, htake⟩ := Except.bind_eq_ok_iff.1 htake
    obtain rfl := Except.ok.inj htake
    have hgiven := (h.settle hsettle).1.turnOn hturn
    exact ⟨rfl, hname.symm, isGivenBy_of_settled hgiven⟩
  next => cases htake
  next => cases htake

theorem IsGivenBy.takeLetter {letter : Char} (h : p.IsGivenBy items)
    (htake : p.takeLetter letter = .ok p') :
    p'.ended = p.ended ∧ p'.awaited = none ∧ p'.IsGivenBy items := by
  unfold Progress.takeLetter at htake
  split at htake
  next switch hletter =>
    obtain ⟨settled, hsettle, htake⟩ := Except.bind_eq_ok_iff.1 htake
    obtain ⟨given, hturn, htake⟩ := Except.bind_eq_ok_iff.1 htake
    obtain rfl := Except.ok.inj htake
    exact ⟨rfl, rfl, isGivenBy_of_settled ((h.settle hsettle).1.turnOn hturn)⟩
  next => cases htake

/-- Letters are switches and give no value. -/
theorem IsGivenBy.takeLetters {letters : List Char} (hsome : letters ≠ [])
    (h : p.IsGivenBy items) (htake : letters.foldlM Progress.takeLetter p = .ok p') :
    p'.ended = p.ended ∧ p'.awaited = none ∧ p'.IsGivenBy items := by
  induction letters generalizing p with
  | nil => exact absurd rfl hsome
  | cons letter rest ih =>
    rw [List.foldlM_cons] at htake
    obtain ⟨next, hnext, htake⟩ := Except.bind_eq_ok_iff.1 htake
    obtain ⟨hended, hnone, hgiven⟩ := h.takeLetter hnext
    by_cases hrest : rest = []
    · subst hrest
      obtain rfl : next = p' := Except.ok.inj htake
      exact ⟨hended, hnone, hgiven⟩
    · obtain ⟨hended', hnone', hgiven'⟩ := ih hrest hgiven htake
      exact ⟨hended'.trans hended, hnone', hgiven'⟩

end Progress

theorem ne_nil_of_shape {cs letters : List Char} (h : shape cs = .letters letters) :
    letters ≠ [] := by
  unfold shape at h
  split at h
  next => cases h
  next => cases h
  next =>
    obtain rfl := Shape.letters.inj h
    exact List.cons_ne_nil _ _
  next => cases h

open Progress in
/-- Behind two dashes every argument is a path. -/
theorem isGivenBy_of_ended {arguments : List String} {p p' : Progress} (hended : p.ended = true)
    (h : p.IsGivenBy items) (hread : arguments.foldlM take p = .ok p')
    (hsettle : p'.settle = .ok c) :
    c.IsGivenBy (items ++ arguments.map fun path => (.path, path)) := by
  induction arguments generalizing p items with
  | nil =>
    obtain rfl : p = p' := Except.ok.inj hread
    rw [List.map_nil, List.append_nil]
    exact (h.settle hsettle).1
  | cons argument rest ih =>
    rw [List.foldlM_cons] at hread
    obtain ⟨next, hnext, hread⟩ := Except.bind_eq_ok_iff.1 hread
    rw [take, if_pos hended] at hnext
    obtain ⟨hsame, -, hgiven, hnone⟩ := h.takePlain hnext
    rw [hnone hended] at hgiven
    rw [List.map_cons, List.append_cons]
    exact ih (hsame.trans hended) hgiven hread

/-- What one argument adds, as long as options are read. -/
theorem isGivenBy_of_foldlM {arguments : List String} {p p' : Progress} (hopen : p.ended = false)
    (h : p.IsGivenBy items) (hread : arguments.foldlM Progress.take p = .ok p')
    (hsettle : p'.settle = .ok c) : c.IsGivenBy (items ++ itemsOf p.awaited arguments) := by
  induction arguments generalizing p items with
  | nil =>
    obtain rfl : p = p' := Except.ok.inj hread
    rw [itemsOf, List.append_nil]
    exact (h.settle hsettle).1
  | cons argument rest ih =>
    rw [List.foldlM_cons] at hread
    obtain ⟨next, hnext, hread⟩ := Except.bind_eq_ok_iff.1 hread
    rw [Progress.take, if_neg (by simp [hopen])] at hnext
    rw [itemsOf]
    cases hshape : shape argument.toList with
    | separator =>
      rw [hshape] at hnext
      obtain rfl := Except.ok.inj hnext
      have hended : Progress.IsGivenBy { p with ended := true } items := h
      exact isGivenBy_of_ended rfl hended hread hsettle
    | long name value =>
      rw [hshape] at hnext
      obtain ⟨hsame, hnext⟩ := h.takeLong hnext
      cases value with
      | none =>
        obtain ⟨hawaited, hgiven⟩ := hnext
        have hrest := ih (hsame.trans hopen) hgiven hread
        rwa [hawaited] at hrest
      | some value =>
        obtain ⟨hawaited, hgiven⟩ := hnext
        have hrest := ih (hsame.trans hopen) hgiven hread
        rwa [hawaited, List.append_assoc] at hrest
    | letters letters =>
      rw [hshape] at hnext
      obtain ⟨hsame, hawaited, hgiven⟩ := h.takeLetters (ne_nil_of_shape hshape) hnext
      have hrest := ih (hsame.trans hopen) hgiven hread
      rwa [hawaited] at hrest
    | plain =>
      rw [hshape] at hnext
      obtain ⟨hsame, hawaited, hgiven, -⟩ := h.takePlain hnext
      have hrest := ih (hsame.trans hopen) hgiven hread
      rwa [hawaited, List.append_assoc] at hrest

/-- Arguments that are accepted say just what their values say. -/
theorem isGivenBy_of_read {arguments : List String} (h : read arguments = .ok c) :
    c.IsGivenBy (itemsOf none arguments) := by
  obtain ⟨p, hread, hsettle⟩ := Except.bind_eq_ok_iff.1 h
  have hblank : Progress.IsGivenBy ⟨blank, none, false⟩ [] :=
    Progress.isGivenBy_of_settled isGivenBy_blank
  exact isGivenBy_of_foldlM rfl hblank hread hsettle

/-! ## What a configuration is amended to -/

section Understood

variable {ε α : Type} {read : String → Except ε α} {said : Option α} {parameter : Parameter}

theorem eq_none_of_not_given (h : (valuesFor parameter items).map read = said.toList.map .ok)
    (hnone : ∀ value, (parameter, value) ∉ items) : said = none := by
  have hvalues : valuesFor parameter items = [] :=
    List.eq_nil_iff_forall_not_mem.2 fun value hvalue => hnone value (mem_valuesFor.1 hvalue)
  rw [hvalues] at h
  cases said with
  | none => rfl
  | some a => cases h

theorem exists_of_given (h : (valuesFor parameter items).map read = said.toList.map .ok)
    {value : String} (hvalue : (parameter, value) ∈ items) :
    ∃ a, said = some a ∧ read value = .ok a := by
  have hmem : read value ∈ said.toList.map .ok := by
    rw [← h]
    exact List.mem_map_of_mem (mem_valuesFor.2 hvalue)
  obtain ⟨a, ha, hread⟩ := List.mem_map.1 hmem
  exact ⟨a, by simpa using ha, hread.symm⟩

end Understood

/-- The words of a test command that was given are those of its value. -/
structure IsTestCommand (value : String) (words : List String) : Prop where
  ne_nil : words ≠ []
  isWord : ∀ word ∈ words, word ≠ "" ∧ ∀ c ∈ word.toList, Text.isBlank c = false
  joined : " ".intercalate words = Text.collapsed (Text.trimmed value)

theorem isTestCommand_of_testCommandOfText {value text : String}
    (h : testCommandOfText value = .ok text) : IsTestCommand value (Text.wordsOf text) := by
  unfold testCommandOfText at h
  split at h
  next => cases h
  next hblank =>
    obtain rfl := Except.ok.inj h
    exact
      { ne_nil := Text.wordsOf_trimmed_ne_nil (by simpa using hblank)
        isWord := Text.forall_mem_wordsOf
        joined := Text.intercalate_wordsOf value }

/-- A configuration is another one, except for what the values say. -/
structure Amends (items : List Item) (found s : Settings) : Prop where
  same : ∃ strategy verify, s = { found with strategy, verify }
  strategy_kept : (∀ value, (.strategy, value) ∉ items) → s.strategy = found.strategy
  strategy_given : ∀ value, (.strategy, value) ∈ items → Strategy.ofText value = .ok s.strategy
  mode_kept : (∀ value, (.verify, value) ∉ items) → s.verify.mode = found.verify.mode
  mode_given : ∀ value, (.verify, value) ∈ items → VerifyMode.ofText value = .ok s.verify.mode
  testCommand_kept : (∀ value, (.testCommand, value) ∉ items) →
    s.verify.testCommand = found.verify.testCommand
  testCommand_given : ∀ value, (.testCommand, value) ∈ items →
    IsTestCommand value s.verify.testCommand

/-- What is not asked for is left as it is configured, and what is asked for is taken over. -/
theorem IsGivenBy.amends (h : c.IsGivenBy items) (found : Settings) :
    Amends items found (c.amend found) := by
  constructor
  case same => exact ⟨_, _, rfl⟩
  case strategy_kept =>
    intro hnone
    rw [amend, eq_none_of_not_given h.strategy hnone]
    rfl
  case strategy_given =>
    intro value hvalue
    obtain ⟨strategy, hsaid, hread⟩ := exists_of_given h.strategy hvalue
    rw [amend, hsaid, hread]
    rfl
  case mode_kept =>
    intro hnone
    rw [amend, eq_none_of_not_given h.verify hnone]
    rfl
  case mode_given =>
    intro value hvalue
    obtain ⟨mode, hsaid, hread⟩ := exists_of_given h.verify hvalue
    rw [amend, hsaid, hread]
    rfl
  case testCommand_kept =>
    intro hnone
    rw [amend, eq_none_of_not_given h.testCommand hnone]
    rfl
  case testCommand_given =>
    intro value hvalue
    obtain ⟨text, hsaid, hread⟩ := exists_of_given h.testCommand hvalue
    rw [amend, hsaid]
    exact isTestCommand_of_testCommandOfText hread

end Patchwise.CommandLine

import Patchwise.Proofs.Manifest.Replacement
import Patchwise.Proofs.Requirement

/-!
# One edit after another

After an edit the editor searches a new text. It finds the same entry there: what it reads begins
with a quotation mark and holds a fixed number of them, so nothing that begins in front of the entry
can reach into the new value. So an edit can be undone, and of several edits only the last one
counts.

## Main definitions

- `Manifest.HasQuotes` — how many quotation marks things of a kind have
- `Manifest.IsSafe` — texts that can be written between the quotation marks of a value

## Main results

- `Manifest.StandsFirst.withSpec` — an entry that is edited is found again
- `Manifest.last_edit_wins` — edits can be undone, and the last of several is the one that counts
-/

namespace Patchwise.Manifest

/-! ## Counting quotation marks -/

/-- Things of a kind begin with a quotation mark and have `count` of them in front of their last
character. -/
def HasQuotes (kind : List Char → Prop) (count : Nat) : Prop :=
  ∀ found, kind found → ∃ inner last,
    found = '"' :: inner ++ [last] ∧ ('"' :: inner).count '"' = count

theorem quote_not_mem_blanks {blanks : List Char} (h : ∀ c ∈ blanks, Text.isBlank c = true) :
    '"' ∉ blanks := by
  intro hmem
  cases h '"' hmem

theorem IsKey.count_quote {name key : List Char} (h : IsKey name key) (hname : '"' ∉ name) :
    key.count '"' = 2 := by
  obtain ⟨blanks, blanks', rfl, hblanks, hblanks'⟩ := h
  simp [List.count_append, List.count_eq_zero_of_not_mem hname,
    List.count_eq_zero_of_not_mem (quote_not_mem_blanks hblanks),
    List.count_eq_zero_of_not_mem (quote_not_mem_blanks hblanks')]

theorem IsKey.exists_cons {name key : List Char} (h : IsKey name key) :
    ∃ inner, key = '"' :: inner := by
  obtain ⟨blanks, blanks', rfl, -, -⟩ := h
  exact ⟨_, rfl⟩

theorem hasQuotes_isOpening {heading : List Char} (h : '"' ∉ heading) :
    HasQuotes (IsOpening heading) 2 := by
  rintro _ ⟨key, hkey, rfl⟩
  obtain ⟨inner, rfl⟩ := hkey.exists_cons
  exact ⟨inner, _, rfl, hkey.count_quote h⟩

theorem hasQuotes_isPair {package : List Char} (h : '"' ∉ package) :
    HasQuotes (IsPair package) 3 := by
  rintro _ ⟨key, spec, ⟨hkey, hspec⟩, rfl⟩
  have hcount := hkey.count_quote h
  obtain ⟨inner, rfl⟩ := hkey.exists_cons
  refine ⟨inner ++ '"' :: spec, '"', by simp, ?_⟩
  rw [← List.cons_append, List.count_append, hcount, List.count_cons_self,
    List.count_eq_zero_of_not_mem hspec]

/-- What begins in front of a place does not reach past a text behind the place that has as many
quotation marks as it has itself, since its first one is in front of the place. -/
theorem HasQuotes.length_le {kind : List Char → Prop} {count : Nat} (h : HasQuotes kind count)
    {before inner tail before' found after : List Char} (hinner : count ≤ inner.count '"')
    (hsame : before ++ inner ++ tail = before' ++ (found ++ after)) (hfound : kind found)
    (hlt : before'.length < before.length) :
    (before' ++ found).length ≤ (before ++ inner).length := by
  obtain ⟨middle, last, rfl, hcount⟩ := h found hfound
  by_contra hlong
  have hprefix : before ++ inner <+: before' ++ '"' :: middle := by
    refine List.prefix_of_prefix_length_le ⟨tail, hsame⟩ ⟨last :: after, by simp⟩ ?_
    simp only [List.length_append, List.length_cons, List.length_nil] at hlong ⊢
    omega
  obtain ⟨between, rfl⟩ : before' <+: before :=
    List.prefix_of_prefix_length_le ⟨_, hsame.symm⟩ ⟨inner ++ tail, by simp⟩ hlt.le
  rw [List.append_assoc, List.prefix_append_right_inj] at hprefix
  cases between with
  | nil => simp at hlt
  | cons c between =>
    obtain ⟨rfl, -⟩ := List.cons_prefix_cons.1 hprefix
    have hle := hprefix.sublist.count_le '"'
    rw [hcount, List.cons_append, List.count_cons_self, List.count_append] at hle
    omega

/-- What stands first in a text stands first in every text that begins alike, if what begins in
front of it does not reach past the common beginning. -/
theorem HasQuotes.isFirst {kind : List Char → Prop} {count : Nat} (h : HasQuotes kind count)
    {cs before inner tail found after : List Char} (hfirst : IsFirst kind cs before found after)
    (hcs : cs = before ++ inner ++ tail) (hinner : count ≤ inner.count '"')
    (tail' : List Char) {found' after' : List Char} (hfound' : kind found')
    (htext : inner ++ tail' = found' ++ after') :
    IsFirst kind (before ++ (found' ++ after')) before found' after' := by
  refine ⟨rfl, hfound', ?_⟩
  intro front here back hsame hhere
  by_contra hlt
  rw [← htext, ← List.append_assoc] at hsame
  have hle := h.length_le hinner hsame hhere (Nat.lt_of_not_le hlt)
  -- so it stands in what the two texts have in common
  obtain ⟨rest, hrest⟩ : front ++ here <+: before ++ inner :=
    List.prefix_of_prefix_length_le ⟨back, by rw [hsame, List.append_assoc]⟩ ⟨tail', rfl⟩ hle
  have hold : cs = front ++ (here ++ (rest ++ tail)) := by
    rw [hcs, ← hrest]
    simp
  exact hlt (hfirst.le_length front here (rest ++ tail) hold hhere)

/-! ## The entry after an edit -/

/-- What can be written between the quotation marks of a value without ending it or the section. -/
structure IsSafe (spec : List Char) : Prop where
  quote_not_mem : '"' ∉ spec
  brace_not_mem : '\x7d' ∉ spec

/-- The first opening of a section stays the first one, whatever is behind it. -/
theorem IsFirst.opening_append {heading cs before opening inside : List Char}
    (h : IsFirst (IsOpening heading) cs before opening inside) (hheading : '"' ∉ heading)
    (inside' : List Char) :
    IsFirst (IsOpening heading) (before ++ (opening ++ inside')) before opening inside' := by
  obtain ⟨inner, last, hopening, hcount⟩ := hasQuotes_isOpening hheading _ h.isKind
  have hmarks : 2 ≤ opening.count '"' := by
    rw [hopening, List.count_append, hcount]
    exact Nat.le_add_right _ _
  have hcs : cs = before ++ opening ++ inside := by
    rw [h.text_eq, List.append_assoc]
  exact (hasQuotes_isOpening hheading).isFirst h hcs hmarks inside' h.isKind rfl

/-- The first entry of a package stays the first one with another value. -/
theorem IsFirst.pair_append {package body lead key spec rest : List Char}
    (h : IsFirst (IsPair package) body lead (key ++ '"' :: (spec ++ ['"'])) rest)
    (hkey : IsKey package key) (hpackage : '"' ∉ package) {spec' : List Char}
    (hspec' : '"' ∉ spec') :
    IsFirst (IsPair package) (lead ++ (key ++ '"' :: (spec' ++ ['"']) ++ rest)) lead
      (key ++ '"' :: (spec' ++ ['"'])) rest := by
  have hmarks : 3 ≤ (key ++ ['"']).count '"' := by
    rw [List.count_append, hkey.count_quote hpackage]
    exact Nat.le_refl 3
  have hbody : body = lead ++ (key ++ ['"']) ++ (spec ++ '"' :: rest) := by
    rw [h.text_eq]
    simp
  exact (hasQuotes_isPair hpackage).isFirst h hbody hmarks (spec' ++ '"' :: rest)
    ⟨key, spec', ⟨hkey, hspec'⟩, rfl⟩ (by simp)

section Find

variable {heading package cs : List Char} {e : Entry}

/-- An entry that is edited is found again. -/
theorem StandsFirst.withSpec (h : StandsFirst heading package cs e) (hheading : '"' ∉ heading)
    (hpackage : '"' ∉ package) {spec : List Char} (hspec : IsSafe spec) :
    StandsFirst heading package (e.withSpec spec) { e with spec } := by
  cases h with
  | @intro before opening body close lead key old rest hopening hbody hkey hold hpair =>
    have hpair' := hpair.pair_append hkey hpackage hspec.quote_not_mem
    have hopening' := hopening.opening_append hheading
      (lead ++ (key ++ '"' :: (spec ++ ['"']) ++ rest) ++ '\x7d' :: close)
    have hbody' : '\x7d' ∉ lead ++ (key ++ '"' :: (spec ++ ['"']) ++ rest) := by
      rw [hpair.text_eq] at hbody
      simp only [List.mem_append, List.mem_cons, List.not_mem_nil, or_false, not_or] at hbody ⊢
      exact ⟨hbody.1, ⟨hbody.2.1.1, by decide, hspec.brace_not_mem, by decide⟩, hbody.2.2⟩
    have hfound := StandsFirst.intro hopening' hbody' hkey hspec.quote_not_mem hpair'
    simpa [Entry.withSpec] using hfound

theorem StandsFirst.replaceSpec_eq (h : StandsFirst heading package cs e) (spec : List Char) :
    replaceSpec heading package spec cs = some (e.withSpec spec) := by
  rw [replaceSpec, h.find?_eq]
  rfl

theorem StandsFirst.replaceVersion_eq (h : StandsFirst heading package cs e)
    (version : List Char) :
    replaceVersion heading package version cs =
      some (e.withSpec ((Requirement.ofSpec e.spec).operator ++ version)) := by
  rw [replaceVersion, h.find?_eq]
  rfl

theorem StandsFirst.text_eq (h : StandsFirst heading package cs e) : e.withSpec e.spec = cs :=
  (Entry.isAt_of_find? h.find?_eq).text_eq

end Find

/-! ## Versions one after another -/

theorem IsSafe.operator_append {version : List Char} (h : IsSafe version) (spec : List Char) :
    IsSafe ((Requirement.ofSpec spec).operator ++ version) := by
  have hoperator : ∀ c, isBare c = false → c ∉ (Requirement.ofSpec spec).operator := by
    intro c hc hmem
    rw [isBare_of_operator spec c hmem] at hc
    cases hc
  exact ⟨List.not_mem_append (hoperator '"' (by decide)) h.quote_not_mem,
    List.not_mem_append (hoperator '\x7d' (by decide)) h.brace_not_mem⟩

/-- What can stand as a version in an argument of a package manager can be written, and told from
an operator. -/
theorem isSafe_of_isVersionArgument {version : List Char}
    (h : PackageTool.isVersionArgument version = true) :
    IsSafe version ∧ Requirement.IsVersion version := by
  obtain ⟨hne, hbare⟩ := isBare_of_isIdentifier (by decide) h
  have hnot : ∀ c, isBare c = false → c ∉ version := by
    intro c hc hmem
    rw [hbare c hmem] at hc
    cases hc
  have hblank : ∀ c ∈ version, Text.isBlank c = false := by
    intro c hmem
    have hc := hbare c hmem
    simp only [isBare, Bool.and_eq_true, Bool.not_eq_true'] at hc
    exact hc.1.2
  refine ⟨⟨hnot '"' (by decide), hnot '\x7d' (by decide)⟩, ?_, hnot '\n' (by decide), ?_⟩
  · cases version with
    | nil => cases h
    | cons c rest =>
      have hapart : Requirement.operators.flatten.all (!·.isAlphanum) = true := by decide
      have hc : c.isAlphanum = true := (Bool.and_eq_true_iff.1 h).1
      refine ⟨c, rest, rfl, hblank c List.mem_cons_self, fun hmem => ?_⟩
      simpa [hc] using List.all_eq_true.1 hapart c hmem
  · have hlast := List.dropLast_append_getLast hne
    exact ⟨_, _, hlast.symm, hblank _ (List.getLast_mem hne)⟩

/-- The operator in front of a version is found again. -/
theorem operator_append {version : List Char} (h : Requirement.IsVersion version)
    (spec : List Char) :
    (Requirement.ofSpec ((Requirement.ofSpec spec).operator ++ version)).operator =
      (Requirement.ofSpec spec).operator := by
  have happend : Requirement.ofSpec ((Requirement.ofSpec spec).operator ++ ([] ++ version)) =
      ⟨(Requirement.ofSpec spec).operator, version⟩ :=
    h.ofSpec_append (Requirement.operator_mem spec) (by simp)
  rw [List.nil_append] at happend
  rw [happend]

/-- The text after versions are set for a package one after another. -/
def replaceVersions (heading package : List Char) (versions : List (List Char)) (cs : List Char) :
    Option (List Char) :=
  versions.foldlM (fun cs version => replaceVersion heading package version cs) cs

/-- The last version that is set stands behind the operator that was there in the beginning. -/
theorem StandsFirst.replaceVersions_eq {heading package cs : List Char} {e : Entry}
    (h : StandsFirst heading package cs e) (hheading : '"' ∉ heading) (hpackage : '"' ∉ package)
    {versions : List (List Char)}
    (hversions : ∀ version ∈ versions, IsSafe version ∧ Requirement.IsVersion version)
    (last : List Char) :
    replaceVersions heading package (versions ++ [last]) cs =
      some (e.withSpec ((Requirement.ofSpec e.spec).operator ++ last)) := by
  induction versions generalizing cs e with
  | nil =>
    rw [List.nil_append, replaceVersions, List.foldlM_cons, h.replaceVersion_eq]
    rfl
  | cons version versions ih =>
    obtain ⟨⟨hsafe, hversion⟩, hrest⟩ := List.forall_mem_cons.1 hversions
    have hnext := h.withSpec hheading hpackage (hsafe.operator_append e.spec)
    have hlast := ih hnext hrest
    rw [operator_append hversion] at hlast
    rw [List.cons_append, replaceVersions, List.foldlM_cons, h.replaceVersion_eq]
    exact hlast

/-- Edits can be undone, and the last one wins. When a version has been set for a package, writing
back what its entry held gives the text from before, and every other requirement is written as if
there had been no edit. So is every other version, if the one in between can be told from the
operator in front of it: of any number of versions the last one stands behind the operator that was
there in the beginning. -/
theorem last_edit_wins (heading package version content edited : List Char)
    (hheading : '"' ∉ heading) (hpackage : '"' ∉ package) (hversion : IsSafe version)
    (h : replaceVersion heading package version content = some edited) :
    ∃ e, StandsFirst heading package content e ∧
      edited = e.withSpec ((Requirement.ofSpec e.spec).operator ++ version) ∧
      replaceSpec heading package e.spec edited = some content ∧
      (∀ spec, replaceSpec heading package spec edited =
        replaceSpec heading package spec content) ∧
      (Requirement.IsVersion version → ∀ later,
        replaceVersion heading package later edited =
          replaceVersion heading package later content) ∧
      ∀ versions last, (∀ v ∈ versions, IsSafe v ∧ Requirement.IsVersion v) →
        replaceVersions heading package (versions ++ [last]) content =
          some (e.withSpec ((Requirement.ofSpec e.spec).operator ++ last)) := by
  obtain ⟨e, he⟩ | hlacks := standsFirst_or_lacks heading package content
  · rw [he.replaceVersion_eq, Option.some.injEq] at h
    subst h
    have hnext := he.withSpec hheading hpackage (hversion.operator_append e.spec)
    have hspec : ∀ spec, replaceSpec heading package spec
        (e.withSpec ((Requirement.ofSpec e.spec).operator ++ version)) = some (e.withSpec spec) :=
      hnext.replaceSpec_eq
    refine ⟨e, he, rfl, ?_, ?_, ?_, ?_⟩
    · rw [hspec, he.text_eq]
    · intro spec
      rw [hspec, he.replaceSpec_eq]
    · intro hapart later
      rw [hnext.replaceVersion_eq, he.replaceVersion_eq, operator_append hapart]
      rfl
    · intro versions last hversions
      exact he.replaceVersions_eq hheading hpackage hversions last
  · rw [replaceVersion, hlacks.find?_eq] at h
    cases h

/-- In a manifest in which the names stand at other places as well, a version is set and set again,
and what was declared in the beginning is written back. -/
theorem last_edit_wins_busyPackage :
    ∃ edited, '"' ∉ "dependencies".toList ∧ '"' ∉ "lodash".toList ∧ IsSafe "4.17.21".toList ∧
      replaceVersion "dependencies".toList "lodash".toList "4.17.21".toList
        busyPackage.content.toList = some edited ∧ Requirement.IsVersion "4.17.21".toList ∧
      replaceSpec "dependencies".toList "lodash".toList "^4.17.20".toList edited =
        some busyPackage.content.toList ∧
      replaceVersion "dependencies".toList "lodash".toList "4.18.0".toList edited =
        replaceVersion "dependencies".toList "lodash".toList "4.18.0".toList
          busyPackage.content.toList := by
  have hheading : '"' ∉ "dependencies".toList := by decide
  have hpackage : '"' ∉ "lodash".toList := by decide
  obtain ⟨hsafe, hversion⟩ : IsSafe "4.17.21".toList ∧ Requirement.IsVersion "4.17.21".toList :=
    isSafe_of_isVersionArgument (by decide +kernel)
  obtain ⟨edited, h⟩ : ∃ edited, replaceVersion "dependencies".toList "lodash".toList
      "4.17.21".toList busyPackage.content.toList = some edited :=
    Option.isSome_iff_exists.1 (by decide +kernel)
  refine ⟨edited, hheading, hpackage, hsafe, h, hversion, ?_⟩
  obtain ⟨e, he, -, hback, -, hagain, -⟩ := last_edit_wins _ _ _ _ _ hheading hpackage hsafe h
  have hfound : (Entry.find? "dependencies".toList "lodash".toList
      busyPackage.content.toList).map Entry.spec = some "^4.17.20".toList := by decide +kernel
  rw [he.find?_eq, Option.map_some, Option.some.injEq] at hfound
  rw [hfound] at hback
  exact ⟨hback, hagain hversion _⟩

end Patchwise.Manifest

import Patchwise.PackageTool
import Patchwise.Proofs.Json.Reading
import Patchwise.Proofs.Json.Scan
import Patchwise.Proofs.Manifest.Entry
import Patchwise.Proofs.Manifest.Parsing
import Patchwise.Proofs.Requirement

/-!
# Where the editor and the reader agree

What a manifest declares is read from its JSON value, but edited in its text. The two agree on an
entry if the place that the editor finds is one that the reader reads, in the right member of the
right section and with nothing behind it that counts instead.

## Main definitions

- `Manifest.Entry.IsRead` — the reader reads an entry's value as what is declared for a package
- `Manifest.SetsVersions` — every version can be set, and nothing else changes

## Main results

- `Manifest.setsVersions_iff_isRead` — versions can be set just if the entry that is found is read

## Design notes

That the entry is read is needed because a manifest may have keys of the same name elsewhere, in
front of the section or within it, because a brace within a value ends the editor's section, and
because the reader decodes a string while the editor takes it as it is written.
-/

namespace Patchwise

open Json

/-! ## Operators and versions -/

theorem Requirement.operator_mem (spec : List Char) :
    (Requirement.ofSpec spec).operator ∈ [] :: Requirement.operators := by
  simp only [Requirement.ofSpec]
  split
  · exact List.mem_cons_self
  · exact Requirement.takeOperator_mem (Text.trim spec)

theorem Requirement.isPlain_operator (spec : List Char) :
    ∀ c ∈ (Requirement.ofSpec spec).operator, isPlain c = true := by
  have hall : ([] :: Requirement.operators).all (·.all isPlain) = true := by decide
  exact List.all_eq_true.1 (List.all_eq_true.1 hall _ (Requirement.operator_mem spec))

theorem Text.isPlain_of_isWord {c : Char} (h : Text.isWord c = true) : isPlain c = true := by
  have hranges : ∀ range ∈ Text.wordRanges, 0x30 ≤ range.1 ∧ (range.2 < 0x5C ∨ 0x5C < range.1) := by
    decide +kernel
  obtain ⟨⟨low, high⟩, hmem, hrange⟩ := List.any_eq_true.1 h
  have hbounds := hranges _ hmem
  simp only [Bool.and_eq_true, decide_eq_true_eq] at hrange
  have hquote : c ≠ '"' := by
    rintro rfl
    have hle : low ≤ 0x22 := hrange.1
    omega
  have hback : c ≠ '\\' := by
    rintro rfl
    have hle : low ≤ 0x5C ∧ 0x5C ≤ high := hrange
    omega
  have hlow : 0x20 ≤ c.toNat := by omega
  simp [isPlain, hquote, hback, hlow]

theorem isPlain_of_isAlphanum {c : Char} (h : c.isAlphanum = true) : isPlain c = true := by
  have hquote : c ≠ '"' := by
    rintro rfl
    cases h
  have hback : c ≠ '\\' := by
    rintro rfl
    cases h
  have hlow : 0x20 ≤ c.toNat := by
    unfold Char.isAlphanum Char.isAlpha Char.isUpper Char.isLower Char.isDigit at h
    simp only [Bool.or_eq_true, Bool.and_eq_true, decide_eq_true_eq, ge_iff_le,
      UInt32.le_iff_toNat_le] at h
    have hbounds : '0'.val.toNat = 48 ∧ 'A'.val.toNat = 65 ∧ 'a'.val.toNat = 97 := by decide
    show 0x20 ≤ c.val.toNat
    omega
  simp [isPlain, hquote, hback, hlow]

theorem PackageTool.isPlain_version {cs : List Char} (h : PackageTool.isVersionArgument cs = true) :
    ∀ c ∈ cs, isPlain c = true := by
  have hmarks : PackageTool.versionMarks.all isPlain = true := by decide
  cases cs with
  | nil => cases h
  | cons first rest =>
    simp only [PackageTool.isVersionArgument, PackageTool.isIdentifier, Bool.and_eq_true,
      List.all_eq_true, Bool.or_eq_true, List.contains_iff_mem] at h
    refine List.forall_mem_cons.2 ⟨isPlain_of_isAlphanum h.1, fun c hc => ?_⟩
    exact (h.2 c hc).elim Text.isPlain_of_isWord (List.all_eq_true.1 hmarks c)

/-- No token begins with an operator and a letter that begins none. -/
theorem Requirement.scan?_operator_append (spec rest : List Char) :
    Token.scan? ((Requirement.ofSpec spec).operator ++ 'z' :: rest) = none := by
  have hnone : ∀ {c : Char}, isSpace c = false → c.isDigit = false →
      c ∉ ['\x7b', '\x7d', '[', ']', ',', ':', '"', 't', 'f', 'n', '-'] →
      ∀ more, Token.scan? (c :: more) = none := by
    intro c hspace hdigit hstart more
    rw [Token.scan?_cons hspace, Token.first?_eq_none more hdigit hstart]
    rfl
  have hmem := Requirement.operator_mem spec
  simp only [Requirement.operators, List.mem_cons, List.not_mem_nil, or_false] at hmem
  obtain h | h | h | h | h | h | h | h := hmem <;> rw [h] <;>
    exact hnone (by decide) (by decide) (by decide) _

namespace Manifest

/-! ## The two readings of an entry -/

theorem specOf_eq_textAt? (m : Manifest) (dependencyType package : String) :
    m.specOf dependencyType package = m.value.textAt? dependencyType package := by
  simp only [specOf, textAt?]
  cases m.value.member? dependencyType <;> rfl

/-- The reader reads the value of an entry as what is declared for a package: the tokens in front of
it end where the member `package` of the section has its value, the value is one string, and neither
the member nor the section is followed by another one of its name. -/
def Entry.IsRead (e : Entry) (value : Json) (dependencyType package spec : String) : Prop :=
  ∃ tokens frames fills,
    Token.scan? e.before = some tokens ∧
      (Reading.value []).steps tokens = some (.value frames) ∧
      Locates dependencyType package frames fills ∧
      Token.scan? ('"' :: (e.spec ++ ['"'])) = some [.text spec] ∧
      value = fills (.text spec)

/-- Every version can be set for a package: it is declared afterwards, with the operator that was
declared before, and so is everything else. -/
def SetsVersions (m : Manifest) (dependencyType package spec : String) : Prop :=
  ∀ version : String, PackageTool.isVersionArgument version.toList = true →
    ∃ m', m.setVersion dependencyType package version = .ok m' ∧
      m'.specOf dependencyType package =
        some (.ofList (Requirement.ofSpec spec.toList).operator ++ version) ∧
      ∀ dependencyType' package', (dependencyType', package') ≠ (dependencyType, package) →
        m'.specOf dependencyType' package' = m.specOf dependencyType' package'

namespace Entry

variable {e : Entry} {tokens : List Token} {frames : List Frame} {value : Json} {spec : String}

/-- An entry that stands where a value is to come: whatever is written in the place of its value,
the reader makes the same of it. -/
theorem exists_fills (hquote : '"' ∉ e.spec)
    (hbefore : ∀ rest, Token.scan? (e.before ++ '"' :: rest) =
      (Token.scan? ('"' :: rest)).map (tokens ++ ·))
    (htokens : (Reading.value []).steps tokens = some (.value frames))
    (hspec : Token.scan? ('"' :: (e.spec ++ ['"'])) = some [.text spec])
    (hread : ofChars? e.text = some value) :
    ∃ fills, Fills frames fills ∧ value = fills (.text spec) ∧
      ∀ content, (∀ c ∈ content, isPlain c = true) →
        ofChars? (e.withSpec content) = some (fills (.text (.ofList content))) := by
  rw [ofChars?, text, withSpec, List.append_assoc, List.cons_append, hbefore,
    Token.scan?_string hquote hspec] at hread
  cases hlater : Token.scan? e.after with
  | none =>
    rw [hlater] at hread
    cases hread
  | some later =>
    simp only [hlater, Option.map_some, Option.bind_eq_bind, Option.bind_some] at hread
    rw [ofTokens?_append htokens, Option.bind_eq_some_iff] at hread
    obtain ⟨r, hsteps, hresult⟩ := hread
    obtain rfl := Reading.result?_eq_some hresult
    obtain ⟨fills, hfills, hany⟩ := Reading.exists_fills hsteps
    refine ⟨fills, hfills, ?_, fun content hplain => ?_⟩
    · rw [hany] at hsteps
      cases hsteps
      rfl
    · rw [ofChars?, withSpec, List.append_assoc, List.cons_append, hbefore,
        Token.scan?_plain hplain, hlater]
      simp only [Option.map_some, Option.bind_eq_bind, Option.bind_some]
      rw [ofTokens?_append htokens, hany]
      rfl

theorem IsAt.getLast?_before {cs : List Char} (h : e.IsAt cs) : e.before.getLast? ≠ some '\\' := by
  obtain ⟨front, blanks, hbefore, hblanks⟩ := h.colon
  intro hlast
  have hmem : '\\' ∈ ':' :: blanks := by
    rw [hbefore, List.getLast?_append, List.getLast?_cons, Option.some_or] at hlast
    exact List.mem_of_getLast? (List.getLast?_cons.trans hlast)
  obtain _ | ⟨_, hmem⟩ := hmem
  exact absurd (hblanks _ hmem) (by decide)

theorem IsAt.ofChars?_text {content : String} (h : e.IsAt content.toList)
    (hread : Json.read content = some value) : ofChars? e.text = some value := by
  rw [h.text_eq]
  exact hread

end Entry

/-! ## Setting a version -/

section SetVersion

variable {m : Manifest} {dependencyType package spec : String} {e : Entry}

theorem setVersion_of_find?
    (h : Entry.find? dependencyType.toList package.toList m.content.toList = some e)
    (version : String) :
    m.setVersion dependencyType package version =
      parse m.path (.ofList (e.withSpec ((Requirement.ofSpec e.spec).operator ++ version.toList))) := by
  rw [setVersion, replaceVersion, h]
  rfl

theorem setSpec_of_find?
    (h : Entry.find? dependencyType.toList package.toList m.content.toList = some e)
    (spec : String) :
    m.setSpec dependencyType package spec = parse m.path (.ofList (e.withSpec spec.toList)) := by
  rw [setSpec, replaceSpec, h]
  rfl

/-- A requirement can be declared just if an entry is found and the text with the requirement in the
place of the entry's value is JSON. -/
theorem exists_setSpec_iff :
    (∃ m', m.setSpec dependencyType package spec = .ok m') ↔
      ∃ e, Entry.find? dependencyType.toList package.toList m.content.toList = some e ∧
        (Json.read (.ofList (e.withSpec spec.toList))).isSome := by
  constructor
  · rintro ⟨m', hset⟩
    cases hfind : Entry.find? dependencyType.toList package.toList m.content.toList with
    | none =>
      rw [setSpec, replaceSpec, hfind] at hset
      cases hset
    | some e =>
      rw [setSpec_of_find? hfind, parse_eq_ok_iff] at hset
      exact ⟨e, rfl, by rw [← hset.2, m'.read_content]; rfl⟩
  · rintro ⟨e, hfind, hread⟩
    obtain ⟨value, hvalue⟩ := Option.isSome_iff_exists.1 hread
    exact ⟨_, (setSpec_of_find? hfind spec).trans (parse_of_read hvalue)⟩

/-- What is written for a version stands for itself in a string. -/
theorem isPlain_written (written : List Char) {version : List Char}
    (h : PackageTool.isVersionArgument version = true) :
    ∀ c ∈ (Requirement.ofSpec written).operator ++ version, isPlain c = true :=
  List.forall_mem_append.2 ⟨Requirement.isPlain_operator _, PackageTool.isPlain_version h⟩

/-- If the reader reads the entry that the editor finds, then it reads whatever is written for the
entry's value in its place. -/
theorem Entry.IsRead.exists_fills (hread : e.IsRead m.value dependencyType package spec)
    (hfind : Entry.find? dependencyType.toList package.toList m.content.toList = some e) :
    ∃ frames fills, Locates dependencyType package frames fills ∧
      m.value = fills (.text spec) ∧ ∀ content, (∀ c ∈ content, isPlain c = true) →
        ofChars? (e.withSpec content) = some (fills (.text (.ofList content))) := by
  obtain ⟨tokens, frames, fills₀, hscan, htokens, hlocates₀, hspec, hvalue⟩ := hread
  have hat := Entry.isAt_of_find? hfind
  have hbefore : ∀ rest, Token.scan? (e.before ++ '"' :: rest) =
      (Token.scan? ('"' :: rest)).map (tokens ++ ·) := by
    obtain ⟨tokens', hscan', hbefore⟩ | ⟨hnone, -⟩ := scan?_append_quote hat.getLast?_before
    · rw [hscan] at hscan'
      cases hscan'
      exact hbefore
    · rw [hscan] at hnone
      cases hnone
  obtain ⟨fills, hfills, hvalue', hany⟩ :=
    Entry.exists_fills hat.quote_not_mem hbefore htokens hspec (hat.ofChars?_text m.read_content)
  have hlocates := hlocates₀.of_fills hfills (hvalue.symm.trans hvalue')
  exact ⟨frames, fills, hlocates, hvalue', hany⟩

/-- An edit of an entry that is read changes one string. -/
theorem Entry.IsRead.differsAt (hread : e.IsRead m.value dependencyType package spec)
    (hfind : Entry.find? dependencyType.toList package.toList m.content.toList = some e)
    {content : List Char} (hplain : ∀ c ∈ content, isPlain c = true) :
    ∃ m', parse m.path (.ofList (e.withSpec content)) = .ok m' ∧
      DiffersAt dependencyType package spec (.ofList content) m.value m'.value := by
  obtain ⟨frames, fills, hlocates, hvalue, hany⟩ := hread.exists_fills hfind
  have hcontent := hany _ hplain
  rw [← String.toList_ofList (l := e.withSpec _), ← Json.read] at hcontent
  exact ⟨_, parse_of_read hcontent, frames, fills, hlocates, hvalue, rfl⟩

/-- If the reader reads the entry that the editor finds, then every version can be set. -/
theorem Entry.IsRead.setsVersions (hread : e.IsRead m.value dependencyType package spec)
    (hfind : Entry.find? dependencyType.toList package.toList m.content.toList = some e)
    (hoperator : (Requirement.ofSpec e.spec).operator =
      (Requirement.ofSpec spec.toList).operator) :
    m.SetsVersions dependencyType package spec := by
  intro version hversion
  obtain ⟨m', hparse, hdiffers⟩ := hread.differsAt hfind (isPlain_written e.spec hversion)
  obtain ⟨hset, hsame⟩ := textAt?_of_differsAt hdiffers
  refine ⟨m', (setVersion_of_find? hfind version).trans hparse, ?_, fun other other' hother => ?_⟩
  · rw [specOf_eq_textAt?, hset, hoperator, String.ofList_append, String.ofList_toList]
  · rw [specOf_eq_textAt?, specOf_eq_textAt?, hsame other other' hother]

theorem SetsVersions.exists_find? (h : m.SetsVersions dependencyType package spec) :
    ∃ e, Entry.find? dependencyType.toList package.toList m.content.toList = some e := by
  obtain ⟨m', hset, -⟩ := h "0" (by decide)
  cases hfind : Entry.find? dependencyType.toList package.toList m.content.toList with
  | some e => exact ⟨e, rfl⟩
  | none =>
    rw [setVersion, replaceVersion, hfind] at hset
    cases hset

/-- The text in which a version is set is read, and what is declared in it is the version. -/
theorem SetsVersions.exists_value (h : m.SetsVersions dependencyType package spec)
    (hfind : Entry.find? dependencyType.toList package.toList m.content.toList = some e)
    (version : String) (hversion : PackageTool.isVersionArgument version.toList = true) :
    ∃ value,
      ofChars? (e.withSpec ((Requirement.ofSpec e.spec).operator ++ version.toList)) = some value ∧
        value.textAt? dependencyType package =
          some (.ofList (Requirement.ofSpec spec.toList).operator ++ version) := by
  obtain ⟨m', hset, hdeclared, -⟩ := h version hversion
  rw [setVersion_of_find? hfind, parse_eq_ok_iff] at hset
  refine ⟨m'.value, ?_, (specOf_eq_textAt? m' dependencyType package).symm.trans hdeclared⟩
  have hread := m'.read_content
  rwa [hset.2, Json.read, String.toList_ofList] at hread

theorem SetsVersions.exists_tokens (h : m.SetsVersions dependencyType package spec)
    (hfind : Entry.find? dependencyType.toList package.toList m.content.toList = some e)
    (version : String) (hversion : PackageTool.isVersionArgument version.toList = true) :
    ∃ tokens, Token.scan? (e.before ++ '"' ::
      ((Requirement.ofSpec e.spec).operator ++ (version.toList ++ '"' :: e.after))) =
        some tokens := by
  obtain ⟨value, hread, -⟩ := h.exists_value hfind version hversion
  obtain ⟨tokens, hscan, -⟩ := ofChars?_eq_some hread
  exact ⟨tokens, by simpa [Entry.withSpec] using hscan⟩

/-- An entry whose value can be any version stands where a value is to come. -/
theorem SetsVersions.exists_frames (h : m.SetsVersions dependencyType package spec)
    (hfind : Entry.find? dependencyType.toList package.toList m.content.toList = some e) :
    ∃ tokens frames, Token.scan? e.before = some tokens ∧
      (∀ rest, Token.scan? (e.before ++ '"' :: rest) =
        (Token.scan? ('"' :: rest)).map (tokens ++ ·)) ∧
      (Reading.value []).steps tokens = some (.value frames) := by
  have hat := Entry.isAt_of_find? hfind
  -- a letter that begins no token shows whether the value is taken for tokens
  obtain ⟨zTokens, hz⟩ := h.exists_tokens hfind "z" (by decide)
  rw [show "z".toList = ['z'] from rfl, List.singleton_append] at hz
  obtain ⟨tokens, hscan, hbefore⟩ | ⟨-, ⟨tokens, hbefore⟩ | hbefore⟩ :=
    scan?_append_quote hat.getLast?_before
  · obtain ⟨front, blanks, hfront, hblanks⟩ := hat.colon
    obtain ⟨earlier, rfl⟩ := Token.scan?_append_colon hblanks (hfront ▸ hscan)
    obtain ⟨all, hall, hvalue⟩ := ofChars?_eq_some (hat.ofChars?_text m.read_content)
    rw [Entry.text, Entry.withSpec, List.append_assoc, List.cons_append, hbefore] at hall
    obtain ⟨later, -, rfl⟩ := Option.map_eq_some_iff.1 hall
    rw [ofTokens?, Reading.steps_append, Option.bind_eq_bind, Option.bind_eq_some_iff] at hvalue
    obtain ⟨r, hsteps, -⟩ := hvalue
    obtain ⟨q, hearlier, -⟩ := Option.bind_eq_some_iff.1 hsteps
    obtain ⟨frames, rfl⟩ := Reading.steps_concat_colon hearlier
    exact ⟨_, frames, hscan, hbefore, hearlier⟩
  · -- the mark in front of the value would end a string, and the version would be outside
    rw [hbefore, Requirement.scan?_operator_append] at hz
    cases hz
  · rw [hbefore] at hz
    cases hz

/-- The value of an entry that can be any version is a string by itself. -/
theorem SetsVersions.exists_string (h : m.SetsVersions dependencyType package spec)
    (hfind : Entry.find? dependencyType.toList package.toList m.content.toList = some e)
    {tokens : List Token} (hbefore : ∀ rest, Token.scan? (e.before ++ '"' :: rest) =
        (Token.scan? ('"' :: rest)).map (tokens ++ ·)) :
    ∃ content, Token.scan? ('"' :: (e.spec ++ ['"'])) = some [.text content] := by
  have hat := Entry.isAt_of_find? hfind
  obtain ⟨all, hall, -⟩ := ofChars?_eq_some (hat.ofChars?_text m.read_content)
  rw [Entry.text, Entry.withSpec, List.append_assoc, List.cons_append, hbefore] at hall
  obtain ⟨later, hlater, -⟩ := Option.map_eq_some_iff.1 hall
  obtain ⟨zeroTokens, hzero⟩ := h.exists_tokens hfind "0" (by decide)
  rw [hbefore, ← List.append_assoc, Token.scan?_plain (isPlain_written e.spec (by decide))] at hzero
  obtain ⟨_, hzero, -⟩ := Option.map_eq_some_iff.1 hzero
  obtain ⟨after, hafter, -⟩ := Option.map_eq_some_iff.1 hzero
  exact Token.exists_string hat.quote_not_mem hlater hafter

/-- If every version can be set, then the reader reads the entry that the editor finds. -/
theorem SetsVersions.exists_isRead (h : m.SetsVersions dependencyType package spec)
    (hspec : m.specOf dependencyType package = some spec) :
    ∃ e, Entry.find? dependencyType.toList package.toList m.content.toList = some e ∧
      e.IsRead m.value dependencyType package spec ∧
      (Requirement.ofSpec e.spec).operator = (Requirement.ofSpec spec.toList).operator := by
  obtain ⟨e, hfind⟩ := h.exists_find?
  have hat := Entry.isAt_of_find? hfind
  obtain ⟨tokens, frames, hscan, hbefore, htokens⟩ := h.exists_frames hfind
  obtain ⟨content, hstring⟩ := h.exists_string hfind hbefore
  obtain ⟨fills, hfills, hvalue, hany⟩ :=
    Entry.exists_fills hat.quote_not_mem hbefore htokens hstring (hat.ofChars?_text m.read_content)
  -- what is declared after a version was set
  have hdeclared : ∀ version : String, PackageTool.isVersionArgument version.toList = true →
      (fills (.text (.ofList ((Requirement.ofSpec e.spec).operator ++ version.toList)))).textAt?
        dependencyType package =
          some (.ofList (Requirement.ofSpec spec.toList).operator ++ version) := by
    intro version hversion
    obtain ⟨value, hread, htext⟩ := h.exists_value hfind version hversion
    rw [hany _ (isPlain_written e.spec hversion)] at hread
    cases hread
    exact htext
  obtain hlocates | ⟨found, hfound⟩ := hfills.textAt? dependencyType package
  · have hcontent : content = spec := by
      rw [specOf_eq_textAt?, hvalue, hlocates.textAt?] at hspec
      exact Option.some.inj hspec
    subst hcontent
    refine ⟨e, hfind, ⟨tokens, frames, fills, hscan, htokens, hlocates, hstring, hvalue⟩, ?_⟩
    have hzero := hdeclared "0" (by decide)
    rw [hlocates.textAt?] at hzero
    have hlists := congrArg String.toList (Option.some.inj hzero)
    simpa using hlists
  · -- what is declared would not depend on the entry, but `0` and `1` are different
    have hzero := hdeclared "0" (by decide)
    have hone := hdeclared "1" (by decide)
    rw [hfound] at hzero hone
    rw [hzero] at hone
    have hlists := congrArg String.toList (Option.some.inj hone)
    simp at hlists

end SetVersion

/-- Every version can be set for a package just if the reader reads the entry that the editor finds,
and its operator as it is written. -/
theorem setsVersions_iff_isRead (m : Manifest) {dependencyType package spec : String}
    (hspec : m.specOf dependencyType package = some spec) :
    m.SetsVersions dependencyType package spec ↔
      ∃ e, Entry.find? dependencyType.toList package.toList m.content.toList = some e ∧
        e.IsRead m.value dependencyType package spec ∧
        (Requirement.ofSpec e.spec).operator = (Requirement.ofSpec spec.toList).operator :=
  ⟨fun h => h.exists_isRead hspec,
    fun ⟨_, hfind, hread, hoperator⟩ => hread.setsVersions hfind hoperator⟩

/-- A manifest with one package. -/
def onePackage : Manifest :=
  ⟨"package.json", "\x7b\"dependencies\":\x7b\"lodash\":\"^4.17.20\"\x7d\x7d",
    .object [("dependencies", .object [("lodash", .text "^4.17.20")])], by cbv⟩

/-- Every version of the package can be set, because its entry is the one that is read. -/
theorem setsVersions_onePackage :
    onePackage.specOf "dependencies" "lodash" = some "^4.17.20" ∧
      onePackage.SetsVersions "dependencies" "lodash" "^4.17.20" := by
  have hspec : onePackage.specOf "dependencies" "lodash" = some "^4.17.20" := by cbv
  refine ⟨hspec, (setsVersions_iff_isRead onePackage hspec).2
    ⟨⟨"\x7b\"dependencies\":\x7b\"lodash\":".toList, "^4.17.20".toList, "\x7d\x7d".toList⟩,
      by decide +kernel, ?_, by decide +kernel⟩⟩
  refine ⟨[.openBrace, .text "dependencies", .colon, .openBrace, .text "lodash", .colon],
    [.object [] "lodash", .object [] "dependencies"],
    fun item => .object [("dependencies", .object [("lodash", item)])], by cbv, rfl, ?_, by cbv, rfl⟩
  exact ⟨[], [], [], [], rfl, fun item => rfl, rfl, rfl⟩

/-- A manifest that declares the dependencies of another package's package in front of its own. -/
def extendedPackage : Manifest :=
  ⟨"package.json",
    "\x7b\"pnpm\":\x7b\"packageExtensions\":\x7b\"react-redux\":\x7b" ++
      "\"dependencies\":\x7b\"react-dom\":\"*\"\x7d\x7d\x7d\x7d," ++
      "\"dependencies\":\x7b\"lodash\":\"^4.17.20\"\x7d\x7d",
    .object [("pnpm", .object [("packageExtensions", .object [("react-redux",
      .object [("dependencies", .object [("react-dom", .text "*")])])])]),
      ("dependencies", .object [("lodash", .text "^4.17.20")])], by cbv⟩

/-- The package is declared, but no version can be set for it. -/
theorem not_set_extendedPackage :
    extendedPackage.specOf "dependencies" "lodash" = some "^4.17.20" ∧
      PackageTool.isVersionArgument "4.17.21".toList = true ∧
      extendedPackage.setVersion "dependencies" "lodash" "4.17.21" =
        .error (.notDeclared "package.json" "dependencies" "lodash") := by
  refine ⟨by cbv, by decide +kernel, ?_⟩
  have hfind : Entry.find? "dependencies".toList "lodash".toList extendedPackage.content.toList =
      none := by
    decide +kernel
  rw [setVersion, replaceVersion, hfind]
  rfl

end Manifest

end Patchwise

import Patchwise.Proofs.Json.Places
import Patchwise.Proofs.Manifest.Agreement

/-!
# Edits of regular manifests

A manifest is regular at a section if nothing in its text can be taken for the section but the
section itself, and nothing in the section for an entry but its entries. Then an edit of an entry
changes one string of the manifest's value, and nothing else.

## Main definitions

- `Manifest.IsRegular` — manifests of the shape that the editor is made for
- `Manifest.isBare`, `Manifest.IsBare` — the characters and the names that entries may have

## Main results

- `Manifest.IsRegular.exists_isRead` — the editor finds the entry that the reader reads
- `Manifest.edits_of_isRegular` — what an edit of a regular manifest changes
- `Manifest.IsRegular.exists_setVersions` — versions can be set one after another

## Design notes

The editor's two searches stop at the first place where something matches. That there is no other
place is shown for each quotation mark by the token that it belongs to: one that begins a string
matches only the right string, and one that ends a string is followed by a mark or a blank, or else
a brace would stand in the string behind it.
-/

namespace Patchwise.Manifest

open Json

/-! ## Searches -/

theorem exists_search {α : Type} {read? : List Char → Option (α × List Char)}
    (front : List Char) {here : List Char} (h : (read? here).isSome) :
    ∃ before found rest, search read? (front ++ here) = some (before, found, rest) := by
  induction front with
  | nil =>
    obtain ⟨⟨found, rest⟩, h⟩ := Option.isSome_iff_exists.1 h
    cases here with
    | nil => exact ⟨[], found, rest, by rw [List.append_nil, search, h]; rfl⟩
    | cons c here => exact ⟨[], found, rest, by rw [List.nil_append, search, h]⟩
  | cons c front ih =>
    -- the search may end earlier, but it ends
    obtain ⟨before, found', rest', hsearch⟩ := ih
    rw [List.cons_append, search]
    split
    next found rest hread => exact ⟨[], found, rest, rfl⟩
    next => exact ⟨c :: before, found', rest', by rw [hsearch]; rfl⟩

theorem key?_append (name : List Char) {blanks blanks' : List Char} {c : Char} (rest : List Char)
    (hblanks : ∀ d ∈ blanks, Text.isBlank d = true)
    (hblanks' : ∀ d ∈ blanks', Text.isBlank d = true) (hc : Text.isBlank c = false) :
    key? name ('"' :: (name ++ '"' :: (blanks ++ ':' :: (blanks' ++ c :: rest)))) =
      some ('"' :: (name ++ '"' :: (blanks ++ ':' :: blanks')), c :: rest) := by
  have hquoted : '"' :: (name ++ '"' :: (blanks ++ ':' :: (blanks' ++ c :: rest))) =
      ('"' :: name ++ ['"']) ++ (blanks ++ ':' :: (blanks' ++ c :: rest)) := by simp
  have hcolon : Text.isBlank ':' = false := by decide
  rw [hquoted]
  simp only [key?, List.isPrefixOf_iff_prefix.2 (List.prefix_append _ _), if_true, List.drop_left,
    List.dropWhile_append_of_pos hblanks, List.takeWhile_append_of_pos hblanks,
    List.dropWhile_cons, List.takeWhile_cons, hcolon, Bool.false_eq_true, if_false,
    List.dropWhile_append_of_pos hblanks', List.takeWhile_append_of_pos hblanks', hc]
  simp

/-! ## Sections -/

section Opening

variable {cs here : List Char} {heading : String} {before after ts : List Token}

/-- Where a section is opened by its tokens, the editor can read its opening. -/
theorem exists_opening (hback : '\\' ∉ cs) (hscan : Token.scan? cs =
    some (before ++ .text heading :: .colon :: .openBrace :: after)) :
    ∃ front here, cs = front ++ here ∧ (opening? heading.toList here).isSome := by
  obtain ⟨front, rest, rfl, hrest⟩ := Token.exists_place hscan
  have hback' : '\\' ∉ rest := fun hmem => hback (List.mem_append_right _ hmem)
  obtain ⟨blanks, rest, rfl, -, -, hrest⟩ := Token.exists_text hback' hrest
  obtain ⟨blanks₁, rest, rfl, hblanks₁, hrest⟩ := Token.exists_mark rfl hrest
  obtain ⟨blanks₂, rest, rfl, hblanks₂, -⟩ := Token.exists_mark rfl hrest
  refine ⟨front ++ blanks, _, (List.append_assoc ..).symm, ?_⟩
  rw [opening?, key?_append heading.toList rest hblanks₁ hblanks₂ (by decide)]
  rfl

/-- Where the editor reads the opening of a section, its tokens stand. -/
theorem opening_place {front opening inside : List Char} (hback : '\\' ∉ front ++ here)
    (hscan : Token.scan? (front ++ here) = some ts) (hheading : '"' ∉ heading.toList)
    (hbrace : ∀ content, .text content ∈ ts → '\x7b' ∉ content.toList)
    (h : opening? heading.toList here = some (opening, inside)) :
    ∃ before after, ts = before ++ .text heading :: .colon :: .openBrace :: after ∧
      Token.scan? inside = some after := by
  simp only [opening?, Option.bind_eq_bind, Option.bind_eq_some_iff] at h
  obtain ⟨⟨key, more⟩, hkey, h⟩ := h
  obtain ⟨blanks, blanks', rfl, rfl, hblanks, hblanks'⟩ := exists_blanks_of_key? hkey
  split at h
  next heq =>
    cases heq
    cases h
    simp only [List.cons_append, List.append_assoc] at hback hscan
    obtain ⟨before, after, -, hafter, rfl⟩ | ⟨before, after, content, left, rfl, -, hcontent, hmem⟩ :=
      Token.quoted_cases hback hheading hscan
    · obtain ⟨later, rfl, hlater⟩ := Token.exists_of_blanks_mark .colon rfl hblanks hafter
      obtain ⟨last, rfl, hlast⟩ := Token.exists_of_blanks_mark .openBrace rfl hblanks' hlater
      exact ⟨before, last, rfl, hlast⟩
    · -- the first mark ends a string, so the brace would stand in the next one
      have hquote : '"' ∉ blanks ++ ':' :: blanks' := by
        intro hmem
        obtain hmem | _ | ⟨_, hmem⟩ := List.mem_append.1 hmem
        · exact absurd (hblanks _ hmem) (by decide)
        · exact absurd (hblanks' _ hmem) (by decide)
      rw [← List.cons_append, ← List.append_assoc] at hcontent
      have hopen := Token.mem_of_append_quote (by decide) hquote hcontent
      exact absurd hopen (hbrace content (List.mem_append_right _ hmem))
  next => cases h

/-- Where there is one opening of a section among the tokens of a text, the editor finds it, and the
section up to its closing brace. -/
theorem exists_section {inner : List Token} (hback : '\\' ∉ cs) (hscan : Token.scan? cs = some ts)
    (htokens : ts = before ++ .text heading :: .colon :: .openBrace ::
      (inner ++ .closeBrace :: after))
    (hone : openings heading ts ≤ 1)
    (hbrace : ∀ content, .text content ∈ ts → '\x7b' ∉ content.toList ∧ '\x7d' ∉ content.toList)
    (hinner : .closeBrace ∉ inner) :
    ∃ front opening body close, search (opening? heading.toList) cs =
        some (front, opening, body ++ '\x7d' :: close) ∧
      Token.scan? body = some inner ∧ Token.scan? close = some after ∧ '\x7d' ∉ body := by
  subst htokens
  have hheading : '"' ∉ heading.toList := by
    obtain ⟨front, rest, rfl, hrest⟩ := Token.exists_place hscan
    obtain ⟨_, _, _, -, hplain, -⟩ :=
      Token.exists_text (fun hmem => hback (List.mem_append_right _ hmem)) hrest
    exact Token.quote_not_mem_of_isPlain hplain
  obtain ⟨front, here, rfl, hhere⟩ := exists_opening hback hscan
  obtain ⟨front', opening, inside, hsearch⟩ := exists_search front hhere
  obtain ⟨here', hsame, hread⟩ := search_eq_some hsearch
  rw [hsame] at hback hscan
  obtain ⟨before', after', htokens, hinside⟩ :=
    opening_place hback hscan hheading (fun content hmem => (hbrace content hmem).1) hread
  obtain ⟨rfl, hafter⟩ := eq_of_openings_le_one hone htokens (by simp [isOpening])
    (by simp [isOpening])
  cases hafter
  -- the section is closed by the brace that the tokens say it is
  have hback' : '\\' ∉ inside := by
    rw [opening?_eq_some hread] at hback
    exact fun hmem => hback (by simp [hmem])
  obtain ⟨lead, rest, rfl, hrest⟩ := Token.exists_place hinside
  obtain ⟨blanks, close, rfl, -, hclose⟩ := Token.exists_mark rfl hrest
  rw [← List.append_assoc] at hinside hback' hsearch
  have hbody := Token.scan?_of_append (fun hmem => hback' (List.mem_append_left _ hmem)) rfl
    hinside (by rw [Token.scan?_mark .closeBrace rfl, hclose]; rfl)
  refine ⟨front', opening, lead ++ blanks, close, hsearch, hbody, hclose, fun hmem => ?_⟩
  obtain htoken | ⟨content, hcontent, hstring⟩ := Token.mem_of_mark_mem .closeBrace rfl
    (fun hmem => hback' (List.mem_append_left _ hmem)) hbody hmem
  · exact hinner htoken
  · exact (hbrace content (by simp [hcontent])).2 hstring

end Opening

/-! ## Entries -/

/-- Whether a character can stand in the name of a package: it stands for itself in a string, and
is no blank, no brace and no mark between the strings of a section. -/
def isBare (c : Char) : Bool :=
  isPlain c && !Text.isBlank c && !(['\x7b', '\x7d', ':', ','].contains c)

theorem isPlain_of_isBare {c : Char} (h : isBare c = true) : isPlain c = true := by
  simp only [isBare, Bool.and_eq_true] at h
  exact h.1.1

def IsBare (s : String) : Prop :=
  s ≠ "" ∧ ∀ c ∈ s.toList, isBare c = true

/-- No token of an entry begins with a character that can stand in a name. -/
theorem not_scan_of_isBare {c : Char} {cs : List Char} {ts : List Token} (hc : isBare c = true)
    (hback : '\\' ∉ cs) (hscan : Token.scan? (c :: cs) = some ts)
    (hmarks : ∀ token ∈ ts, token = .colon ∨ token = .comma ∨ ∃ content, token = .text content) :
    False := by
  have hspace : isSpace c = false := by
    refine Bool.eq_false_iff.2 fun hspace => ?_
    simp [isBare, Token.isBlank_of_isSpace hspace] at hc
  obtain ⟨token, left, later, hfirst, -, -, rfl⟩ := Token.exists_of_scan?_cons hspace hscan
  obtain rfl | rfl | ⟨content, rfl⟩ := hmarks token List.mem_cons_self
  · obtain ⟨rfl, -⟩ := Token.eq_of_first?_mark rfl hfirst
    exact absurd hc (by decide)
  · obtain ⟨rfl, -⟩ := Token.eq_of_first?_mark rfl hfirst
    exact absurd hc (by decide)
  · obtain ⟨rfl, -⟩ := Token.eq_of_first?_text hback hfirst
    exact absurd hc (by decide)

section Pair

variable {body here : List Char} {package content : String} {before after ts : List Token}

/-- Where an entry stands by its tokens, the editor can read it. -/
theorem exists_pair (hback : '\\' ∉ body) (hscan : Token.scan? body =
    some (before ++ .text package :: .colon :: .text content :: after)) :
    ∃ lead here, body = lead ++ here ∧ (pair? package.toList here).isSome := by
  obtain ⟨lead, rest, rfl, hrest⟩ := Token.exists_place hscan
  have hback' : '\\' ∉ rest := fun hmem => hback (List.mem_append_right _ hmem)
  obtain ⟨blanks, rest, rfl, -, -, hrest⟩ := Token.exists_text hback' hrest
  obtain ⟨blanks₁, rest, rfl, hblanks₁, hrest⟩ := Token.exists_mark rfl hrest
  obtain ⟨blanks₂, rest, rfl, hblanks₂, hplain, -⟩ :=
    Token.exists_text (fun hmem => hback' (by simp [hmem])) hrest
  refine ⟨lead ++ blanks, _, (List.append_assoc ..).symm, ?_⟩
  have hquote : ∀ c ∈ content.toList, (c != '"') = true := by
    intro c hc
    exact bne_iff_ne.2 (ne_of_mem_of_not_mem hc (Token.quote_not_mem_of_isPlain hplain))
  rw [pair?, key?_append package.toList _ hblanks₁ hblanks₂ (by decide)]
  simp [List.dropWhile_append_of_pos hquote]

/-- Where the editor reads an entry of a section, its tokens stand. -/
theorem pair_place {lead key spec rest : List Char} (hback : '\\' ∉ lead ++ here)
    (hscan : Token.scan? (lead ++ here) = some ts)
    (hmarks : ∀ token ∈ ts, token = .colon ∨ token = .comma ∨ ∃ content, token = .text content)
    (hpackage : IsBare package) (h : pair? package.toList here = some ((key, spec), rest)) :
    ∃ before content after,
      ts = before ++ .text package :: .colon :: .text content :: after ∧
        spec = content.toList ∧ (∀ c ∈ content.toList, isPlain c = true) ∧
        Token.scan? rest = some after := by
  simp only [pair?, Option.bind_eq_bind, Option.bind_eq_some_iff] at h
  obtain ⟨⟨key, more⟩, hkey, h⟩ := h
  obtain ⟨blanks, blanks', rfl, rfl, hblanks, hblanks'⟩ := exists_blanks_of_key? hkey
  split at h
  next value heq =>
    cases heq
    split at h
    next left hleft =>
      cases h
      have hvalue := List.takeWhile_append_dropWhile (p := (· != '"')) (l := value)
      rw [hleft] at hvalue
      have hspec : '"' ∉ value.takeWhile (· != '"') := fun hmem => by
        simpa using List.all_eq_true.1 List.all_takeWhile _ hmem
      obtain ⟨hne, hbare⟩ := hpackage
      have hquote : '"' ∉ package.toList := fun hmem => absurd (hbare _ hmem) (by decide)
      simp only [List.cons_append, List.append_assoc] at hback hscan
      obtain ⟨before, after, -, hafter, rfl⟩ | ⟨before, after, -, -, rfl, hafter, -⟩ :=
        Token.quoted_cases hback hquote hscan
      · obtain ⟨later, rfl, hlater⟩ := Token.exists_of_blanks_mark .colon rfl hblanks hafter
        obtain ⟨content, left, last, hcontent, hplain, rfl, hlast⟩ := Token.exists_text_of_quote
          (fun hmem => hback (by simp [hmem])) (Token.scan?_blanks_append hblanks' hlater)
        rw [← hvalue] at hcontent
        obtain ⟨heq, rfl⟩ := Token.eq_of_append_quote hspec
          (Token.quote_not_mem_of_isPlain hplain) hcontent
        exact ⟨before, content, last, rfl, heq, hplain, hlast⟩
      · -- the first mark ends a string, so a token would begin with the name
        cases hname : package.toList with
        | nil => exact absurd (String.toList_eq_nil_iff.1 hname) hne
        | cons c cs =>
          rw [hname] at hbare hback
          rw [hname, List.cons_append] at hafter
          exact (not_scan_of_isBare (hbare c List.mem_cons_self) (fun hmem => hback (by simp [hmem]))
            hafter fun token hmem => hmarks token (List.mem_append_right _ hmem)).elim
    next => cases h
  next => cases h

/-- If the entries of a section are strings, then there are no braces among its tokens. -/
theorem eq_of_mem_entries {entries : List (String × Json)} {token : Token}
    (htexts : ∀ entry ∈ entries, ∃ content, entry.2 = .text content)
    (h : token ∈ separated (entries.map memberTokens)) :
    token = .colon ∨ token = .comma ∨ ∃ content, token = .text content := by
  by_cases hcomma : token = .comma
  · exact .inr (.inl hcomma)
  · obtain ⟨group, hgroup, hmem⟩ := exists_mem_of_mem_separated hcomma h
    obtain ⟨entry, hentry, rfl⟩ := List.mem_map.1 hgroup
    obtain ⟨content, hcontent⟩ := htexts entry hentry
    rw [memberTokens, hcontent, tokens] at hmem
    simp only [List.mem_cons, List.not_mem_nil, or_false] at hmem
    obtain rfl | rfl | rfl := hmem <;> simp

/-- If the entries of a section are strings, then the editor finds one of the package there. -/
theorem exists_entry {entries : List (String × Json)} {item : Json} (hback : '\\' ∉ body)
    (hscan : Token.scan? body = some (separated (entries.map memberTokens)))
    (htexts : ∀ entry ∈ entries, ∃ content, entry.2 = .text content) (hpackage : IsBare package)
    (hentry : (package, item) ∈ entries) :
    ∃ lead key found rest front back,
      search (pair? package.toList) body = some (lead, (key, found.toList), rest) ∧
        (∀ c ∈ found.toList, isPlain c = true) ∧
        entries = front ++ (package, .text found) :: back ∧
        Token.scan? rest = some ((back.map memberTokens).flatMap (.comma :: ·)) := by
  obtain ⟨lead, here, rfl, hhere⟩ : ∃ lead here, body = lead ++ here ∧
      (pair? package.toList here).isSome := by
    obtain ⟨front, back, rfl⟩ := List.append_of_mem hentry
    obtain ⟨content, rfl⟩ := htexts _ hentry
    rw [List.map_append, List.map_cons, separated_append, memberTokens, tokens] at hscan
    exact exists_pair hback hscan
  obtain ⟨lead', ⟨key, spec⟩, rest, hsearch⟩ := exists_search lead hhere
  obtain ⟨here', hsame, hread⟩ := search_eq_some hsearch
  rw [hsame] at hback hscan
  obtain ⟨before, found, after, htokens, rfl, hplain, hrest⟩ :=
    pair_place hback hscan (fun _ => eq_of_mem_entries htexts) hpackage hread
  obtain ⟨front, back, rfl, rfl⟩ := exists_entry_of_separated htexts htokens
  refine ⟨lead', key, found, rest, front, back, hsearch, hplain, rfl, ?_⟩
  rw [List.map_append, List.map_cons, separated_append, List.append_cancel_left_eq, memberTokens,
    tokens] at htokens
  rw [hrest]
  cases htokens
  rfl

end Pair

/-! ## Regular manifests -/

/-- A manifest is regular at a section if no string of it has an escape or a brace, the section is
the only object in a member of its name, and the section's entries are strings with names of their
own. -/
structure IsRegular (m : Manifest) (dependencyType : String) : Prop where
  backslash_not_mem : '\\' ∉ m.content.toList
  brace_not_mem : ∀ content ∈ m.value.strings,
    '\x7b' ∉ content.toList ∧ '\x7d' ∉ content.toList
  exists_entries : ∃ entries, m.value.objectsAt dependencyType = [entries] ∧
    (entries.map Prod.fst).Nodup ∧ ∀ entry ∈ entries, ∃ content, entry.2 = .text content

/-- In a section that is closed the entry is looked for in front of the closing brace. -/
theorem Entry.find?_of_opening {heading package cs before opening body close : List Char}
    (hopening : search (opening? heading) cs = some (before, opening, body ++ '\x7d' :: close))
    (hbody : '\x7d' ∉ body) :
    find? heading package cs =
      (search (pair? package) body).map fun (lead, (key, spec), rest) =>
        ⟨before ++ opening ++ lead ++ key, spec, rest ++ '\x7d' :: close⟩ := by
  have hne : ∀ c ∈ body, (c != '\x7d') = true := fun c hc =>
    bne_iff_ne.2 (ne_of_mem_of_not_mem hc hbody)
  have htake : (body ++ '\x7d' :: close).takeWhile (· != '\x7d') = body := by
    rw [List.takeWhile_append_of_pos hne, List.takeWhile_cons]
    exact List.append_nil body
  have hdrop : (body ++ '\x7d' :: close).dropWhile (· != '\x7d') = '\x7d' :: close := by
    rw [List.dropWhile_append_of_pos hne, List.dropWhile_cons]
    rfl
  simp only [find?, hopening, Option.bind_eq_bind, Option.bind_some, htake, hdrop]
  cases search (pair? package) body <;> rfl

theorem Entry.find?_of_searches {heading package cs before opening body close lead key spec rest :
    List Char}
    (hopening : search (opening? heading) cs = some (before, opening, body ++ '\x7d' :: close))
    (hbody : '\x7d' ∉ body)
    (hpair : search (pair? package) body = some (lead, (key, spec), rest)) :
    find? heading package cs =
      some ⟨before ++ opening ++ lead ++ key, spec, rest ++ '\x7d' :: close⟩ := by
  rw [find?_of_opening hopening hbody, hpair]
  rfl

section Regular

variable {m : Manifest} {dependencyType package spec : String}

theorem scan?_content (m : Manifest) :
    Token.scan? m.content.toList = some m.value.tokens ∧ ofTokens? m.value.tokens = some m.value :=
  tokens_of_ofChars? m.read_content

theorem exists_of_specOf (hspec : m.specOf dependencyType package = some spec) :
    ∃ front entries back, m.value = .object (front ++ (dependencyType, .object entries) :: back) ∧
      lookup? dependencyType back = none ∧ lookup? package entries = some (.text spec) := by
  rw [specOf_eq_textAt?, textAt?, Option.bind_eq_some_iff] at hspec
  obtain ⟨item, hitem, htext⟩ := hspec
  obtain ⟨found, hfound, hmember⟩ := Option.bind_eq_some_iff.1 hitem
  obtain rfl : item = .text spec := by
    cases item <;> cases htext
    rfl
  cases hvalue : m.value with
  | object members =>
    rw [hvalue] at hfound
    obtain ⟨front, back, rfl, hback⟩ := exists_of_lookup? hfound
    cases found with
    | object entries => exact ⟨front, entries, back, rfl, hback, hmember⟩
    | _ => cases hmember
  | _ =>
    rw [hvalue] at hfound
    cases hfound

/-- The editor finds the entry of a package in the one section of a text, with the tokens behind it
in that section. -/
theorem exists_find? {cs : List Char} {before after ts : List Token}
    {entries : List (String × Json)} (hback : '\\' ∉ cs) (hscan : Token.scan? cs = some ts)
    (htokens : ts = before ++ .text dependencyType :: .colon :: .openBrace ::
      (separated (entries.map memberTokens) ++ .closeBrace :: after))
    (hone : openings dependencyType ts ≤ 1)
    (hbrace : ∀ content, .text content ∈ ts → '\x7b' ∉ content.toList ∧ '\x7d' ∉ content.toList)
    (hnodup : (entries.map Prod.fst).Nodup)
    (htexts : ∀ entry ∈ entries, ∃ content, entry.2 = .text content) (hpackage : IsBare package)
    (hlookup : lookup? package entries = some (.text spec)) :
    ∃ e front back, Entry.find? dependencyType.toList package.toList cs = some e ∧
      e.spec = spec.toList ∧ (∀ c ∈ e.spec, isPlain c = true) ∧
      entries = front ++ (package, .text spec) :: back ∧ lookup? package back = none ∧
      Token.scan? e.after =
        some ((back.map memberTokens).flatMap (.comma :: ·) ++ .closeBrace :: after) := by
  have hinner : .closeBrace ∉ separated (entries.map memberTokens) := by
    intro hmem
    simpa using eq_of_mem_entries htexts hmem
  obtain ⟨front, opening, body, close, hopening, hbody, hclose, hend⟩ :=
    exists_section hback hscan htokens hone hbrace hinner
  have hback' : '\\' ∉ body := by
    obtain ⟨here, rfl, hhere⟩ := search_eq_some hopening
    rw [opening?_eq_some hhere] at hback
    exact fun hmem => hback (by simp [hmem])
  obtain ⟨_, _, hentries, -⟩ := exists_of_lookup? hlookup
  have hentry : (package, .text spec) ∈ entries := by simp [hentries]
  obtain ⟨lead, key, found, rest, members, later, hpair, hplain, rfl, hrest⟩ :=
    exists_entry hback' hbody htexts hpackage hentry
  -- names are distinct, so the entry that is found is the one that counts
  have hlater : lookup? package later = none := by
    refine lookup?_eq_none fun hmem => ?_
    rw [List.map_append, List.map_cons, List.nodup_append] at hnodup
    exact (List.nodup_cons.1 hnodup.2.1).1 hmem
  obtain rfl : found = spec := by
    rw [lookup?_append, lookup?, hlater] at hlookup
    simpa using hlookup
  refine ⟨_, members, later, Entry.find?_of_searches hopening hend hpair, rfl, hplain, rfl, hlater,
    ?_⟩
  rw [Token.scan?_append rfl hrest, Token.scan?_mark .closeBrace rfl, hclose]
  rfl

/-- An entry is read if the tokens behind its value are those that are behind the value of the
member of the section. -/
theorem Entry.isRead_of_find? {e : Entry} {front back members later : List (String × Json)}
    (hback : '\\' ∉ m.content.toList)
    (hfind : find? dependencyType.toList package.toList m.content.toList = some e)
    (hcontent : e.spec = spec.toList) (hplain : ∀ c ∈ e.spec, isPlain c = true)
    (hvalue : m.value = .object (front ++
      (dependencyType, .object (members ++ (package, .text spec) :: later)) :: back))
    (hlater : lookup? package later = none) (hlast : lookup? dependencyType back = none)
    (hafter : Token.scan? e.after = some ((later.map memberTokens).flatMap (.comma :: ·) ++
      .closeBrace :: ((back.map memberTokens).flatMap (.comma :: ·) ++ [.closeBrace]))) :
    e.IsRead m.value dependencyType package spec := by
  obtain ⟨hscan, htokens⟩ := m.scan?_content
  rw [hvalue, tokens_member_of_member] at hscan htokens
  have hstring : ∀ rest, Token.scan? ('"' :: (e.spec ++ '"' :: rest)) =
      (Token.scan? rest).map (.text spec :: ·) := by
    intro rest
    rw [Token.scan?_plain hplain, hcontent, String.ofList_toList]
  -- the tokens in front of the value are what is left of all tokens
  have hbefore : Token.scan? e.before = some ((Frame.object front.reverse dependencyType).tokens ++
      (Frame.object members.reverse package).tokens) := by
    rw [← (isAt_of_find? hfind).text_eq, text, withSpec, List.append_assoc, List.cons_append]
      at hback hscan
    refine Token.scan?_of_append (fun hmem => hback (List.mem_append_left _ hmem)) rfl hscan ?_
    rw [hstring, hafter, tokens]
    simp
  rw [ofTokens?, Option.bind_eq_bind, Option.bind_eq_some_iff] at htokens
  obtain ⟨r, hsteps, -⟩ := htokens
  have hpasses := (Reading.passes_object front dependencyType []).append
    (Reading.passes_object members package _)
  refine ⟨_, _, fun item =>
    .object (front ++ (dependencyType, .object (members ++ (package, item) :: later)) :: back),
    hbefore, hpasses.steps_eq hsteps, ?_, ?_, hvalue⟩
  · exact ⟨members.reverse, front.reverse, later, back, rfl, by simp, hlater, hlast⟩
  · rw [hstring, Token.scan?_nil]
    rfl

/-- In a regular manifest, the editor finds the entry that the reader reads. -/
theorem IsRegular.exists_isRead (hregular : m.IsRegular dependencyType)
    (hspec : m.specOf dependencyType package = some spec) (hpackage : IsBare package) :
    ∃ e, Entry.find? dependencyType.toList package.toList m.content.toList = some e ∧
      e.IsRead m.value dependencyType package spec ∧ e.spec = spec.toList := by
  obtain ⟨hback, hbrace, _, hone, hnodup, htexts⟩ := hregular
  obtain ⟨front, entries, back, hvalue, hlast, hlookup⟩ := exists_of_specOf hspec
  obtain rfl : entries = _ := by
    rw [← List.mem_singleton, ← hone, hvalue, objectsAt_object]
    exact List.mem_append_left _ (List.mem_filterMap.2
      ⟨(dependencyType, .object entries), by simp, by simp [objectOf?, entries?]⟩)
  obtain ⟨hscan, -⟩ := m.scan?_content
  have hopenings : openings dependencyType m.value.tokens ≤ 1 := by
    rw [openings_tokens_eq, hone]
    exact Nat.le_refl 1
  have hstrings := fun content hmem => hbrace content (mem_strings_of_mem_tokens hmem)
  obtain ⟨e, members, later, hfind, hcontent, hplain, rfl, hlater, hafter⟩ :=
    exists_find? hback hscan (by rw [hvalue, tokens_member]) hopenings hstrings hnodup htexts
      hpackage hlookup
  exact ⟨e, hfind, Entry.isRead_of_find? hback hfind hcontent hplain hvalue hlater hlast hafter,
    hcontent⟩

end Regular

/-! ## Names and versions -/

/-- The codes of the characters that stand for themselves in a string but in no name of a package,
in ranges. -/
def gaps : List (Nat × Nat) :=
  [(0x20, 0x20), (0x2C, 0x2C), (0x3A, 0x3A), (0x7B, 0x7B), (0x7D, 0x7D), (0x85, 0x85), (0xA0, 0xA0),
    (0x1680, 0x1680), (0x2000, 0x200A), (0x2028, 0x2029), (0x202F, 0x202F), (0x205F, 0x205F),
    (0x3000, 0x3000)]

theorem isBare_of_not_isWithin {c : Char} (hplain : isPlain c = true)
    (hgaps : Text.isWithin gaps c = false) : isBare c = true := by
  have hlow : 0x20 ≤ c.toNat := by
    simp only [isPlain, Bool.and_eq_true, decide_eq_true_eq] at hplain
    exact hplain.2
  have hmark : ∀ mark : Char, Text.isWithin gaps mark = true → c ≠ mark := by
    rintro mark hmark rfl
    rw [hgaps] at hmark
    cases hmark
  have hblank : Text.isBlank c = false := by
    simp [Text.isWithin, gaps, Text.isBlank] at hgaps ⊢
    omega
  simp [isBare, hplain, hblank, hmark '\x7b' (by decide), hmark '\x7d' (by decide),
    hmark ':' (by decide), hmark ',' (by decide)]

theorem isBare_of_isWord {c : Char} (h : Text.isWord c = true) : isBare c = true := by
  have hapart : ∀ range ∈ Text.wordRanges, ∀ gap ∈ gaps, range.2 < gap.1 ∨ gap.2 < range.1 := by
    decide +kernel
  refine isBare_of_not_isWithin (Text.isPlain_of_isWord h) (Bool.eq_false_iff.2 fun hgap => ?_)
  obtain ⟨range, hrange, hword⟩ := List.any_eq_true.1 h
  obtain ⟨gap, hgap, hwithin⟩ := List.any_eq_true.1 hgap
  have hdisjoint := hapart range hrange gap hgap
  simp only [Bool.and_eq_true, decide_eq_true_eq] at hword hwithin
  omega

theorem isBare_of_isAlphanum {c : Char} (h : c.isAlphanum = true) : isBare c = true := by
  refine isBare_of_not_isWithin (isPlain_of_isAlphanum h) ?_
  unfold Char.isAlphanum Char.isAlpha Char.isUpper Char.isLower Char.isDigit at h
  simp only [Bool.or_eq_true, Bool.and_eq_true, decide_eq_true_eq, ge_iff_le,
    UInt32.le_iff_toNat_le] at h
  have hfirst : '0'.val.toNat = 48 ∧ 'A'.val.toNat = 65 ∧ 'a'.val.toNat = 97 := by decide
  have hlast : '9'.val.toNat = 57 ∧ 'Z'.val.toNat = 90 ∧ 'z'.val.toNat = 122 := by decide
  have hcode : c.toNat = c.val.toNat := rfl
  simp [Text.isWithin, gaps]
  omega

theorem isBare_of_isIdentifier {extra cs : List Char} (hextra : extra.all isBare = true)
    (h : PackageTool.isIdentifier extra cs = true) : cs ≠ [] ∧ ∀ c ∈ cs, isBare c = true := by
  cases cs with
  | nil => cases h
  | cons first rest =>
    simp only [PackageTool.isIdentifier, Bool.and_eq_true, List.all_eq_true, Bool.or_eq_true,
      List.contains_iff_mem] at h
    obtain ⟨hfirst, hrest⟩ := h
    refine ⟨by simp, List.forall_mem_cons.2 ⟨isBare_of_isAlphanum hfirst, fun c hc => ?_⟩⟩
    exact (hrest c hc).elim isBare_of_isWord (List.all_eq_true.1 hextra c)

theorem isBare_of_isPackageName {cs : List Char} (h : PackageTool.isPackageName cs = true) :
    cs ≠ [] ∧ ∀ c ∈ cs, isBare c = true := by
  unfold PackageTool.isPackageName at h
  split at h
  next rest =>
    obtain ⟨hscope, hname⟩ := Bool.and_eq_true_iff.1 h
    have hscope := (isBare_of_isIdentifier (by decide) hscope).2
    obtain ⟨hne, hname⟩ := isBare_of_isIdentifier (by decide) hname
    refine ⟨by simp, List.forall_mem_cons.2 ⟨by decide, ?_⟩⟩
    rw [← List.takeWhile_append_dropWhile (p := (· != '/')) (l := rest)]
    refine List.forall_mem_append.2 ⟨hscope, ?_⟩
    have hslash := List.head?_dropWhile_not (· != '/') rest
    cases hdrop : rest.dropWhile (· != '/') with
    | nil => simp
    | cons slash name =>
      rw [hdrop] at hname hslash
      obtain rfl : slash = '/' := by simpa using hslash
      exact List.forall_mem_cons.2 ⟨by decide, hname⟩
  next => exact isBare_of_isIdentifier (by decide) h

/-- What a tool is asked for is a name and a version that the editor can write. -/
theorem isBare_of_argument {tool : PackageTool} {package version argument : String}
    (h : tool.argument package version = .ok argument) : IsBare package ∧ IsBare version := by
  simp only [PackageTool.argument] at h
  split at h
  next => cases h
  next hpackage =>
    split at h
    next => cases h
    next hversion =>
      obtain ⟨hne, hbare⟩ := isBare_of_isPackageName (by simpa using hpackage)
      have hversion : PackageTool.isVersionArgument version.toList = true := by simpa using hversion
      obtain ⟨hne', hbare'⟩ := isBare_of_isIdentifier (by decide) hversion
      exact ⟨⟨by simpa using hne, hbare⟩, by simpa using hne', hbare'⟩

/-! ## Edits -/

/-- An edit of a regular manifest changes one string. Where a version is set, the operator of the
old requirement stays; where a requirement is declared, it takes the old one's place. What a tool is
asked for can be written. -/
theorem edits_of_isRegular (m : Manifest) (dependencyType package spec : String)
    (hregular : m.IsRegular dependencyType)
    (hspec : m.specOf dependencyType package = some spec) (hpackage : IsBare package) :
    (∀ version : String, (∀ c ∈ version.toList, isPlain c = true) →
      ∃ m', m.setVersion dependencyType package version = .ok m' ∧
        DiffersAt dependencyType package spec
          (.ofList (Requirement.ofSpec spec.toList).operator ++ version) m.value m'.value) ∧
    (∀ spec' : String, (∀ c ∈ spec'.toList, isPlain c = true) →
      ∃ m', m.setSpec dependencyType package spec' = .ok m' ∧
        DiffersAt dependencyType package spec spec' m.value m'.value) ∧
    ∀ (tool : PackageTool) (package version argument : String),
      tool.argument package version = .ok argument → IsBare package ∧ IsBare version := by
  obtain ⟨e, hfind, hread, hcontent⟩ := hregular.exists_isRead hspec hpackage
  refine ⟨fun version hversion => ?_, fun spec' hspec' => ?_,
    fun tool package version argument => isBare_of_argument⟩
  · have hplain := List.forall_mem_append.2 ⟨Requirement.isPlain_operator e.spec, hversion⟩
    obtain ⟨m', hparse, hdiffers⟩ := hread.differsAt hfind hplain
    rw [String.ofList_append, String.ofList_toList, hcontent] at hdiffers
    exact ⟨m', (setVersion_of_find? hfind version).trans hparse, hdiffers⟩
  · obtain ⟨m', hparse, hdiffers⟩ := hread.differsAt hfind hspec'
    rw [String.ofList_toList] at hdiffers
    exact ⟨m', (setSpec_of_find? hfind spec').trans hparse, hdiffers⟩

/-- A manifest in which the names of a section and of a package stand at other places as well. -/
def busyPackage : Manifest :=
  ⟨"package.json",
    "\x7b\"name\": \"dependencies\",\n\"scripts\": \x7b\"lodash\": \"1\"\x7d,\n" ++
      "\"dependencies\": \x7b\"react\": \"lodash\", \"lodash\" : \"^4.17.20\"\x7d\x7d\n",
    .object [("name", .text "dependencies"), ("scripts", .object [("lodash", .text "1")]),
      ("dependencies", .object [("react", .text "lodash"), ("lodash", .text "^4.17.20")])], by cbv⟩

theorem edits_busyPackage :
    busyPackage.IsRegular "dependencies" ∧
      busyPackage.specOf "dependencies" "lodash" = some "^4.17.20" ∧ IsBare "lodash" ∧
      ∃ m', busyPackage.setVersion "dependencies" "lodash" "4.17.21" = .ok m' ∧
        DiffersAt "dependencies" "lodash" "^4.17.20" "^4.17.21" busyPackage.value m'.value := by
  have hregular : busyPackage.IsRegular "dependencies" := by
    refine ⟨by decide +kernel, ?_, [("react", .text "lodash"), ("lodash", .text "^4.17.20")], ?_,
      by simp, by simp⟩
    · simp [busyPackage, strings_object, strings_text]
    · simp [busyPackage, objectsAt_object, objectsAt_text, objectOf?, entries?]
  have hspec : busyPackage.specOf "dependencies" "lodash" = some "^4.17.20" := by cbv
  have hbare : IsBare "lodash" := ⟨by decide, List.all_eq_true.1 (by decide +kernel)⟩
  refine ⟨hregular, hspec, hbare, ?_⟩
  obtain ⟨hversion, -⟩ := edits_of_isRegular busyPackage _ _ _ hregular hspec hbare
  exact hversion "4.17.21" (List.all_eq_true.1 (by decide +kernel))

/-! ## Edits one after another -/

section Edits

variable {m m' : Manifest} {dependencyType package spec : String}

/-- Whatever is written for an entry's value, the manifest stays regular. -/
theorem IsRegular.of_withSpec {e : Entry} {content : List Char}
    (hregular : m.IsRegular dependencyType)
    (hfind : Entry.find? dependencyType.toList package.toList m.content.toList = some e)
    (hplain : ∀ c ∈ content, isPlain c = true) (hbrace : '\x7b' ∉ content ∧ '\x7d' ∉ content)
    (hparse : parse m.path (.ofList (e.withSpec content)) = .ok m')
    (hdiffers : DiffersAt dependencyType package spec (.ofList content) m.value m'.value) :
    m'.IsRegular dependencyType := by
  obtain ⟨hback, hbraces, entries, hone, hnodup, htexts⟩ := hregular
  obtain ⟨front, back, rfl, hone'⟩ := objectsAt_of_differsAt hdiffers hone
  refine ⟨?_, fun found hfound => ?_, _, hone', ?_, ?_⟩
  · have hcontent : '\\' ∉ content := fun hmem => absurd (hplain _ hmem) (by decide)
    rw [(parse_eq_ok_iff.1 hparse).2, String.toList_ofList]
    rw [← (Entry.isAt_of_find? hfind).text_eq] at hback
    simp only [Entry.text, Entry.withSpec, List.mem_append, List.mem_cons, not_or] at hback ⊢
    exact ⟨⟨hback.1.1, hback.1.2.1, hcontent⟩, hback.2⟩
  · obtain rfl | hfound := mem_strings_of_differsAt hdiffers hfound
    · rwa [String.toList_ofList]
    · exact hbraces found hfound
  · simpa using hnodup
  · rw [List.forall_mem_append, List.forall_mem_cons] at htexts ⊢
    exact ⟨htexts.1, ⟨_, rfl⟩, htexts.2.2⟩

theorem isBare_of_operator (spec : List Char) :
    ∀ c ∈ (Requirement.ofSpec spec).operator, isBare c = true := by
  have hall : ([] :: Requirement.operators).all (·.all isBare) = true := by decide
  exact List.all_eq_true.1 (List.all_eq_true.1 hall _ (Requirement.operator_mem spec))

/-- A version can be set, and further ones after it. -/
theorem IsRegular.exists_setVersion {version : String} (hregular : m.IsRegular dependencyType)
    (hdeclared : (m.specOf dependencyType package).isSome) (hpackage : IsBare package)
    (hversion : IsBare version) :
    ∃ m', m.setVersion dependencyType package version = .ok m' ∧ m'.IsRegular dependencyType ∧
      (m'.specOf dependencyType package).isSome ∧
      ∀ dependencyType' package', (dependencyType', package') ≠ (dependencyType, package) →
        m'.specOf dependencyType' package' = m.specOf dependencyType' package' := by
  obtain ⟨spec, hspec⟩ := Option.isSome_iff_exists.1 hdeclared
  obtain ⟨e, hfind, hread, -⟩ := hregular.exists_isRead hspec hpackage
  have hbare := List.forall_mem_append.2 ⟨isBare_of_operator e.spec, hversion.2⟩
  have hplain := fun c hc => isPlain_of_isBare (hbare c hc)
  obtain ⟨m', hparse, hdiffers⟩ := hread.differsAt hfind hplain
  obtain ⟨hset, hsame⟩ := textAt?_of_differsAt hdiffers
  simp only [← specOf_eq_textAt?] at hset hsame
  refine ⟨m', (setVersion_of_find? hfind version).trans hparse, ?_, by rw [hset]; rfl, hsame⟩
  refine hregular.of_withSpec hfind hplain ⟨fun hmem => ?_, fun hmem => ?_⟩ hparse hdiffers
  · exact absurd (hbare _ hmem) (by decide)
  · exact absurd (hbare _ hmem) (by decide)

/-- In a regular manifest, versions can be set for any packages of the section, one after another,
and what is declared for all other packages stays. -/
theorem IsRegular.exists_setVersions {edits : List (String × String)}
    (hregular : m.IsRegular dependencyType)
    (hdeclared : ∀ edit ∈ edits, (m.specOf dependencyType edit.1).isSome)
    (hedits : ∀ edit ∈ edits, IsBare edit.1 ∧ IsBare edit.2) :
    ∃ m', edits.foldlM (fun m edit => m.setVersion dependencyType edit.1 edit.2) m = .ok m' ∧
      m'.IsRegular dependencyType ∧
      ∀ dependencyType' package',
        (∀ edit ∈ edits, (dependencyType', package') ≠ (dependencyType, edit.1)) →
          m'.specOf dependencyType' package' = m.specOf dependencyType' package' := by
  induction edits generalizing m with
  | nil => exact ⟨m, rfl, hregular, fun _ _ _ => rfl⟩
  | cons edit edits ih =>
    obtain ⟨hfirst, hdeclared⟩ := List.forall_mem_cons.1 hdeclared
    obtain ⟨⟨hpackage, hversion⟩, hedits⟩ := List.forall_mem_cons.1 hedits
    obtain ⟨m₁, hset, hregular₁, hagain, hsame₁⟩ :=
      hregular.exists_setVersion hfirst hpackage hversion
    -- the next packages are still declared, whether or not one of them was just edited
    have hdeclared₁ : ∀ edit' ∈ edits, (m₁.specOf dependencyType edit'.1).isSome := by
      intro edit' hedit'
      by_cases hname : edit'.1 = edit.1
      · rwa [hname]
      · rw [hsame₁ _ _ (by simp [hname])]
        exact hdeclared edit' hedit'
    obtain ⟨m', hrest, hregular', hsame'⟩ := ih hregular₁ hdeclared₁ hedits
    refine ⟨m', ?_, hregular', fun dependencyType' package' hother => ?_⟩
    · rw [List.foldlM_cons, hset]
      exact hrest
    · obtain ⟨hother₁, hother⟩ := List.forall_mem_cons.1 hother
      rw [hsame' _ _ hother, hsame₁ _ _ hother₁]

/-- In a regular manifest, what is declared can be declared again, and nothing changes. -/
theorem IsRegular.setSpec_of_specOf (hregular : m.IsRegular dependencyType)
    (hspec : m.specOf dependencyType package = some spec) (hpackage : IsBare package) :
    m.setSpec dependencyType package spec = .ok m := by
  obtain ⟨e, hfind, -, hcontent⟩ := hregular.exists_isRead hspec hpackage
  have htext : e.withSpec e.spec = m.content.toList := (Entry.isAt_of_find? hfind).text_eq
  rw [setSpec_of_find? hfind, ← hcontent, htext, String.ofList_toList]
  exact parse_eq_ok_iff.2 ⟨rfl, rfl⟩

end Edits

end Patchwise.Manifest

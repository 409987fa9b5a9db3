import Mathlib.Data.List.Basic
import Patchwise.Proofs.Json.Scan
import Patchwise.Proofs.Json.Wording

/-!
# Where tokens stand

The places of tokens in a text without backslashes. In such a text a string is its own content, so
that the place of a token can be told from the characters there, and the tokens in front of a place
from the characters in front of it.

## Main definitions

- `Json.Token.mark?` — the character that a token of one character is

## Main results

- `Json.Token.exists_place` — each token of a text stands somewhere in it
- `Json.Token.scan?_of_append` — the tokens in front of a place
- `Json.Token.quote_cases` — a quotation mark begins a string or ends one
- `Json.Token.mem_of_mark_mem` — a brace in a text is a token or stands in a string
-/

namespace Patchwise.Json

namespace Token

variable {c : Char} {cs rest left : List Char} {token : Token} {ts : List Token}

/-! ## The first token -/

def mark? : Token → Option Char
  | openBrace => some '\x7b'
  | closeBrace => some '\x7d'
  | openBracket => some '['
  | closeBracket => some ']'
  | comma => some ','
  | colon => some ':'
  | _ => none

/-- The first token is a mark, a string, or a scalar that is read from the token itself. -/
theorem first?_cases (h : first? c rest = some (token, left)) :
    (token.mark? = some c ∧ left = rest) ∨
      (∃ raw content, c = '"' ∧ rawString? rest = some (raw, left) ∧
        unescape? none raw = some content ∧ token = .text (.ofList content)) ∨
      ∃ value, token = .scalar value ∧ value.tokens = [.scalar value] := by
  unfold first? at h
  split at h
  -- behind the six marks there are the string, the three words and the number
  case h_7 =>
    simp only [Option.bind_eq_bind, Option.bind_eq_some_iff] at h
    obtain ⟨⟨raw, after⟩, hraw, content, hcontent, heq⟩ := h
    cases heq
    exact .inr (.inl ⟨raw, content, rfl, hraw, hcontent, rfl⟩)
  case h_8 | h_9 | h_10 =>
    obtain ⟨_, -, heq⟩ := Option.map_eq_some_iff.1 h
    cases heq
    exact .inr (.inr ⟨_, rfl, by rw [tokens] <;> simp⟩)
  case h_11 =>
    simp only [Option.bind_eq_bind, Option.bind_eq_some_iff] at h
    obtain ⟨_, -, _, -, heq⟩ := h
    cases heq
    exact .inr (.inr ⟨_, rfl, by rw [tokens] <;> simp⟩)
  all_goals
    cases h
    exact .inl ⟨rfl, rfl⟩

theorem isScalar_of_first? (h : first? c rest = some (token, left)) : token.IsScalar := by
  rintro value rfl
  obtain ⟨hmark, -⟩ | ⟨_, _, -, -, -, htoken⟩ | ⟨_, htoken, hvalue⟩ := first?_cases h
  · cases hmark
  · cases htoken
  · cases htoken
    exact hvalue

theorem eq_of_first?_mark {mark : Char} (hmark : token.mark? = some mark)
    (h : first? c rest = some (token, left)) : c = mark ∧ left = rest := by
  obtain ⟨hc, hleft⟩ | ⟨_, _, -, -, -, rfl⟩ | ⟨_, rfl, -⟩ := first?_cases h
  · exact ⟨Option.some.inj (hc.symm.trans hmark), hleft⟩
  · cases hmark
  · cases hmark

theorem eq_of_unescape? {raw content : List Char} (hback : '\\' ∉ raw)
    (h : unescape? none raw = some content) : content = raw ∧ ∀ c ∈ raw, 0x20 ≤ c.toNat := by
  induction raw generalizing content with
  | nil =>
    cases h
    exact ⟨rfl, by simp⟩
  | cons c raw ih =>
    obtain ⟨hc, hraw⟩ := List.ne_and_not_mem_of_not_mem_cons hback
    rw [unescape?] at h
    · split at h
      next => cases h
      next hlow =>
        obtain ⟨more, hmore, rfl⟩ := Option.map_eq_some_iff.1 h
        obtain ⟨rfl, hplain⟩ := ih hraw hmore
        simp only [Bool.or_eq_true, decide_eq_true_eq, not_or, Nat.not_lt] at hlow
        exact ⟨rfl, List.forall_mem_cons.2 ⟨hlow.2, hplain⟩⟩
    · rintro a b d e more rfl
      exact absurd rfl hc
    · rintro d more rfl
      exact absurd rfl hc

theorem quote_not_mem_of_rawString? {raw : List Char} (hback : '\\' ∉ cs)
    (h : rawString? cs = some (raw, rest)) : '"' ∉ raw := by
  induction cs using rawString?.induct generalizing raw with
  | case1 => cases h
  | case2 =>
    cases h
    simp
  | case3 c cs ih => exact absurd List.mem_cons_self hback
  | case4 c cs hquote hpair ih =>
    rw [rawString?_cons hquote hpair] at h
    obtain ⟨⟨raw, rest⟩, hrest, heq⟩ := Option.map_eq_some_iff.1 h
    cases heq
    exact List.not_mem_cons_of_ne_of_not_mem (Ne.symm hquote)
      (ih (List.not_mem_of_not_mem_cons hback) hrest)

theorem quote_not_mem_of_isPlain (h : ∀ d ∈ cs, isPlain d = true) : '"' ∉ cs :=
  fun hmem => absurd (h _ hmem) (by decide)

/-- A string is its own content. -/
theorem eq_of_first?_text {content : String} (hback : '\\' ∉ rest)
    (h : first? c rest = some (.text content, left)) :
    c = '"' ∧ rest = content.toList ++ '"' :: left ∧
      ∀ d ∈ content.toList, isPlain d = true := by
  obtain ⟨hmark, -⟩ | ⟨raw, decoded, rfl, hraw, hdecoded, htoken⟩ | ⟨_, htoken, -⟩ :=
    first?_cases h
  · cases hmark
  · cases htoken
    have hrest := eq_of_rawString? hraw
    have hback' : '\\' ∉ raw := by
      rw [hrest] at hback
      exact fun hmem => hback (List.mem_append_left _ hmem)
    have hquote := quote_not_mem_of_rawString? hback hraw
    obtain ⟨rfl, hlow⟩ := eq_of_unescape? hback' hdecoded
    rw [String.toList_ofList]
    refine ⟨rfl, hrest, fun d hd => ?_⟩
    simp [isPlain, hlow d hd, ne_of_mem_of_not_mem hd hquote, ne_of_mem_of_not_mem hd hback']
  · cases htoken

theorem suffix_of_first? (h : first? c rest = some (token, left))
    (hlength : left.length ≤ rest.length) : left <:+ rest := by
  by_cases hquote : c = '"'
  · subst hquote
    cases hraw : rawString? rest with
    | none =>
      rw [first?_quote_eq_none hraw] at h
      cases h
    | some found =>
      obtain ⟨raw, after⟩ := found
      rw [first?_quote hraw] at h
      obtain ⟨content, -, heq⟩ := Option.map_eq_some_iff.1 h
      cases heq
      exact ⟨raw ++ ['"'], by rw [eq_of_rawString? hraw]; simp⟩
  · obtain ⟨used, rfl, -⟩ := first?_takes hquote h hlength
    exact List.suffix_append used left

theorem isBlank_of_isSpace (h : isSpace c = true) : Text.isBlank c = true := by
  simp only [isSpace, Bool.or_eq_true, beq_iff_eq] at h
  obtain ((rfl | rfl) | rfl) | rfl := h <;> rfl

/-- The first token stands behind nothing but blanks. -/
theorem exists_first (h : scan? cs = some (token :: ts)) :
    ∃ blanks c rest left, cs = blanks ++ c :: rest ∧ (∀ d ∈ blanks, Text.isBlank d = true) ∧
      first? c rest = some (token, left) ∧ left <:+ rest ∧ scan? left = some ts := by
  induction cs with
  | nil => cases scan?_nil.symm.trans h
  | cons c cs ih =>
    cases hspace : isSpace c with
    | true =>
      rw [scan?_space hspace] at h
      obtain ⟨blanks, d, rest, left, rfl, hblanks, hfirst⟩ := ih h
      exact ⟨c :: blanks, d, rest, left, rfl,
        List.forall_mem_cons.2 ⟨isBlank_of_isSpace hspace, hblanks⟩, hfirst⟩
    | false =>
      obtain ⟨_, left, _, hfirst, hlength, hleft, heq⟩ := exists_of_scan?_cons hspace h
      cases heq
      exact ⟨[], c, cs, left, rfl, by simp, hfirst, suffix_of_first? hfirst hlength, hleft⟩

theorem exists_mark {mark : Char} (hmark : token.mark? = some mark)
    (h : scan? cs = some (token :: ts)) :
    ∃ blanks rest, cs = blanks ++ mark :: rest ∧ (∀ d ∈ blanks, Text.isBlank d = true) ∧
      scan? rest = some ts := by
  obtain ⟨blanks, c, rest, left, rfl, hblanks, hfirst, -, hleft⟩ := exists_first h
  obtain ⟨rfl, rfl⟩ := eq_of_first?_mark hmark hfirst
  exact ⟨blanks, left, rfl, hblanks, hleft⟩

theorem exists_text {content : String} (hback : '\\' ∉ cs)
    (h : scan? cs = some (.text content :: ts)) :
    ∃ blanks rest, cs = blanks ++ '"' :: (content.toList ++ '"' :: rest) ∧
      (∀ d ∈ blanks, Text.isBlank d = true) ∧ (∀ d ∈ content.toList, isPlain d = true) ∧
      scan? rest = some ts := by
  obtain ⟨blanks, c, rest, left, rfl, hblanks, hfirst, -, hleft⟩ := exists_first h
  have hrest : '\\' ∉ rest := fun hmem => hback (by simp [hmem])
  obtain ⟨rfl, rfl, hplain⟩ := eq_of_first?_text hrest hfirst
  exact ⟨blanks, left, rfl, hblanks, hplain, hleft⟩

theorem exists_text_of_quote (hback : '\\' ∉ rest) (h : scan? ('"' :: rest) = some ts) :
    ∃ content left later, rest = content.toList ++ '"' :: left ∧
      (∀ d ∈ content.toList, isPlain d = true) ∧ ts = .text content :: later ∧
      scan? left = some later := by
  obtain ⟨token, left, later, hfirst, -, hlater, rfl⟩ := exists_of_scan?_cons rfl h
  cases hraw : rawString? rest with
  | none =>
    rw [first?_quote_eq_none hraw] at hfirst
    cases hfirst
  | some found =>
    have hstring := hfirst
    rw [first?_quote hraw] at hstring
    obtain ⟨decoded, -, heq⟩ := Option.map_eq_some_iff.1 hstring
    cases heq
    obtain ⟨-, hrest, hplain⟩ := eq_of_first?_text hback hfirst
    exact ⟨_, _, later, hrest, hplain, rfl, hlater⟩

theorem scan?_mark {mark : Char} (token : Token) (hmark : token.mark? = some mark)
    (rest : List Char) :
    scan? (mark :: rest) = (scan? rest).map (token :: ·) := by
  have hfirst : isSpace mark = false ∧ first? mark rest = some (token, rest) := by
    cases token <;> cases hmark <;> exact ⟨rfl, rfl⟩
  rw [scan?_cons hfirst.1, hfirst.2]
  simp

theorem exists_of_blanks_mark {mark : Char} (token : Token) (hmark : token.mark? = some mark)
    {blanks : List Char} (hblanks : ∀ d ∈ blanks, Text.isBlank d = true)
    (h : scan? (blanks ++ mark :: rest) = some ts) :
    ∃ later, ts = token :: later ∧ scan? rest = some later := by
  have hmarked := scan?_blanks_append hblanks h
  rw [scan?_mark token hmark] at hmarked
  obtain ⟨later, hlater, rfl⟩ := Option.map_eq_some_iff.1 hmarked
  exact ⟨later, rfl, hlater⟩

theorem isInert_of_mark {mark : Char} (hmark : token.mark? = some mark) :
    isInert mark = true ∧ mark ≠ '"' := by
  cases token <;> cases hmark <;> decide

theorem isScalar_of_scan? (h : scan? cs = some ts) : ∀ token ∈ ts, token.IsScalar := by
  induction ts generalizing cs with
  | nil => simp
  | cons token ts ih =>
    obtain ⟨_, _, _, _, -, -, hfirst, -, hleft⟩ := exists_first h
    exact List.forall_mem_cons.2 ⟨isScalar_of_first? hfirst, ih hleft⟩

/-! ## Places -/

/-- Behind some tokens, the rest of them is what the rest of the text is scanned to. -/
theorem exists_place {before : List Token} (h : scan? cs = some (before ++ ts)) :
    ∃ front rest, cs = front ++ rest ∧ scan? rest = some ts := by
  induction before generalizing cs with
  | nil => exact ⟨[], cs, rfl, h⟩
  | cons token before ih =>
    obtain ⟨blanks, c, _, left, rfl, -, -, ⟨used, rfl⟩, hleft⟩ := exists_first h
    obtain ⟨front, rest, rfl, hrest⟩ := ih hleft
    exact ⟨blanks ++ c :: (used ++ front), rest, by simp, hrest⟩

theorem quote_not_mem_of_rawString?_eq_none (hback : '\\' ∉ cs) (h : rawString? cs = none) :
    '"' ∉ cs := by
  intro hmem
  obtain ⟨front, rest, rfl, hfront⟩ := List.eq_append_cons_of_mem hmem
  rw [rawString?_append_of_not_mem hfront fun hmem => hback (List.mem_append_left _ hmem)] at h
  cases h

theorem scan?_append {front : List Char} {before : List Token} (hc : isInert c = true)
    (h : scan? front = some before) :
    scan? (front ++ c :: rest) = (scan? (c :: rest)).map (before ++ ·) := by
  cases cut front with
  | between tokens hscan happend =>
    obtain rfl := Option.some.inj (hscan.symm.trans h)
    exact happend c rest hc
  | inString _ _ hscan | nowhere hscan => cases hscan.symm.trans h

/-- The tokens in front of a place are those of the text in front of it. -/
theorem scan?_of_append {front : List Char} {before : List Token} (hback : '\\' ∉ front)
    (hc : isInert c = true) (h : scan? (front ++ c :: rest) = some (before ++ ts))
    (hrest : scan? (c :: rest) = some ts) : scan? front = some before := by
  cases cut front with
  | between tokens hscan happend =>
    rw [happend c rest hc, hrest, Option.map_some, Option.some.injEq] at h
    rw [hscan, List.append_cancel_right h]
  | inString tokens raw hscan hsuffix hraw happend =>
    -- the text from the place on would be scanned from within a string as well
    have hback' : '\\' ∉ raw := fun hmem => hback (hsuffix.subset hmem)
    have happ := rawString?_append_of_not_mem
      (quote_not_mem_of_rawString?_eq_none hback' hraw) hback' (c :: rest)
    rw [happend c rest hc] at h
    cases hstring : rawString? (c :: rest) with
    | none =>
      rw [scan?_cons rfl, first?_quote_eq_none (by rw [happ, hstring]; rfl)] at h
      cases h
    | some found =>
      obtain ⟨inner, left⟩ := found
      rw [hstring, Option.map_some] at happ
      rw [scan?_quote happ] at h
      obtain ⟨_, hscanned, -⟩ := Option.map_eq_some_iff.1 h
      obtain ⟨_, -, hlater⟩ := Option.bind_eq_some_iff.1 hscanned
      obtain ⟨later, hlater, -⟩ := Option.map_eq_some_iff.1 hlater
      exact (not_scan_of_rawString? hstring hlater hrest).elim
  | nowhere hscan happend =>
    rw [happend c rest hc] at h
    cases h

/-- A quotation mark begins a string or ends one. -/
theorem quote_cases {front : List Char} (hback : '\\' ∉ front)
    (h : scan? (front ++ '"' :: rest) = some ts) :
    (∃ before after, scan? front = some before ∧ scan? ('"' :: rest) = some after ∧
        ts = before ++ after) ∨
      ∃ before after, scan? rest = some after ∧ ts = before ++ after := by
  have hlast : front.getLast? ≠ some '\\' := fun hlast => hback (List.mem_of_getLast? hlast)
  obtain ⟨before, hfront, happend⟩ | ⟨-, ⟨before, happend⟩ | hnone⟩ := scan?_append_quote hlast
  · rw [happend] at h
    obtain ⟨after, hafter, rfl⟩ := Option.map_eq_some_iff.1 h
    exact .inl ⟨before, after, hfront, hafter, rfl⟩
  · rw [happend] at h
    obtain ⟨after, hafter, rfl⟩ := Option.map_eq_some_iff.1 h
    exact .inr ⟨before, after, hafter, rfl⟩
  · rw [hnone] at h
    cases h

theorem eq_of_append_quote {front content : List Char} (hfront : '"' ∉ front)
    (hcontent : '"' ∉ content) (h : front ++ '"' :: rest = content ++ '"' :: left) :
    front = content ∧ rest = left := by
  obtain ⟨more, rfl, hmore⟩ | ⟨more, rfl, hmore⟩ := List.append_eq_append_iff.1 h
  · cases more with
    | nil =>
      cases hmore
      simp
    | cons d more =>
      cases hmore
      simp at hcontent
  · cases more with
    | nil =>
      cases hmore
      simp
    | cons d more =>
      cases hmore
      simp at hfront

/-- Where a name stands between quotation marks, it is a string, or the first mark ends a string and
the second one begins another. -/
theorem quoted_cases {front : List Char} {name : String}
    (hback : '\\' ∉ front ++ '"' :: (name.toList ++ '"' :: rest)) (hname : '"' ∉ name.toList)
    (h : scan? (front ++ '"' :: (name.toList ++ '"' :: rest)) = some ts) :
    (∃ before after, scan? front = some before ∧ scan? rest = some after ∧
        ts = before ++ .text name :: after) ∨
      ∃ before after content left, ts = before ++ after ∧
        scan? (name.toList ++ '"' :: rest) = some after ∧
        rest = content.toList ++ '"' :: left ∧ .text content ∈ after := by
  simp only [List.mem_append, List.mem_cons, not_or] at hback
  obtain ⟨hfront, -, hback, -, hrest⟩ := hback
  have hquoted : '\\' ∉ name.toList ++ '"' :: rest := by simp [hback, hrest]
  obtain ⟨before, after, hbefore, hafter, rfl⟩ | ⟨before, after, hafter, rfl⟩ :=
    quote_cases hfront h
  · obtain ⟨content, left, later, hsplit, hplain, rfl, hlater⟩ :=
      exists_text_of_quote hquoted hafter
    obtain ⟨hname, rfl⟩ := eq_of_append_quote hname (quote_not_mem_of_isPlain hplain) hsplit
    obtain rfl := String.toList_inj.1 hname
    exact .inl ⟨before, later, hbefore, hlater, rfl⟩
  · refine .inr ⟨before, after, ?_⟩
    obtain ⟨inner, later, -, hlater, rfl⟩ | ⟨inner, later, hlater, -⟩ := quote_cases hback hafter
    · obtain ⟨content, left, _, hsplit, -, rfl, -⟩ := exists_text_of_quote hrest hlater
      exact ⟨content, left, rfl, hafter, hsplit, by simp⟩
    · -- the text behind the second mark would be scanned from within a string as well
      have hstring := rawString?_append_of_not_mem hname hback ('"' :: rest)
      rw [rawString?, Option.map_some] at hstring
      exact (not_scan_of_rawString? hstring hlater hafter).elim

/-- What stands in front of the first quotation mark stands in the string that the mark ends. -/
theorem mem_of_append_quote {mark : Char} {front content : List Char} (hmark : mark ≠ '"')
    (hfront : '"' ∉ front) (h : front ++ mark :: rest = content ++ '"' :: left) :
    mark ∈ content := by
  obtain ⟨more, rfl, hmore⟩ | ⟨more, rfl, hmore⟩ := List.append_eq_append_iff.1 h
  · cases more with
    | nil =>
      cases hmore
      exact absurd rfl hmark
    | cons d more =>
      cases hmore
      simp
  · cases more with
    | nil =>
      cases hmore
      exact absurd rfl hmark
    | cons d more =>
      cases hmore
      simp at hfront

/-- A mark in a text is a token or stands in a string. -/
theorem mem_of_mark_mem {mark : Char} (token : Token) (hmark : token.mark? = some mark)
    (hback : '\\' ∉ cs) (h : scan? cs = some ts) (hmem : mark ∈ cs) :
    token ∈ ts ∨ ∃ content, .text content ∈ ts ∧ mark ∈ content.toList := by
  obtain ⟨hinert, hquote⟩ := isInert_of_mark hmark
  obtain ⟨front, rest, rfl⟩ := List.append_of_mem hmem
  cases cut front with
  | between before hscan happend =>
    rw [happend mark rest hinert, scan?_mark token hmark] at h
    obtain ⟨_, hafter, rfl⟩ := Option.map_eq_some_iff.1 h
    obtain ⟨after, -, rfl⟩ := Option.map_eq_some_iff.1 hafter
    exact .inl (by simp)
  | inString before raw hscan hsuffix hraw happend =>
    rw [happend mark rest hinert] at h
    obtain ⟨after, hafter, rfl⟩ := Option.map_eq_some_iff.1 h
    have hfront : '\\' ∉ front := fun hmem => hback (List.mem_append_left _ hmem)
    have hraw' : '\\' ∉ raw := fun hmem => hfront (hsuffix.subset hmem)
    have hrest : '\\' ∉ raw ++ mark :: rest := by
      rintro hmem
      obtain hmem | hmem := List.mem_append.1 hmem
      · exact hraw' hmem
      · exact hback (List.mem_append_right _ hmem)
    obtain ⟨content, left, later, hcontent, -, rfl, -⟩ := exists_text_of_quote hrest hafter
    have hmem := mem_of_append_quote hquote
      (quote_not_mem_of_rawString?_eq_none hraw' hraw) hcontent
    exact .inr ⟨content, by simp, hmem⟩
  | nowhere hscan happend =>
    rw [happend mark rest hinert] at h
    cases h

end Token

/-- A text that tells a value is scanned to the value's tokens. -/
theorem tokens_of_ofChars? {cs : List Char} {value : Json} (h : ofChars? cs = some value) :
    Token.scan? cs = some value.tokens ∧ ofTokens? value.tokens = some value := by
  obtain ⟨ts, hscan, hvalue⟩ := ofChars?_eq_some h
  obtain rfl := tokens_of_ofTokens? (Token.isScalar_of_scan? hscan) hvalue
  exact ⟨hscan, hvalue⟩

end Patchwise.Json

import Patchwise.Json.Token
import Patchwise.Text

/-!
# Tokens of a text in pieces

What the scanner makes of a text that is cut in two. A scalar ends in front of the next character
that can be no part of one, and a string at its quotation mark, so that the tokens in front of a
quotation mark do not depend on what is behind it.

## Main definitions

- `Json.isInert` — the characters that end a scalar
- `Json.Cut` — what becomes of a text that is cut in front of an inert character

## Main results

- `Json.scan?_append_quote` — a quotation mark begins a string, or ends one, or has no place
- `Json.not_scan_of_rawString?` — no text can be scanned both from within a string and from outside

## Design notes

A backslash takes the quotation mark behind it along, so nothing is said of a text that ends with
one.
-/

namespace Patchwise.Json

/-! ## Strings -/

section RawString

variable {cs raw rest : List Char}

theorem rawString?_cons {c : Char} (hquote : c ≠ '"')
    (hback : ∀ d ds, c = '\\' → cs = d :: ds → False) :
    rawString? (c :: cs) = (rawString? cs).map fun (raw, rest) => (c :: raw, rest) := by
  rw [rawString?]
  · exact hquote
  · exact hback

/-- A string is followed by its quotation mark. -/
theorem eq_of_rawString? (h : rawString? cs = some (raw, rest)) : cs = raw ++ '"' :: rest := by
  induction cs using rawString?.induct generalizing raw with
  | case1 => cases h
  | case2 =>
    cases h
    rfl
  | case3 c cs ih =>
    obtain ⟨⟨raw, rest⟩, hrest, heq⟩ := Option.map_eq_some_iff.1 h
    cases heq
    rw [ih hrest]
    rfl
  | case4 c cs hquote hback ih =>
    rw [rawString?_cons hquote hback] at h
    obtain ⟨⟨raw, rest⟩, hrest, heq⟩ := Option.map_eq_some_iff.1 h
    cases heq
    rw [ih hrest]
    rfl

/-- A string does not depend on what is behind its quotation mark. -/
theorem rawString?_append (h : rawString? cs = some (raw, rest)) (more : List Char) :
    rawString? (cs ++ more) = some (raw, rest ++ more) := by
  induction cs using rawString?.induct generalizing raw with
  | case1 => cases h
  | case2 =>
    cases h
    rfl
  | case3 c cs ih =>
    obtain ⟨⟨raw, rest⟩, hrest, heq⟩ := Option.map_eq_some_iff.1 h
    cases heq
    simp only [List.cons_append, rawString?, ih hrest, Option.map_some]
  | case4 c cs hquote hback ih =>
    rw [rawString?_cons hquote hback] at h
    obtain ⟨⟨raw, rest⟩, hrest, heq⟩ := Option.map_eq_some_iff.1 h
    cases heq
    rw [List.cons_append, rawString?_cons hquote, ih hrest]
    · rfl
    · intro d ds hc hcs
      cases cs with
      | nil => cases hrest
      | cons => exact hback _ _ hc rfl

/-- A string ends in front of a text without quotation marks. -/
theorem rawString?_of_append {more : List Char} (h : rawString? (cs ++ more) = some (raw, rest))
    (hmore : '"' ∉ more) : ∃ left, rawString? cs = some (raw, left) ∧ rest = left ++ more := by
  induction cs using rawString?.induct generalizing raw with
  | case1 =>
    rw [show more = raw ++ '"' :: rest from eq_of_rawString? h] at hmore
    simp at hmore
  | case2 left =>
    cases h
    exact ⟨left, rfl, rfl⟩
  | case3 c cs ih =>
    obtain ⟨⟨raw, rest⟩, hrest, heq⟩ := Option.map_eq_some_iff.1 h
    cases heq
    obtain ⟨left, hleft, rfl⟩ := ih hrest
    exact ⟨left, by rw [rawString?, hleft, Option.map_some], rfl⟩
  | case4 c cs hquote hback ih =>
    have hmem : '"' ∈ c :: (cs ++ more) := by
      rw [show c :: (cs ++ more) = raw ++ '"' :: rest from eq_of_rawString? h]
      simp
    rw [List.cons_append, rawString?_cons hquote] at h
    · obtain ⟨⟨raw, rest⟩, hrest, heq⟩ := Option.map_eq_some_iff.1 h
      cases heq
      obtain ⟨left, hleft, rfl⟩ := ih hrest
      exact ⟨left, by rw [rawString?_cons hquote hback, hleft, Option.map_some], rfl⟩
    · rintro d ds hc hcs
      cases cs with
      | nil => simp [hmore, Ne.symm (a := c) hquote] at hmem
      | cons => exact hback _ _ hc rfl

/-- A quotation mark behind a string that has not ended yet ends it, unless a backslash takes it
along. -/
theorem rawString?_quote (h : rawString? cs = none) :
    (∀ rest, rawString? (cs ++ '"' :: rest) = some (cs, rest)) ∨
      cs.getLast? = some '\\' ∧
        ∀ rest, rawString? (cs ++ '"' :: rest) =
          (rawString? rest).map fun (raw, rest) => (cs ++ '"' :: raw, rest) := by
  induction cs using rawString?.induct with
  | case1 => exact .inl fun rest => rfl
  | case2 => cases h
  | case3 c cs ih =>
    have hcs := Option.map_eq_none_iff.1 h
    refine (ih hcs).imp (fun hends rest => ?_) fun ⟨hlast, hgoes⟩ => ⟨?_, fun rest => ?_⟩
    · simp only [List.cons_append, rawString?, hends, Option.map_some]
    · simp [List.getLast?_cons, hlast]
    · simp only [List.cons_append, rawString?, hgoes, Option.map_map, Function.comp_def]
  | case4 c cs hquote hback ih =>
    rw [rawString?_cons hquote hback] at h
    have hcs := Option.map_eq_none_iff.1 h
    by_cases hlone : c = '\\' ∧ cs = []
    · -- the backslash takes the quotation mark along
      obtain ⟨rfl, rfl⟩ := hlone
      exact .inr ⟨rfl, fun rest => rfl⟩
    · have hstep : ∀ rest, rawString? (c :: cs ++ '"' :: rest) =
          (rawString? (cs ++ '"' :: rest)).map fun (raw, rest) => (c :: raw, rest) := by
        intro rest
        refine rawString?_cons hquote fun d ds hc hds => ?_
        cases cs with
        | nil => exact hlone ⟨hc, rfl⟩
        | cons => exact hback _ _ hc rfl
      refine (ih hcs).imp (fun hends rest => ?_) fun ⟨hlast, hgoes⟩ => ⟨?_, fun rest => ?_⟩
      · rw [hstep, hends, Option.map_some]
      · simp [List.getLast?_cons, hlast]
      · rw [hstep, hgoes, Option.map_map]
        rfl

theorem rawString?_eq_none (h : '"' ∉ cs) : rawString? cs = none := by
  refine Option.eq_none_iff_forall_ne_some.2 fun found hfound => h ?_
  rw [eq_of_rawString? hfound]
  simp

end RawString

/-! ## Scalars -/

/-- Whether a character can be no part of a scalar, so that it ends one. -/
def isInert (c : Char) : Bool :=
  !(c.isAlphanum || c == '.' || c == '+' || c == '-')

/-- A reader takes nothing from an inert character on. -/
def Stops {α : Type} (read? : List Char → Option (α × List Char)) : Prop :=
  ∀ (cs : List Char) (c : Char) (rest : List Char), isInert c = true →
    read? (cs ++ c :: rest) = (read? cs).map fun (found, left) => (found, left ++ c :: rest)

theorem isDigit_of_isInert {c : Char} (h : isInert c = true) : c.isDigit = false := by
  simp only [isInert, Char.isAlphanum, Bool.not_eq_true', Bool.or_eq_false_iff] at h
  exact h.1.1.1.2

theorem someDigits?_stops : Stops someDigits? := by
  intro cs c rest hc
  have hdigit := isDigit_of_isInert hc
  have htake : (cs ++ c :: rest).takeWhile Char.isDigit = cs.takeWhile Char.isDigit := by
    induction cs with
    | nil => simp [hdigit]
    | cons d cs ih => simp [List.takeWhile_cons, ih]
  have hdrop : (cs ++ c :: rest).dropWhile Char.isDigit =
      cs.dropWhile Char.isDigit ++ c :: rest := by
    induction cs with
    | nil => simp [hdigit]
    | cons d cs ih =>
      rw [List.cons_append, List.dropWhile_cons, List.dropWhile_cons]
      split <;> simp_all
  simp only [someDigits?, htake, hdrop]
  split <;> rfl

theorem ne_of_isInert {c d : Char} (h : isInert c = true) (hd : isInert d = false) : c ≠ d := by
  rintro rfl
  rw [h] at hd
  cases hd

theorem wholePart?_cons {c : Char} (cs : List Char) (h : c ≠ '0') :
    wholePart? (c :: cs) = someDigits? (c :: cs) := by
  unfold wholePart?
  split
  next heq => exact absurd (List.cons.inj heq).1 h
  next => rfl

theorem wholePart?_stops : Stops wholePart? := by
  intro cs c rest hc
  cases cs with
  | nil =>
    rw [List.nil_append, wholePart?_cons rest (ne_of_isInert hc (by decide))]
    exact someDigits?_stops [] c rest hc
  | cons d cs =>
    by_cases hd : d = '0'
    · subst hd
      rfl
    · rw [List.cons_append, wholePart?_cons _ hd, wholePart?_cons _ hd]
      exact someDigits?_stops (d :: cs) c rest hc

theorem fractionPart?_cons {c : Char} (cs : List Char) (h : c ≠ '.') :
    fractionPart? (c :: cs) = some (none, c :: cs) := by
  unfold fractionPart?
  split
  next heq => exact absurd (List.cons.inj heq).1 h
  next => rfl

theorem fractionPart?_stops : Stops fractionPart? := by
  intro cs c rest hc
  cases cs with
  | nil => exact fractionPart?_cons rest (ne_of_isInert hc (by decide))
  | cons d cs =>
    by_cases hd : d = '.'
    · subst hd
      rw [List.cons_append, fractionPart?, fractionPart?, someDigits?_stops cs c rest hc]
      simp only [Option.map_map, Function.comp_def]
    · rw [List.cons_append, fractionPart?_cons _ hd, fractionPart?_cons _ hd]
      rfl

theorem exponentPart?_cons {c : Char} (cs : List Char) (h : (c == 'e' || c == 'E') = false) :
    exponentPart? (c :: cs) = some (none, c :: cs) := by
  simp [exponentPart?, h]

theorem exponentPart?_stops : Stops exponentPart? := by
  intro cs c rest hc
  have hne : ∀ d, isInert d = false → c ≠ d := fun d => ne_of_isInert hc
  cases cs with
  | nil =>
    refine exponentPart?_cons rest ?_
    simp [hne 'e' (by decide), hne 'E' (by decide)]
  | cons d cs =>
    cases hd : d == 'e' || d == 'E' with
    | false =>
      rw [List.cons_append, exponentPart?_cons _ hd, exponentPart?_cons _ hd]
      rfl
    | true =>
      rw [List.cons_append, exponentPart?, exponentPart?, if_pos hd, if_pos hd]
      cases cs with
      | nil =>
        have hdigit := isDigit_of_isInert hc
        simp [someDigits?, hdigit, hne '-' (by decide), hne '+' (by decide)]
      | cons e cs =>
        have hdigits := someDigits?_stops cs c rest hc
        have hall := someDigits?_stops (e :: cs) c rest hc
        rw [List.cons_append] at hall
        by_cases hminus : e = '-'
        · simp [hminus, hdigits, Function.comp_def]
        · by_cases hplus : e = '+'
          · simp [hplus, hdigits, Function.comp_def]
          · simp [hminus, hplus, hall, Function.comp_def]

theorem numeral?_stops : Stops numeral? := by
  intro cs c rest hc
  have hminus := ne_of_isInert hc (d := '-') (by decide)
  have hhead : ((cs ++ c :: rest).head? = some '-') = (cs.head? = some '-') := by
    cases cs <;> simp [hminus]
  have hdrop : (if cs.head? = some '-' then (cs ++ c :: rest).drop 1 else cs ++ c :: rest) =
      (if cs.head? = some '-' then cs.drop 1 else cs) ++ c :: rest := by
    cases cs with
    | nil => rfl
    | cons d cs => split <;> rfl
  simp only [numeral?, hhead, hdrop, wholePart?_stops _ c rest hc]
  cases wholePart? (if cs.head? = some '-' then cs.drop 1 else cs) with
  | none => rfl
  | some found =>
    obtain ⟨whole, left⟩ := found
    simp only [Option.map_some, Option.bind_eq_bind, Option.bind_some,
      fractionPart?_stops left c rest hc]
    cases fractionPart? left with
    | none => rfl
    | some found =>
      obtain ⟨fraction, left⟩ := found
      simp only [Option.map_some, Option.bind_some, exponentPart?_stops left c rest hc]
      cases exponentPart? left <;> rfl

theorem afterWord?_append {word : List Char} (hword : word.all (!isInert ·) = true)
    (cs : List Char) {c : Char} (rest : List Char) (hc : isInert c = true) :
    afterWord? word (cs ++ c :: rest) = (afterWord? word cs).map (· ++ c :: rest) := by
  induction word generalizing cs with
  | nil => rfl
  | cons d word ih =>
    rw [List.all_cons, Bool.and_eq_true, Bool.not_eq_true'] at hword
    obtain ⟨hd, hword⟩ := hword
    cases cs with
    | nil => simp [afterWord?, (ne_of_isInert hc hd).symm]
    | cons e cs =>
      by_cases he : d = e
      · simpa [afterWord?, he] using ih hword cs
      · simp [afterWord?, he]

/-- A reader takes only characters that are not inert. -/
def Takes {α : Type} (read? : List Char → Option (α × List Char)) : Prop :=
  ∀ {cs left : List Char} {found : α}, read? cs = some (found, left) →
    ∃ used, cs = used ++ left ∧ ∀ c ∈ used, isInert c = false

theorem isInert_of_isDigit {c : Char} (h : c.isDigit = true) : isInert c = false := by
  simp [isInert, Char.isAlphanum, h]

theorem someDigits?_takes : Takes someDigits? := by
  intro cs left found h
  simp only [someDigits?] at h
  split at h
  · cases h
  · cases h
    refine ⟨_, List.takeWhile_append_dropWhile.symm, fun c hc => ?_⟩
    exact isInert_of_isDigit (List.all_eq_true.1 List.all_takeWhile c hc)

theorem wholePart?_takes : Takes wholePart? := by
  intro cs left found h
  unfold wholePart? at h
  split at h
  · cases h
    exact ⟨['0'], rfl, List.forall_mem_singleton.2 (by decide)⟩
  · exact someDigits?_takes h

theorem fractionPart?_takes : Takes fractionPart? := by
  intro cs left found h
  unfold fractionPart? at h
  split at h
  · obtain ⟨⟨digits, rest⟩, hdigits, heq⟩ := Option.map_eq_some_iff.1 h
    cases heq
    obtain ⟨used, rfl, hused⟩ := someDigits?_takes hdigits
    exact ⟨'.' :: used, rfl, List.forall_mem_cons.2 ⟨by decide, hused⟩⟩
  · cases h
    exact ⟨[], rfl, by simp⟩

theorem exponentPart?_takes : Takes exponentPart? := by
  intro cs left found h
  cases cs with
  | nil =>
    cases h
    exact ⟨[], rfl, by simp⟩
  | cons c cs =>
    cases hc : c == 'e' || c == 'E' with
    | false =>
      rw [exponentPart?_cons cs hc] at h
      cases h
      exact ⟨[], rfl, by simp⟩
    | true =>
      have hmark : isInert c = false := by
        rw [Bool.or_eq_true, beq_iff_eq, beq_iff_eq] at hc
        obtain rfl | rfl := hc <;> decide
      rw [exponentPart?, if_pos hc] at h
      obtain ⟨⟨digits, rest⟩, hdigits, heq⟩ := Option.map_eq_some_iff.1 h
      cases heq
      obtain ⟨used, hunsigned, hused⟩ := someDigits?_takes hdigits
      split at hunsigned
      next hsign =>
        have hcs : ∃ sign, cs = sign :: cs.drop 1 ∧ isInert sign = false := by
          rw [Bool.or_eq_true, decide_eq_true_eq, decide_eq_true_eq] at hsign
          cases cs with
          | nil => simp at hsign
          | cons sign cs =>
            refine ⟨sign, rfl, ?_⟩
            simp only [List.head?_cons, Option.some.injEq] at hsign
            obtain rfl | rfl := hsign <;> decide
        obtain ⟨sign, hcs, hsign⟩ := hcs
        refine ⟨c :: sign :: used, ?_, ?_⟩
        · rw [hcs, hunsigned]
          rfl
        · exact List.forall_mem_cons.2 ⟨hmark, List.forall_mem_cons.2 ⟨hsign, hused⟩⟩
      next =>
        refine ⟨c :: used, ?_, List.forall_mem_cons.2 ⟨hmark, hused⟩⟩
        rw [hunsigned]
        rfl

theorem numeral?_takes : Takes numeral? := by
  intro cs left found h
  simp only [numeral?, Option.bind_eq_bind, Option.bind_eq_some_iff] at h
  obtain ⟨⟨whole, cs₁⟩, hwhole, ⟨fraction, cs₂⟩, hfraction, ⟨exponent, cs₃⟩, hexponent, heq⟩ := h
  cases heq
  obtain ⟨used₁, hcs, hused₁⟩ := wholePart?_takes hwhole
  obtain ⟨used₂, rfl, hused₂⟩ := fractionPart?_takes hfraction
  obtain ⟨used₃, rfl, hused₃⟩ := exponentPart?_takes hexponent
  have hused : ∀ c ∈ used₁ ++ (used₂ ++ used₃), isInert c = false :=
    List.forall_mem_append.2 ⟨hused₁, List.forall_mem_append.2 ⟨hused₂, hused₃⟩⟩
  cases cs with
  | nil => exact ⟨_, by simpa using hcs, hused⟩
  | cons c cs =>
    by_cases hc : c = '-'
    · refine ⟨c :: (used₁ ++ (used₂ ++ used₃)), ?_, List.forall_mem_cons.2 ⟨?_, hused⟩⟩
      · simpa [hc] using hcs
      · rw [hc]
        decide
    · exact ⟨_, by simpa [hc] using hcs, hused⟩

theorem afterWord?_takes {word cs left : List Char} (hword : word.all (!isInert ·) = true)
    (h : afterWord? word cs = some left) :
    ∃ used, cs = used ++ left ∧ ∀ c ∈ used, isInert c = false := by
  unfold afterWord? at h
  split at h
  next hprefix =>
    cases h
    obtain ⟨rest, rfl⟩ := List.isPrefixOf_iff_prefix.1 hprefix
    exact ⟨word, by rw [List.drop_left], by simpa using hword⟩
  next => cases h

/-! ## Tokens -/

namespace Token

/-- A token that is no string stops in front of an inert character. -/
theorem first?_stops {c : Char} (hquote : c ≠ '"') : Stops (first? c) := by
  intro cs d rest hd
  have hword : ∀ word : List Char, word.all (!isInert ·) = true →
      ∀ value, ((afterWord? word (cs ++ d :: rest)).map fun left => (scalar value, left)) =
        ((afterWord? word cs).map fun left => (scalar value, left)).map
          fun (found, left) => (found, left ++ d :: rest) := by
    intro word hword value
    rw [afterWord?_append hword cs rest hd, Option.map_map, Option.map_map]
    rfl
  unfold first?
  split
  case h_7 => exact absurd rfl hquote
  case h_8 => exact hword _ (by decide) _
  case h_9 => exact hword _ (by decide) _
  case h_10 => exact hword _ (by decide) _
  case h_11 =>
    rw [← List.cons_append, numeral?_stops (c :: cs) d rest hd]
    cases numeral? (c :: cs) with
    | none => rfl
    | some found =>
      simp only [Option.map_some, Option.bind_eq_bind, Option.bind_some]
      cases found.1.value? <;> rfl
  all_goals rfl

/-- A token that is no string takes only characters that are not inert, besides its first one. -/
theorem first?_takes {c : Char} {cs left : List Char} {token : Token} (hquote : c ≠ '"')
    (h : first? c cs = some (token, left)) (hlength : left.length ≤ cs.length) :
    ∃ used, cs = used ++ left ∧ ∀ d ∈ used, isInert d = false := by
  have hword : ∀ word : List Char, word.all (!isInert ·) = true → ∀ value,
      ((afterWord? word cs).map fun left => (scalar value, left)) = some (token, left) →
      ∃ used, cs = used ++ left ∧ ∀ d ∈ used, isInert d = false := by
    intro word hword value h
    obtain ⟨left', hleft, heq⟩ := Option.map_eq_some_iff.1 h
    cases heq
    exact afterWord?_takes hword hleft
  unfold first? at h
  split at h
  case h_7 => exact absurd rfl hquote
  case h_8 => exact hword _ (by decide) _ h
  case h_9 => exact hword _ (by decide) _ h
  case h_10 => exact hword _ (by decide) _ h
  case h_11 =>
    simp only [Option.bind_eq_bind, Option.bind_eq_some_iff] at h
    obtain ⟨⟨numeral, left'⟩, hnumeral, value, -, heq⟩ := h
    cases heq
    obtain ⟨_ | ⟨d, used⟩, hcs, hused⟩ := numeral?_takes hnumeral
    · -- a numeral takes one character at least
      have hall : c :: cs = left' := hcs
      rw [← hall, List.length_cons] at hlength
      omega
    · obtain ⟨rfl, rfl⟩ := List.cons.inj hcs
      exact ⟨used, rfl, (List.forall_mem_cons.1 hused).2⟩
  all_goals
    cases h
    exact ⟨[], rfl, by simp⟩

/-- A string takes nothing from behind its quotation mark. -/
theorem first?_quote {cs raw left : List Char} (h : rawString? cs = some (raw, left)) :
    first? '"' cs = (unescape? none raw).map fun content => (.text (.ofList content), left) := by
  unfold first?
  simp only [h, Option.bind_eq_bind, Option.bind_some]
  cases unescape? none raw <;> rfl

theorem first?_quote_eq_none {cs : List Char} (h : rawString? cs = none) :
    first? '"' cs = none := by
  simp [first?, h]

@[simp]
theorem scan?_nil : scan? [] = some [] := by
  rw [scan?]

theorem scan?_space {c : Char} (h : isSpace c = true) (rest : List Char) :
    scan? (c :: rest) = scan? rest := by
  rw [scan?, if_pos h]

theorem scan?_cons {c : Char} (h : isSpace c = false) (rest : List Char) :
    scan? (c :: rest) = (first? c rest).bind fun (token, after) =>
      if after.length ≤ rest.length then (scan? after).map (token :: ·) else none := by
  rw [scan?, if_neg (by simp [h])]
  cases first? c rest <;> rfl

theorem exists_of_scan?_cons {c : Char} {rest : List Char} {tokens : List Token}
    (hspace : isSpace c = false) (h : scan? (c :: rest) = some tokens) :
    ∃ token left later, first? c rest = some (token, left) ∧ left.length ≤ rest.length ∧
      scan? left = some later ∧ tokens = token :: later := by
  rw [scan?_cons hspace, Option.bind_eq_some_iff] at h
  obtain ⟨⟨token, left⟩, hfirst, h⟩ := h
  dsimp only at h
  split at h
  next hlength =>
    obtain ⟨later, hlater, rfl⟩ := Option.map_eq_some_iff.1 h
    exact ⟨token, left, later, hfirst, hlength, hlater, rfl⟩
  next => cases h

end Token

open Token

/-! ## Cutting a text -/

/-- What the scanner makes of a text that an inert character is behind: the cut is between two
tokens, or within a string, or nothing comes of it. -/
inductive Cut (cs : List Char) : Prop
  | between (tokens : List Token) (hscan : scan? cs = some tokens)
      (happend : ∀ c rest, isInert c = true →
        scan? (cs ++ c :: rest) = (scan? (c :: rest)).map (tokens ++ ·))
  | inString (tokens : List Token) (raw : List Char) (hscan : scan? cs = none)
      (hsuffix : raw <:+ cs) (hraw : rawString? raw = none)
      (happend : ∀ c rest, isInert c = true →
        scan? (cs ++ c :: rest) = (scan? ('"' :: (raw ++ c :: rest))).map (tokens ++ ·))
  | nowhere (hscan : scan? cs = none)
      (happend : ∀ c rest, isInert c = true → scan? (cs ++ c :: rest) = none)

/-- A text is cut as what is left of it after its first tokens. -/
theorem Cut.of_first {cs left : List Char} (tokens : List Token) (hcut : Cut left)
    (hsuffix : left <:+ cs) (hscan : scan? cs = (scan? left).map (tokens ++ ·))
    (happend : ∀ c rest, isInert c = true →
      scan? (cs ++ c :: rest) = (scan? (left ++ c :: rest)).map (tokens ++ ·)) : Cut cs := by
  cases hcut with
  | between later hleft hlater =>
    refine .between (tokens ++ later) (by rw [hscan, hleft, Option.map_some]) fun c rest hc => ?_
    rw [happend c rest hc, hlater c rest hc, Option.map_map]
    simp only [Function.comp_def, List.append_assoc]
  | inString later raw hleft hraw hopen hlater =>
    refine .inString (tokens ++ later) raw (by rw [hscan, hleft, Option.map_none])
      (hraw.trans hsuffix) hopen fun c rest hc => ?_
    rw [happend c rest hc, hlater c rest hc, Option.map_map]
    simp only [Function.comp_def, List.append_assoc]
  | nowhere hleft hlater =>
    refine .nowhere (by rw [hscan, hleft, Option.map_none]) fun c rest hc => ?_
    rw [happend c rest hc, hlater c rest hc, Option.map_none]

theorem Token.scan?_quote {cs raw left : List Char} (h : rawString? cs = some (raw, left)) :
    scan? ('"' :: cs) = (unescape? none raw).bind fun content =>
      (scan? left).map (.text (.ofList content) :: ·) := by
  obtain rfl := eq_of_rawString? h
  have hlength : left.length ≤ (raw ++ '"' :: left).length := by
    rw [List.length_append, List.length_cons]
    omega
  rw [scan?_cons rfl, first?_quote h]
  cases unescape? none raw with
  | none => rfl
  | some content => simp only [Option.map_some, Option.bind_some, if_pos hlength]

theorem Cut.quote {cs : List Char} (hcut : ∀ left, left <:+ cs → Cut left) : Cut ('"' :: cs) := by
  cases hraw : rawString? cs with
  | none =>
    refine .inString [] cs ?_ (List.suffix_cons _ cs) hraw (by simp)
    rw [scan?_cons rfl, first?_quote_eq_none hraw, Option.bind_none]
  | some found =>
    obtain ⟨raw, left⟩ := found
    have hscan := scan?_quote hraw
    have happend : ∀ more, scan? ('"' :: cs ++ more) = _ := fun more =>
      scan?_quote (rawString?_append hraw more)
    cases hcontent : unescape? none raw with
    | none =>
      simp only [hcontent, Option.bind_none] at hscan happend
      exact .nowhere hscan fun c rest _ => happend (c :: rest)
    | some content =>
      simp only [hcontent, Option.bind_some] at hscan happend
      have hleft : left <:+ cs := ⟨raw ++ ['"'], by simp [eq_of_rawString? hraw]⟩
      exact (hcut left hleft).of_first [.text (.ofList content)]
        (hleft.trans (List.suffix_cons _ cs)) hscan fun c rest _ => happend (c :: rest)

theorem Cut.token {c : Char} {cs : List Char} (hquote : c ≠ '"') (hspace : isSpace c = false)
    (hcut : ∀ left, left <:+ cs → Cut left) : Cut (c :: cs) := by
  have hscan := scan?_cons hspace cs
  have happend : ∀ d rest, isInert d = true → scan? (c :: (cs ++ d :: rest)) =
      ((first? c cs).map fun (token, left) => (token, left ++ d :: rest)).bind
        fun (token, after) =>
          if after.length ≤ (cs ++ d :: rest).length then (scan? after).map (token :: ·)
          else none := by
    intro d rest hd
    rw [scan?_cons hspace (cs ++ d :: rest), first?_stops hquote cs d rest hd]
  cases hfirst : first? c cs with
  | none =>
    simp only [hfirst, Option.map_none, Option.bind_none] at hscan happend
    exact .nowhere hscan happend
  | some found =>
    obtain ⟨token, left⟩ := found
    simp only [hfirst, Option.map_some, Option.bind_some, List.length_append,
      Nat.add_le_add_iff_right] at hscan happend
    by_cases hlength : left.length ≤ cs.length
    · simp only [if_pos hlength] at hscan happend
      obtain ⟨used, hused, -⟩ := first?_takes hquote hfirst hlength
      have hleft : left <:+ cs := ⟨used, hused.symm⟩
      exact (hcut left hleft).of_first [token] (hleft.trans (List.suffix_cons c cs)) hscan happend
    · simp only [if_neg hlength] at hscan happend
      exact .nowhere hscan happend

theorem cut (cs : List Char) : Cut cs := by
  suffices hcut : ∀ left, left <:+ cs → Cut left from hcut cs List.suffix_rfl
  -- a token may take any number of characters, so the induction is over all that can be left
  induction cs with
  | nil =>
    intro left hleft
    rw [List.suffix_nil.1 hleft]
    exact .between [] scan?_nil (by simp)
  | cons c cs hcut =>
    intro left hleft
    obtain rfl | hleft := List.suffix_cons_iff.1 hleft
    · by_cases hquote : c = '"'
      · subst hquote
        exact .quote hcut
      · cases hspace : isSpace c with
        | true =>
          refine (hcut cs List.suffix_rfl).of_first [] (List.suffix_cons c cs) ?_ ?_
          · simp [scan?_space hspace]
          · simp [scan?_space hspace]
        | false => exact .token hquote hspace hcut
    · exact hcut left hleft

/-- A quotation mark behind a text begins a string, or ends one, or comes to nothing. -/
theorem scan?_append_quote {cs : List Char} (hlast : cs.getLast? ≠ some '\\') :
    (∃ tokens, scan? cs = some tokens ∧
        ∀ rest, scan? (cs ++ '"' :: rest) = (scan? ('"' :: rest)).map (tokens ++ ·)) ∨
      scan? cs = none ∧
        ((∃ tokens, ∀ rest, scan? (cs ++ '"' :: rest) = (scan? rest).map (tokens ++ ·)) ∨
          ∀ rest, scan? (cs ++ '"' :: rest) = none) := by
  cases cut cs with
  | between tokens hscan happend => exact .inl ⟨tokens, hscan, fun rest => happend _ rest rfl⟩
  | nowhere hscan happend => exact .inr ⟨hscan, .inr fun rest => happend _ rest rfl⟩
  | inString tokens raw hscan hsuffix hraw happend =>
    refine .inr ⟨hscan, ?_⟩
    obtain ⟨front, rfl⟩ := hsuffix
    obtain hends | ⟨hback, -⟩ := rawString?_quote hraw
    · cases hcontent : unescape? none raw with
      | none =>
        refine .inr fun rest => ?_
        rw [happend _ rest rfl, scan?_quote (hends rest), hcontent]
        rfl
      | some content =>
        refine .inl ⟨tokens ++ [.text (.ofList content)], fun rest => ?_⟩
        rw [happend _ rest rfl, scan?_quote (hends rest), hcontent, Option.bind_some,
          Option.map_map]
        simp only [Function.comp_def, List.append_assoc, List.singleton_append]
    · rw [List.getLast?_append, hback] at hlast
      exact absurd rfl hlast

theorem numeral?_eq_none {c : Char} (hdigit : c.isDigit = false) (hminus : c ≠ '-')
    (cs : List Char) : numeral? (c :: cs) = none := by
  have hzero : c ≠ '0' := by
    rintro rfl
    cases hdigit
  simp [numeral?, hminus, wholePart?_cons cs hzero, someDigits?, hdigit]

theorem Token.first?_eq_none {c : Char} (cs : List Char) (hdigit : c.isDigit = false)
    (hstart : c ∉ ['\x7b', '\x7d', '[', ']', ',', ':', '"', 't', 'f', 'n', '-']) :
    first? c cs = none := by
  unfold first?
  split
  case h_11 =>
    rw [numeral?_eq_none hdigit (fun h => hstart (by simp [h]))]
    rfl
  all_goals exact absurd (by decide) hstart

theorem isDigit_of_isBlank {c : Char} (h : Text.isBlank c = true) : c.isDigit = false := by
  refine Bool.eq_false_iff.2 fun hdigit => ?_
  have hrange : 48 ≤ c.toNat ∧ c.toNat ≤ 57 := by
    simpa [Char.isDigit, UInt32.le_iff_toNat_le] using hdigit
  simp only [Text.isBlank, Bool.or_eq_true, Bool.and_eq_true, decide_eq_true_eq, beq_iff_eq] at h
  omega

theorem Token.scan?_blank_cons {c : Char} {cs : List Char} {tokens : List Token}
    (hblank : Text.isBlank c = true) (h : scan? (c :: cs) = some tokens) :
    scan? cs = some tokens := by
  cases hspace : isSpace c with
  | true => rwa [scan?_space hspace] at h
  | false =>
    have hstart : c ∉ ['\x7b', '\x7d', '[', ']', ',', ':', '"', 't', 'f', 'n', '-'] := by
      intro hmem
      have hnone : ['\x7b', '\x7d', '[', ']', ',', ':', '"', 't', 'f', 'n', '-'].all
          (!Text.isBlank ·) = true := by decide
      have hc := List.all_eq_true.1 hnone c hmem
      rw [hblank] at hc
      cases hc
    rw [scan?_cons hspace, first?_eq_none cs (isDigit_of_isBlank hblank) hstart] at h
    cases h

/-- Blanks where tokens stand are no tokens, if the text can be scanned at all. -/
theorem Token.scan?_blanks_append {blanks cs : List Char} {tokens : List Token}
    (hblank : ∀ c ∈ blanks, Text.isBlank c = true) (h : scan? (blanks ++ cs) = some tokens) :
    scan? cs = some tokens := by
  induction blanks with
  | nil => exact h
  | cons c blanks ih =>
    obtain ⟨hc, hblanks⟩ := List.forall_mem_cons.1 hblank
    exact ih hblanks (scan?_blank_cons hc h)

theorem Token.scan?_blanks {cs : List Char} {tokens : List Token}
    (hblank : ∀ c ∈ cs, Text.isBlank c = true) (h : scan? cs = some tokens) : tokens = [] := by
  rw [← List.append_nil cs] at h
  have hnil := scan?_blanks_append hblank h
  rw [scan?_nil] at hnil
  exact (Option.some.inj hnil).symm

/-- In a text whose strings have ended, a colon that only blanks are behind is the last token. -/
theorem Token.scan?_append_colon {cs blanks : List Char} {tokens : List Token}
    (hblank : ∀ c ∈ blanks, Text.isBlank c = true)
    (h : scan? (cs ++ ':' :: blanks) = some tokens) : ∃ front, tokens = front ++ [.colon] := by
  have hquote : '"' ∉ ':' :: blanks := by
    rintro (_ | ⟨_, hmem⟩)
    exact absurd (hblank _ hmem) (by decide)
  cases cut cs with
  | between front hscan happend =>
    rw [happend _ blanks rfl, scan?_cons rfl] at h
    obtain ⟨later, hlater, rfl⟩ := Option.map_eq_some_iff.1 h
    simp only [first?, Option.bind_some, Nat.le_refl, if_true] at hlater
    obtain ⟨last, hlast, rfl⟩ := Option.map_eq_some_iff.1 hlater
    rw [scan?_blanks hblank hlast]
    exact ⟨front, rfl⟩
  | inString front raw hscan hsuffix hraw happend =>
    rw [happend _ blanks rfl] at h
    cases hstring : rawString? (raw ++ ':' :: blanks) with
    | none =>
      rw [scan?_cons rfl, first?_quote_eq_none hstring] at h
      cases h
    | some found =>
      -- no quotation mark is behind the colon that could end the string
      obtain ⟨left, hleft, -⟩ := rawString?_of_append hstring hquote
      rw [hraw] at hleft
      cases hleft
  | nowhere hscan happend =>
    rw [happend _ blanks rfl] at h
    cases h

/-- A string goes on over characters that neither end it nor take others with them. -/
theorem rawString?_append_of_not_mem {used : List Char} (hquote : '"' ∉ used)
    (hback : '\\' ∉ used) (left : List Char) :
    rawString? (used ++ left) =
      (rawString? left).map fun (raw, rest) => (used ++ raw, rest) := by
  induction used with
  | nil => simp
  | cons c used ih =>
    have hc : c ≠ '"' ∧ c ≠ '\\' := by
      constructor <;> rintro rfl <;> simp at hquote hback
    rw [List.cons_append, rawString?_cons hc.1 fun d ds h => absurd h hc.2,
      ih (fun h => hquote (List.mem_cons_of_mem _ h)) (fun h => hback (List.mem_cons_of_mem _ h)),
      Option.map_map]
    rfl

theorem rawString?_plain_append {used : List Char} (hused : ∀ c ∈ used, isInert c = false)
    (left : List Char) :
    rawString? (used ++ left) =
      (rawString? left).map fun (raw, rest) => (used ++ raw, rest) :=
  rawString?_append_of_not_mem (fun h => absurd (hused _ h) (by decide))
    (fun h => absurd (hused _ h) (by decide)) left

/-! ## Plain strings -/

/-- Whether a character stands for itself in a string. -/
def isPlain (c : Char) : Bool :=
  c != '"' && c != '\\' && 0x20 ≤ c.toNat

theorem unescape?_plain {cs : List Char} (h : ∀ c ∈ cs, isPlain c = true) :
    unescape? none cs = some cs := by
  induction cs with
  | nil => rfl
  | cons c cs ih =>
    obtain ⟨hc, hcs⟩ := List.forall_mem_cons.1 h
    simp only [isPlain, Bool.and_eq_true, bne_iff_ne, decide_eq_true_eq] at hc
    have hlow : ¬ c.toNat < 0x20 := by omega
    rw [unescape?, ih hcs]
    · simp [hc.1.2, hlow]
    all_goals
      intros
      simp_all

theorem Token.scan?_plain {cs : List Char} (h : ∀ c ∈ cs, isPlain c = true) (rest : List Char) :
    scan? ('"' :: (cs ++ '"' :: rest)) = (scan? rest).map (.text (.ofList cs) :: ·) := by
  have hquote : '"' ∉ cs := fun hmem => absurd (h _ hmem) (by decide)
  obtain hends | ⟨hback, -⟩ := rawString?_quote (rawString?_eq_none hquote)
  · rw [scan?_quote (hends rest), unescape?_plain h, Option.bind_some]
  · exact absurd (h _ (List.mem_of_getLast? hback)) (by decide)

/-- A string that is one token by itself is one whatever is behind it. -/
theorem Token.scan?_string {raw : List Char} {content : String} (hquote : '"' ∉ raw)
    (h : scan? ('"' :: (raw ++ ['"'])) = some [.text content]) (rest : List Char) :
    scan? ('"' :: (raw ++ '"' :: rest)) = (scan? rest).map (.text content :: ·) := by
  obtain hends | ⟨-, hgoes⟩ := rawString?_quote (rawString?_eq_none hquote)
  · rw [scan?_quote (hends []), Option.bind_eq_some_iff] at h
    obtain ⟨decoded, hdecoded, h⟩ := h
    obtain rfl : String.ofList decoded = content := by simpa using h
    rw [scan?_quote (hends rest), hdecoded, Option.bind_some]
  · rw [scan?_cons rfl, first?_quote_eq_none (hgoes [])] at h
    cases h

/-- No text can be scanned both from within a string and from outside: quotation marks change from
one to the other, and backslashes stand only within strings. -/
theorem not_scan_of_rawString? {cs raw rest : List Char} {tokens later : List Token}
    (hraw : rawString? cs = some (raw, rest)) (hlater : scan? rest = some later)
    (hscan : scan? cs = some tokens) : False := by
  induction hn : cs.length using Nat.strongRecOn generalizing cs raw rest tokens later with
  | ind n ih =>
    cases cs with
    | nil => cases hraw
    | cons c cs =>
      rw [List.length_cons] at hn
      by_cases hquote : c = '"'
      · -- what is within the string from the one side is outside from the other
        subst hquote
        obtain rfl : cs = rest := by
          cases hraw
          rfl
        cases hstring : rawString? cs with
        | none =>
          rw [scan?_cons rfl, first?_quote_eq_none hstring] at hscan
          cases hscan
        | some found =>
          rw [scan?_quote hstring, Option.bind_eq_some_iff] at hscan
          obtain ⟨content, -, hleft⟩ := hscan
          obtain ⟨last, hlast, -⟩ := Option.map_eq_some_iff.1 hleft
          exact ih cs.length (by omega) hstring hlast hlater rfl
      · by_cases hback : c = '\\'
        · subst hback
          rw [scan?_cons rfl, first?_eq_none cs (by decide) (by decide)] at hscan
          cases hscan
        · rw [rawString?_cons hquote fun d ds h => absurd h hback] at hraw
          obtain ⟨⟨raw, rest⟩, hraw, heq⟩ := Option.map_eq_some_iff.1 hraw
          cases heq
          cases hspace : isSpace c with
          | true =>
            rw [scan?_space hspace] at hscan
            exact ih cs.length (by omega) hraw hlater hscan rfl
          | false =>
            obtain ⟨token, left, last, hfirst, hlength, hlast, -⟩ :=
              exists_of_scan?_cons hspace hscan
            obtain ⟨used, rfl, hused⟩ := first?_takes hquote hfirst hlength
            rw [rawString?_plain_append hused] at hraw
            obtain ⟨⟨raw, rest⟩, hraw, heq⟩ := Option.map_eq_some_iff.1 hraw
            cases heq
            refine ih left.length ?_ hraw hlater hlast rfl
            rw [← hn, List.length_append]
            omega

/-- Where the text behind a quotation mark can be scanned by itself, the mark ends a string. -/
theorem Token.exists_string {raw after : List Char} {tokens later : List Token}
    (hquote : '"' ∉ raw) (h : scan? ('"' :: (raw ++ '"' :: after)) = some tokens)
    (hafter : scan? after = some later) :
    ∃ content, scan? ('"' :: (raw ++ ['"'])) = some [.text content] := by
  obtain hends | ⟨-, hgoes⟩ := rawString?_quote (rawString?_eq_none hquote)
  · rw [scan?_quote (hends after), Option.bind_eq_some_iff] at h
    obtain ⟨content, hcontent, -⟩ := h
    refine ⟨.ofList content, ?_⟩
    rw [scan?_quote (hends []), hcontent, Option.bind_some, scan?_nil]
    rfl
  · -- a backslash takes the mark along, so the text behind it would be scanned in both ways
    cases hraw : rawString? after with
    | none =>
      rw [scan?_cons rfl, first?_quote_eq_none (by rw [hgoes, hraw]; rfl)] at h
      cases h
    | some found =>
      obtain ⟨more, rest⟩ := found
      have hstring := hgoes after
      rw [hraw, Option.map_some] at hstring
      rw [scan?_quote hstring, Option.bind_eq_some_iff] at h
      obtain ⟨content, -, h⟩ := h
      obtain ⟨last, hlast, -⟩ := Option.map_eq_some_iff.1 h
      exact (not_scan_of_rawString? hraw hlast hafter).elim

end Patchwise.Json

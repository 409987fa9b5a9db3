import Mathlib.Data.List.TakeWhile
import Patchwise.Json.Printer
import Patchwise.Proofs.Json.Places

/-!
# Values that are written and read

The text of a value over several lines is made of the value's tokens, with white space between them.
Reading it gives the value back, if the value is not nested too deep and its numbers are read as
they are written.

## Main definitions

- `Json.Readable` — the values that are read as they are written

## Main results

- `Json.scan?_string` — every text is read back as it is written
- `Json.read_pretty` — and so is every readable value
-/

namespace Patchwise.Json

/-! ## Strings -/

/-- How a character is written: with a letter, with its unit, or as itself. -/
theorem escapeChar_cases (c : Char) :
    (∃ d, escapeChar c = ['\\', d] ∧ shortEscape? d = some c ∧ d ≠ 'u') ∨
      (escapeChar c = unitEscape c ∧ c.toNat < 0x20) ∨
      (escapeChar c = [c] ∧ isPlain c = true) := by
  unfold escapeChar
  split
  case h_8 hquote hback hbs hff hlf hcr htab =>
    split
    next hlow => exact .inr (.inl ⟨rfl, hlow⟩)
    next hhigh =>
      refine .inr (.inr ⟨rfl, ?_⟩)
      simp only [isPlain, Bool.and_eq_true, bne_iff_ne, decide_eq_true_eq]
      exact ⟨⟨hquote, hback⟩, Nat.le_of_not_lt hhigh⟩
  all_goals exact .inl ⟨_, rfl, by decide, by decide⟩

theorem hexUnit?_of_lt {n : Nat} (h : n < 0x20) :
    hexUnit? '0' '0' (Nat.digitChar (n / 16)) (Nat.digitChar (n % 16)) = some n := by
  revert n
  decide

theorem rawString?_escapeChar (c : Char) (cs : List Char) :
    rawString? (escapeChar c ++ cs) =
      (rawString? cs).map fun (raw, rest) => (escapeChar c ++ raw, rest) := by
  obtain ⟨d, hescape, -, -⟩ | ⟨hescape, -⟩ | ⟨hescape, hplain⟩ := escapeChar_cases c
  · rw [hescape]
    rfl
  · -- the backslash takes the letter along, and none of the digits is a quotation mark
    have hdigits : ∀ mark ∈ ['"', '\\'],
        mark ∉ ['0', '0', Nat.digitChar (c.toNat / 16), Nat.digitChar (c.toNat % 16)] := by
      have hne : ∀ n, Nat.digitChar n ≠ '"' ∧ Nat.digitChar n ≠ '\\' := fun n =>
        ⟨Nat.digitChar_ne '"' (by decide), Nat.digitChar_ne '\\' (by decide)⟩
      simp [(hne _).1.symm, (hne _).2.symm]
    have hrest := rawString?_append_of_not_mem (hdigits '"' (by simp)) (hdigits '\\' (by simp)) cs
    rw [hescape, unitEscape]
    simp only [List.cons_append, List.nil_append] at hrest ⊢
    rw [rawString?, hrest, Option.map_map]
    rfl
  · have hc : '"' ∉ [c] ∧ '\\' ∉ [c] := by
      simp only [isPlain, Bool.and_eq_true, bne_iff_ne] at hplain
      simpa [eq_comm] using hplain.1
    rw [hescape, rawString?_append_of_not_mem hc.1 hc.2]

theorem unescape?_escapeChar (c : Char) (cs : List Char) :
    unescape? none (escapeChar c ++ cs) = (unescape? none cs).map (c :: ·) := by
  obtain ⟨d, hescape, hshort, hletter⟩ | ⟨hescape, hlow⟩ | ⟨hescape, hplain⟩ := escapeChar_cases c
  · rw [hescape]
    simp [unescape?, hshort, hletter]
  · have hhigh : isHighUnit c.toNat = false := by
      simp only [isHighUnit, Bool.and_eq_false_iff, decide_eq_false_iff_not]
      omega
    have hlower : isLowUnit c.toNat = false := by
      simp only [isLowUnit, Bool.and_eq_false_iff, decide_eq_false_iff_not]
      omega
    rw [hescape, unitEscape]
    simp [unescape?, hexUnit?_of_lt hlow, hhigh, hlower]
  · simp only [isPlain, Bool.and_eq_true, bne_iff_ne, decide_eq_true_eq] at hplain
    have hlow : ¬ c.toNat < 0x20 := by omega
    rw [hescape, List.singleton_append, unescape?]
    · simp [hplain.1.2, hlow]
    all_goals
      intros
      simp_all

/-- A text that is written is a string whose content is the text. -/
theorem scan?_string (text : String) (rest : List Char) :
    Token.scan? (string text ++ rest) = (Token.scan? rest).map (.text text :: ·) := by
  have hraw : ∀ cs : List Char, rawString? (cs.flatMap escapeChar ++ '"' :: rest) =
      some (cs.flatMap escapeChar, rest) := by
    intro cs
    induction cs with
    | nil => rfl
    | cons c cs ih =>
      rw [List.flatMap_cons, List.append_assoc, rawString?_escapeChar, ih, Option.map_some]
  have hcontent : ∀ cs : List Char, unescape? none (cs.flatMap escapeChar) = some cs := by
    intro cs
    induction cs with
    | nil => rfl
    | cons c cs ih => rw [List.flatMap_cons, unescape?_escapeChar, ih, Option.map_some]
  have hstring : string text ++ rest = '"' :: (text.toList.flatMap escapeChar ++ '"' :: rest) := by
    simp [string]
  rw [hstring, Token.scan?_quote (hraw _), hcontent, Option.bind_some, String.ofList_toList]

/-! ## Numbers -/

theorem le_ofDigitChars (digits : List Char) (n : Nat) : n ≤ Nat.ofDigitChars 10 digits n := by
  induction digits generalizing n with
  | nil => exact Nat.le_refl n
  | cons c digits ih =>
    rw [Nat.ofDigitChars_cons]
    exact Nat.le_trans (by omega) (ih _)

/-- Digits that tell an integer that is not too large are all read. -/
theorem wholeDigits_eq {digits : List Char} {n : Nat}
    (h : Nat.ofDigitChars 10 digits n ≤ maxInteger) :
    wholeDigits n digits = (Nat.ofDigitChars 10 digits n, 0) := by
  induction digits generalizing n with
  | nil => rfl
  | cons c digits ih =>
    rw [Nat.ofDigitChars_cons, Nat.mul_comm] at h ⊢
    have hmore : ¬ maxInteger < n * 10 + (c.toNat - '0'.toNat) :=
      Nat.not_lt.2 (Nat.le_trans (le_ofDigitChars digits _) h)
    rw [wholeDigits]
    exact (if_neg hmore).trans (ih h)

/-- The digits of a number do not begin with a zero, but for those of zero. -/
theorem head?_toDigits {n : Nat} (h : 0 < n) : (Nat.toDigits 10 n).head? ≠ some '0' := by
  induction n using Nat.strongRecOn with
  | ind n ih =>
    by_cases hn : n < 10
    · rw [Nat.toDigits_of_lt_base hn]
      simpa using Nat.pos_iff_ne_zero.1 h
    · have hnonempty : Nat.toDigits 10 (n / 10) ≠ [] := Nat.toDigits_ne_nil
      rw [Nat.toDigits_of_base_le (by decide) (by omega), List.head?_append_of_ne_nil _ hnonempty]
      exact ih (n / 10) (by omega) (by omega)

theorem someDigits?_eq {digits : List Char} (hdigits : ∀ c ∈ digits, c.isDigit = true)
    (hnonempty : digits ≠ []) : someDigits? digits = some (digits, []) := by
  have htake : digits.takeWhile Char.isDigit = digits := List.takeWhile_eq_self_iff.2 hdigits
  have hdrop : digits.dropWhile Char.isDigit = [] := List.dropWhile_eq_nil_iff.2 hdigits
  simp [someDigits?, htake, hdrop, hnonempty]

/-- The digits of a number are a numeral without a sign, a fraction or an exponent. -/
theorem numeral?_toDigits (n : Nat) :
    numeral? (Nat.toDigits 10 n) = some (⟨false, Nat.toDigits 10 n, none, none⟩, []) := by
  have hdigits : ∀ c ∈ Nat.toDigits 10 n, c.isDigit = true := fun c =>
    Nat.isDigit_of_mem_toDigits (by decide) (by decide)
  have hwhole : wholePart? (Nat.toDigits 10 n) = some (Nat.toDigits 10 n, []) := by
    have hall := someDigits?_eq hdigits Nat.toDigits_ne_nil
    by_cases hn : n = 0
    · subst hn
      rfl
    · have hhead := head?_toDigits (Nat.pos_of_ne_zero hn)
      cases hcs : Nat.toDigits 10 n with
      | nil => exact absurd hcs Nat.toDigits_ne_nil
      | cons c cs =>
        rw [hcs] at hhead hall
        rw [wholePart?_cons cs (by simpa using hhead), hall]
  have hsign : (Nat.toDigits 10 n).head? ≠ some '-' := by
    intro hhead
    exact absurd (hdigits _ (List.mem_of_head? hhead)) (by decide)
  simp only [numeral?, hsign, if_false, hwhole, Option.bind_eq_bind, Option.bind_some]
  rfl

theorem Token.first?_digit {c : Char} (hc : c.isDigit = true) (rest : List Char) :
    first? c rest = (numeral? (c :: rest)).bind fun (numeral, rest) =>
      numeral.value?.map fun value => (.scalar (.number value), rest) := by
  unfold first?
  split
  case h_11 =>
    cases numeral? (c :: rest) with
    | none => rfl
    | some found =>
      simp only [Option.bind_eq_bind, Option.bind_some]
      cases found.1.value? <;> rfl
  all_goals cases hc

/-- A number that fits its word is read back as it is written. -/
theorem scan?_digits {n : Nat} (h : n ≤ maxInteger) {c : Char} (hc : isInert c = true)
    (rest : List Char) :
    Token.scan? (Nat.toDigits 10 n ++ c :: rest) =
      (Token.scan? (c :: rest)).map (.scalar (.number (.integer n)) :: ·) := by
  have hnumeral := numeral?_stops (Nat.toDigits 10 n) c rest hc
  have hvalue : (⟨false, Nat.toDigits 10 n, none, none⟩ : Numeral).value? = some (.integer n) := by
    have hwhole : wholeDigits 0 (Nat.toDigits 10 n) = (n, 0) := by
      rw [wholeDigits_eq, Nat.ofDigitChars_ten_toDigits]
      rwa [Nat.ofDigitChars_ten_toDigits]
    simp [Numeral.value?, hwhole]
  rw [numeral?_toDigits, Option.map_some] at hnumeral
  have hdigits : ∀ c ∈ Nat.toDigits 10 n, c.isDigit = true := fun c =>
    Nat.isDigit_of_mem_toDigits (by decide) (by decide)
  cases hcs : Nat.toDigits 10 n with
  | nil => exact absurd hcs Nat.toDigits_ne_nil
  | cons d ds =>
    rw [hcs] at hnumeral hvalue hdigits
    have hd : d.isDigit = true := hdigits d List.mem_cons_self
    have hspace : isSpace d = false := by
      refine Bool.eq_false_iff.2 fun hspace => ?_
      simp only [isSpace, Bool.or_eq_true, beq_iff_eq] at hspace
      rcases hspace with ((rfl | rfl) | rfl) | rfl <;> cases hd
    rw [List.cons_append, Token.scan?_cons hspace, Token.first?_digit hd, ← List.cons_append,
      hnumeral]
    simp [hvalue]

/-! ## Values -/

/-- Values that are read as they are written: their numbers are integers that fit a word, and no
more than so many arrays and objects are open at once. -/
def Readable : Nat → Json → Prop
  | _, .null | _, .bool _ | _, .text _ => True
  | _, .number found => ∃ n : Nat, n ≤ maxInteger ∧ found = .integer n
  | 0, .array _ | 0, .object _ => False
  | within + 1, .array items => ∀ item ∈ items, item.Readable within
  | within + 1, .object members => ∀ member ∈ members, member.2.Readable within

@[simp]
theorem readable_text (within : Nat) (content : String) : (text content).Readable within := by
  cases within <;> trivial

@[simp]
theorem readable_bool (within : Nat) (b : Bool) : (bool b).Readable within := by
  cases within <;> trivial

theorem readable_integer (within : Nat) {n : Nat} (h : n ≤ maxInteger) :
    (number (.integer n)).Readable within := by
  cases within <;> exact ⟨n, h, rfl⟩

@[simp]
theorem readable_array {within : Nat} {items : List Json} :
    (array items).Readable (within + 1) ↔ ∀ item ∈ items, item.Readable within :=
  Iff.rfl

@[simp]
theorem readable_object {within : Nat} {members : List (String × Json)} :
    (object members).Readable (within + 1) ↔ ∀ member ∈ members, member.2.Readable within :=
  Iff.rfl

/-- The text of a value is made of the value's tokens. -/
def Scans (value : Json) : Prop :=
  ∀ (depth : Nat) (c : Char) (rest : List Char), isInert c = true →
    Token.scan? (prettyAt depth value ++ c :: rest) =
      (Token.scan? (c :: rest)).map (value.tokens ++ ·)

theorem scan?_newline (depth : Nat) (rest : List Char) :
    Token.scan? (newline depth ++ rest) = Token.scan? rest := by
  rw [newline, List.cons_append, Token.scan?_space rfl]
  induction 2 * depth with
  | zero => rfl
  | succ count ih => rw [List.replicate_succ, List.cons_append, Token.scan?_space rfl, ih]

/-- The text of a word is one token. -/
theorem scan?_word (c : Char) (word : List Char) (value : Json) (hspace : isSpace c = false)
    (hfirst : ∀ rest, Token.first? c (word ++ rest) = some (.scalar value, rest))
    (rest : List Char) :
    Token.scan? (c :: word ++ rest) = (Token.scan? rest).map (.scalar value :: ·) := by
  rw [List.cons_append, Token.scan?_cons hspace, hfirst]
  simp

theorem scans_of_readable_zero {value : Json} (h : value.Readable 0) : value.Scans := by
  intro depth c rest hc
  cases value with
  | null =>
    rw [tokens]
    · exact scan?_word 'n' "ull".toList _ rfl (fun rest => by simp [Token.first?, afterWord?]) _
    all_goals simp
  | bool b =>
    rw [tokens]
    · cases b with
      | true =>
        exact scan?_word 't' "rue".toList _ rfl (fun rest => by simp [Token.first?, afterWord?]) _
      | false =>
        exact scan?_word 'f' "alse".toList _ rfl (fun rest => by simp [Token.first?, afterWord?]) _
    all_goals simp
  | number found =>
    obtain ⟨n, hn, rfl⟩ := h
    have htext : prettyAt depth (.number (.integer n)) = Nat.toDigits 10 n := Nat.toList_repr
    rw [tokens]
    · rw [htext]
      exact scan?_digits hn hc rest
    all_goals simp
  | text content =>
    rw [prettyAt, tokens]
    exact scan?_string content (c :: rest)
  | array | object => exact h.elim

theorem separated_cons_cons (first second : List Token) (rest : List (List Token)) :
    separated (first :: second :: rest) = first ++ .comma :: separated (second :: rest) :=
  rfl

/-- The text of items is made of their tokens, with commas between them. -/
theorem scan?_prettyItems {items : List Json} (hitems : ∀ item ∈ items, item.Scans)
    (hsome : items ≠ []) (depth : Nat) {c : Char} (hc : isInert c = true) (rest : List Char) :
    Token.scan? (prettyItems depth items ++ c :: rest) =
      (Token.scan? (c :: rest)).map (separated (items.map tokens) ++ ·) := by
  induction items with
  | nil => exact absurd rfl hsome
  | cons item items ih =>
    obtain ⟨hitem, hitems⟩ := List.forall_mem_cons.1 hitems
    cases items with
    | nil =>
      rw [prettyItems, List.append_assoc, scan?_newline, hitem depth c rest hc]
      simp [separated]
    | cons second items =>
      have hmore := ih hitems (by simp)
      rw [prettyItems, List.append_assoc, List.append_assoc, List.append_assoc, scan?_newline,
        List.singleton_append, hitem depth ',' _ rfl, Token.scan?_mark .comma rfl, hmore]
      · simp [separated_cons_cons, Function.comp_def]
      · simp

/-- The text of members is made of their tokens, with commas between them. -/
theorem scan?_prettyMembers {members : List (String × Json)}
    (hmembers : ∀ member ∈ members, member.2.Scans) (hsome : members ≠ []) (depth : Nat) {c : Char}
    (hc : isInert c = true) (rest : List Char) :
    Token.scan? (prettyMembers depth members ++ c :: rest) =
      (Token.scan? (c :: rest)).map (separated (members.map memberTokens) ++ ·) := by
  have hmember : ∀ name (value : Json) (d : Char) (rest : List Char), value.Scans →
      isInert d = true →
      Token.scan? (string name ++ ([':', ' '] ++ (prettyAt depth value ++ d :: rest))) =
        (Token.scan? (d :: rest)).map (memberTokens (name, value) ++ ·) := by
    intro name value d rest hvalue hd
    rw [scan?_string, List.cons_append, Token.scan?_mark .colon rfl, List.singleton_append,
      Token.scan?_space rfl, hvalue depth d rest hd]
    simp [memberTokens, Function.comp_def]
  induction members with
  | nil => exact absurd rfl hsome
  | cons member members ih =>
    obtain ⟨name, value⟩ := member
    obtain ⟨hfirst, hmore⟩ := List.forall_mem_cons.1 hmembers
    cases members with
    | nil =>
      rw [prettyMembers]
      simp only [List.append_assoc]
      rw [scan?_newline, hmember name value c rest hfirst hc]
      simp [separated]
    | cons second members =>
      rw [prettyMembers]
      · simp only [List.append_assoc]
        rw [scan?_newline, List.singleton_append, hmember name value ',' _ hfirst rfl,
          Token.scan?_mark .comma rfl, ih hmore (by simp)]
        simp [separated_cons_cons, Function.comp_def]
      · simp

/-- What is written between two marks, the second one on a line of its own. -/
theorem scan?_enclosed {first last : Char} (opens closes : Token)
    (hopens : opens.mark? = some first) (hcloses : closes.mark? = some last) {lines : List Char}
    {ts : List Token}
    (hlines : ∀ rest, Token.scan? (lines ++ '\n' :: rest) =
      (Token.scan? ('\n' :: rest)).map (ts ++ ·)) (depth : Nat) (rest : List Char) :
    Token.scan? ([first] ++ lines ++ newline depth ++ [last] ++ rest) =
      (Token.scan? rest).map ((opens :: (ts ++ [closes])) ++ ·) := by
  have hclosing := scan?_newline depth (last :: rest)
  simp only [newline, List.append_assoc, List.cons_append, List.nil_append] at hclosing ⊢
  rw [Token.scan?_mark opens hopens, hlines, hclosing, Token.scan?_mark closes hcloses]
  simp [Function.comp_def]

/-- The text of a readable value is made of the value's tokens. -/
theorem scans_of_readable {within : Nat} {value : Json} (h : value.Readable within) :
    value.Scans := by
  induction within generalizing value with
  | zero => exact scans_of_readable_zero h
  | succ within ih =>
    cases value with
    | null | bool | number | text => exact scans_of_readable_zero h
    | array items =>
      intro depth c rest hc
      cases items with
      | nil =>
        rw [prettyAt, tokens, List.cons_append, Token.scan?_mark .openBracket rfl,
          List.singleton_append, Token.scan?_mark .closeBracket rfl]
        simp [separated, Function.comp_def]
      | cons item items =>
        rw [prettyAt, tokens]
        exact scan?_enclosed .openBracket .closeBracket rfl rfl
          (scan?_prettyItems (fun item hmem => ih (h item hmem)) (by simp) _ rfl) depth _
    | object members =>
      intro depth c rest hc
      cases members with
      | nil =>
        rw [prettyAt, tokens_object, List.cons_append, Token.scan?_mark .openBrace rfl,
          List.singleton_append, Token.scan?_mark .closeBrace rfl]
        simp [separated, Function.comp_def]
      | cons member members =>
        rw [prettyAt, tokens_object]
        exact scan?_enclosed .openBrace .closeBrace rfl rfl
          (scan?_prettyMembers (fun member hmem => ih (h member hmem)) (by simp) _ rfl) depth _

/-! ## Reading the tokens -/

namespace Reading

theorem steps_cons_of {r r' r'' : Reading} {token : Token} {ts : List Token}
    (hstep : r.step token = some r') (h : r'.steps ts = some r'') :
    r.steps (token :: ts) = some r'' := by
  rw [steps_cons, hstep]
  exact h

theorem steps_append_of {r r' r'' : Reading} {ts ts' : List Token} (h : r.steps ts = some r')
    (h' : r'.steps ts' = some r'') : r.steps (ts ++ ts') = some r'' := by
  rw [steps_append, h]
  exact h'

/-- The items behind one are taken, if each of them is. -/
theorem steps_items {items : List Json} {frames : List Frame}
    (hitems : ∀ item ∈ items, ∀ done, (value (.array done :: frames)).steps item.tokens =
      some (complete item (.array done :: frames))) (found : Json) (done : List Json) :
    (complete found (.array done :: frames)).steps
      ((items.map Json.tokens).flatMap (.comma :: ·) ++ [.closeBracket]) =
        some (complete (.array (done.reverse ++ found :: items)) frames) := by
  induction items generalizing found done with
  | nil => simp [steps_cons, step]
  | cons item items ih =>
    obtain ⟨hitem, hitems⟩ := List.forall_mem_cons.1 hitems
    have hrest := ih hitems item (found :: done)
    rw [List.reverse_cons, List.append_assoc, List.singleton_append] at hrest
    rw [List.map_cons, List.flatMap_cons, List.cons_append, List.cons_append, List.append_assoc]
    exact steps_cons_of rfl (steps_append_of (hitem _) hrest)

theorem steps_members {members : List (String × Json)} {frames : List Frame}
    (hmembers : ∀ member ∈ members, ∀ done content,
      (value (.object done content :: frames)).steps member.2.tokens =
        some (complete member.2 (.object done content :: frames)))
    (found : Json) (content : String) (done : List (String × Json)) :
    (complete found (.object done content :: frames)).steps
      ((members.map memberTokens).flatMap (.comma :: ·) ++ [.closeBrace]) =
        some (complete (.object (done.reverse ++ (content, found) :: members)) frames) := by
  induction members generalizing found content done with
  | nil => simp [steps_cons, step]
  | cons member members ih =>
    obtain ⟨hmember, hmembers⟩ := List.forall_mem_cons.1 hmembers
    have hrest := ih hmembers member.2 member.1 ((content, found) :: done)
    rw [List.reverse_cons, List.append_assoc, List.singleton_append] at hrest
    rw [List.map_cons, List.flatMap_cons, List.cons_append, List.cons_append, List.append_assoc]
    refine steps_cons_of rfl (steps_cons_of rfl (steps_cons_of rfl ?_))
    exact steps_append_of (hmember _ _) hrest

/-- The tokens of a readable value are taken where enough room is left in the stack. -/
theorem steps_tokens {within : Nat} {found : Json} (h : found.Readable within)
    {frames : List Frame} (hroom : frames.length + within ≤ maxDepth) :
    (value frames).steps found.tokens = some (complete found frames) := by
  induction within generalizing found frames with
  | zero =>
    cases found with
    | null | bool | number | text => rw [Json.tokens] <;> simp [steps_cons, step, openValue]
    | array | object => exact h.elim
  | succ within ih =>
    have hopen : frames.length < maxDepth := by omega
    cases found with
    | null | bool | number | text => rw [Json.tokens] <;> simp [steps_cons, step, openValue]
    | array items =>
      have hitems : ∀ item ∈ items, ∀ done, (value (.array done :: frames)).steps item.tokens =
          some (complete item (.array done :: frames)) := fun item hmem done =>
        ih (h item hmem) (by rw [List.length_cons]; omega)
      rw [Json.tokens]
      refine steps_cons_of (if_pos hopen) ?_
      cases items with
      | nil => rfl
      | cons first items =>
        obtain ⟨hfirst, hitems⟩ := List.forall_mem_cons.1 hitems
        have hsteps := steps_append_of (hfirst []) (steps_items hitems first [])
        -- the first item is read as one behind a comma would be
        obtain ⟨token, rest, htokens, hclose, -⟩ := exists_tokens_eq first
        rw [htokens] at hsteps
        rw [List.map_cons, separated, htokens]
        simp only [List.append_assoc, List.cons_append, steps_cons] at hsteps ⊢
        rwa [step_firstItem hclose]
    | object members =>
      have hmembers : ∀ member ∈ members, ∀ done content,
          (value (.object done content :: frames)).steps member.2.tokens =
            some (complete member.2 (.object done content :: frames)) :=
        fun member hmem done content => ih (h member hmem) (by rw [List.length_cons]; omega)
      rw [tokens_object]
      refine steps_cons_of (if_pos hopen) ?_
      cases members with
      | nil => rfl
      | cons first members =>
        obtain ⟨hfirst, hmembers⟩ := List.forall_mem_cons.1 hmembers
        rw [List.map_cons, separated, memberTokens, List.append_assoc]
        refine steps_cons_of rfl (steps_cons_of rfl ?_)
        exact steps_append_of (hfirst [] _) (steps_members hmembers first.2 first.1 [])

end Reading

/-- What is written of a readable value is read as the value. -/
theorem read_pretty {within : Nat} {value : Json} (h : value.Readable within)
    (hwithin : within ≤ maxDepth) : read (value.pretty ++ "\n") = some value := by
  have hscan := scans_of_readable h 0 '\n' [] rfl
  have hend : Token.scan? ['\n'] = some [] := by
    rw [Token.scan?_space rfl, Token.scan?_nil]
  have htext : (value.pretty ++ "\n").toList = prettyAt 0 value ++ ['\n'] := by
    simp [pretty]
  rw [read, ofChars?, htext, hscan, hend]
  simp only [Option.map_some, List.append_nil, Option.bind_eq_bind, Option.bind_some, ofTokens?]
  rw [Reading.steps_tokens h (by simpa using hwithin)]
  rfl

end Patchwise.Json

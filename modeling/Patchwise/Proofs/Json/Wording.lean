import Mathlib.Algebra.GroupWithZero.Nat
import Patchwise.Proofs.Json.Reading

/-!
# The words of a value

A value can be read from one list of tokens only. What the tokens of a text show is therefore known
from the value that the text tells, and the other way round.

## Main definitions

- `Json.parts`, `Json.strings` — the values and the strings within a value
- `Json.objectsAt` — the objects within a value that are members of a name
- `Json.tokens` — the tokens that a value is read from
- `Json.Reading.tokens` — the tokens that a reading has taken

## Main results

- `Json.tokens_of_ofTokens?` — a value is read from its own tokens
- `Json.Reading.passes_tokens` — reading a value's tokens completes the value
- `Json.openings_tokens` — an object in a member begins with three tokens in a row

## Design notes

The reader takes any scalar token for its value, also one that holds an array or an object. The
scanner makes no such token (`Token.IsScalar`).
-/

namespace Patchwise.Json

/-! ## Parts -/

theorem sizeOf_snd_lt {members : List (String × Json)} {member : String × Json}
    (h : member ∈ members) : sizeOf member.2 < sizeOf (object members) := by
  have hmember := List.sizeOf_lt_of_mem h
  obtain ⟨name, value⟩ := member
  rw [Prod.mk.sizeOf_spec] at hmember
  rw [object.sizeOf_spec]
  dsimp only
  omega

/-- The values within a value, itself among them. -/
def parts : Json → List Json
  | .array items => .array items :: items.flatMap parts
  | .object members => .object members :: members.flatMap fun member => member.2.parts
  | value => [value]
decreasing_by
  · decreasing_tactic
  · rename_i hmem
    exact sizeOf_snd_lt hmem

def members : Json → List (String × Json)
  | .object members => members
  | _ => []

/-- The strings within a value, those that are names of members among them. -/
def strings (value : Json) : List String :=
  value.parts.flatMap fun part => part.text?.toList ++ part.members.map Prod.fst

def entries? : Json → Option (List (String × Json))
  | .object members => some members
  | _ => none

/-- The object that a member of a name is, with its members. -/
def objectOf? (name : String) (member : String × Json) : Option (List (String × Json)) :=
  if member.1 = name then member.2.entries? else none

/-- The objects within a value that are members of a name, wherever these stand. -/
def objectsAt (name : String) (value : Json) : List (List (String × Json)) :=
  value.parts.flatMap fun part => part.members.filterMap (objectOf? name)

/-! ## Tokens -/

/-- Tokens in groups, with a comma between two groups. -/
def separated : List (List Token) → List Token
  | [] => []
  | first :: rest => first ++ rest.flatMap (.comma :: ·)

def tokens : Json → List Token
  | .text content => [.text content]
  | .array items => .openBracket :: (separated (items.map tokens) ++ [.closeBracket])
  | .object members =>
    .openBrace :: (separated (members.map fun member => .text member.1 :: .colon :: member.2.tokens)
      ++ [.closeBrace])
  | value => [.scalar value]
decreasing_by
  · decreasing_tactic
  · rename_i hmem
    exact sizeOf_snd_lt hmem

def memberTokens (member : String × Json) : List Token :=
  .text member.1 :: .colon :: member.2.tokens

theorem tokens_object (members : List (String × Json)) :
    (object members).tokens =
      .openBrace :: (separated (members.map memberTokens) ++ [.closeBrace]) := by
  rw [tokens]
  rfl

/-- Groups, each of them with a comma behind it. -/
def followed (groups : List (List Token)) : List Token :=
  groups.flatMap (· ++ [.comma])

theorem followed_append (groups more : List (List Token)) :
    followed (groups ++ more) = followed groups ++ followed more := by
  simp [followed]

@[simp]
theorem followed_cons (group : List Token) (groups : List (List Token)) :
    followed (group :: groups) = group ++ .comma :: followed groups := by
  simp [followed]

@[simp]
theorem followed_nil : followed [] = [] :=
  rfl

/-- A comma stands in front of every group but the first, or behind every one but the last. -/
theorem separated_append (groups : List (List Token)) (group : List Token)
    (more : List (List Token)) :
    separated (groups ++ group :: more) =
      followed groups ++ (group ++ more.flatMap (.comma :: ·)) := by
  induction groups with
  | nil => rfl
  | cons first groups ih =>
    have hcomma : (groups ++ group :: more).flatMap (.comma :: ·) =
        .comma :: separated (groups ++ group :: more) := by
      cases groups <;> rfl
    rw [List.cons_append, separated, hcomma, ih, followed_cons]
    simp

/-! ## The tokens of a reading -/

def Frame.tokens : Frame → List Token
  | .array items => .openBracket :: followed (items.reverse.map Json.tokens)
  | .object members name =>
    .openBrace :: (followed (members.reverse.map memberTokens) ++ [.text name, .colon])

/-- The tokens of frames that are open, the outermost first. -/
def openTokens (frames : List Frame) : List Token :=
  frames.reverse.flatMap Frame.tokens

@[simp]
theorem openTokens_cons (frame : Frame) (frames : List Frame) :
    openTokens (frame :: frames) = openTokens frames ++ frame.tokens := by
  simp [openTokens]

/-- The tokens that a reading has taken. -/
def Reading.tokens : Reading → List Token
  | value frames => openTokens frames
  | firstItem frames => openTokens frames ++ [.openBracket]
  | firstName frames => openTokens frames ++ [.openBrace]
  | name members frames =>
    openTokens frames ++ .openBrace :: followed (members.reverse.map memberTokens)
  | colon members content frames =>
    openTokens frames ++
      .openBrace :: (followed (members.reverse.map memberTokens) ++ [.text content])
  | complete found frames => openTokens frames ++ found.tokens

/-- The tokens of an object are those that open it up to a member's value, and the others. -/
theorem tokens_object_append (front : List (String × Json)) (name : String) (item : Json)
    (back : List (String × Json)) :
    (object (front ++ (name, item) :: back)).tokens =
      (Frame.object front.reverse name).tokens ++
        (item.tokens ++ ((back.map memberTokens).flatMap (.comma :: ·) ++ [.closeBrace])) := by
  rw [tokens_object, List.map_append, List.map_cons, separated_append, Frame.tokens,
    List.reverse_reverse]
  simp [memberTokens]

theorem tokens_member (front : List (String × Json)) (name : String)
    (entries back : List (String × Json)) :
    (object (front ++ (name, .object entries) :: back)).tokens =
      (.openBrace :: followed (front.map memberTokens)) ++ .text name :: .colon :: .openBrace ::
        (separated (entries.map memberTokens) ++
          .closeBrace :: ((back.map memberTokens).flatMap (.comma :: ·) ++ [.closeBrace])) := by
  rw [tokens_object_append, tokens_object, Frame.tokens, List.reverse_reverse]
  simp

/-- The tokens of a value in which a member of a member stands: those in front of the member's own
value, that value's, those up to the end of the object around it, and the others. -/
theorem tokens_member_of_member (front back members later : List (String × Json))
    (outer inner : String) (item : Json) :
    (object (front ++ (outer, .object (members ++ (inner, item) :: later)) :: back)).tokens =
      ((Frame.object front.reverse outer).tokens ++ (Frame.object members.reverse inner).tokens) ++
        (item.tokens ++ ((later.map memberTokens).flatMap (.comma :: ·) ++
          .closeBrace :: ((back.map memberTokens).flatMap (.comma :: ·) ++ [.closeBrace]))) := by
  rw [tokens_object_append, tokens_object_append]
  simp

/-- If a token is a scalar, then it is one that a value is read from. -/
def Token.IsScalar (token : Token) : Prop :=
  ∀ value, token = .scalar value → value.tokens = [.scalar value]

namespace Reading

theorem tokens_of_openValue {frames : List Frame} {token : Token} {r : Reading}
    (hscalar : token.IsScalar) (h : openValue frames token = some r) :
    r.tokens = openTokens frames ++ [token] := by
  cases token with
  | text content =>
    cases h
    rw [tokens, Json.tokens]
  | scalar found =>
    cases h
    rw [tokens, hscalar found rfl]
  | openBracket | openBrace =>
    simp only [openValue] at h
    split at h
    next =>
      cases h
      rfl
    next => cases h
  | closeBrace | closeBracket | comma | colon => cases h

/-- A step takes one token. -/
theorem tokens_of_step {r q : Reading} {token : Token} (hscalar : token.IsScalar)
    (h : r.step token = some q) : q.tokens = r.tokens ++ [token] := by
  cases r with
  | value frames => exact tokens_of_openValue hscalar h
  | firstItem frames =>
    by_cases hclose : token = .closeBracket
    · subst hclose
      cases h
      simp [tokens, Json.tokens, separated]
    · rw [step_firstItem hclose] at h
      rw [tokens_of_openValue hscalar h, openTokens_cons]
      rfl
  | firstName frames =>
    cases token <;> cases h
    · simp [tokens, Json.tokens, separated]
    · simp [tokens]
  | name members frames =>
    cases token <;> cases h
    simp [tokens]
  | colon members content frames =>
    cases token <;> cases h
    simp [tokens, Frame.tokens]
  | complete found frames =>
    cases frames with
    | nil => cases token <;> cases h
    | cons frame frames =>
      cases frame with
      | array items =>
        obtain ⟨rfl, rfl⟩ | ⟨rfl, rfl⟩ := step_array_eq_some h
        · simp [tokens, Frame.tokens, followed_append]
        · simp [tokens, Frame.tokens, Json.tokens, separated_append]
      | object members content =>
        obtain ⟨rfl, rfl⟩ | ⟨rfl, rfl⟩ := step_object_eq_some h
        · simp [tokens, Frame.tokens, followed_append, memberTokens]
        · simp [tokens, Frame.tokens, tokens_object, separated_append, memberTokens]

theorem tokens_of_steps {r q : Reading} {ts : List Token} (hscalar : ∀ token ∈ ts, token.IsScalar)
    (h : r.steps ts = some q) : q.tokens = r.tokens ++ ts := by
  induction ts generalizing r with
  | nil =>
    cases h
    rw [List.append_nil]
  | cons token ts ih =>
    obtain ⟨htoken, hts⟩ := List.forall_mem_cons.1 hscalar
    rw [steps_cons, Option.bind_eq_some_iff] at h
    obtain ⟨r', hstep, hsteps⟩ := h
    rw [ih hts hsteps, tokens_of_step htoken hstep, List.append_assoc, List.singleton_append]

end Reading

/-- A value is read from its own tokens. -/
theorem tokens_of_ofTokens? {ts : List Token} {value : Json}
    (hscalar : ∀ token ∈ ts, token.IsScalar) (h : ofTokens? ts = some value) :
    value.tokens = ts := by
  obtain ⟨r, hsteps, hresult⟩ := Option.bind_eq_some_iff.1 h
  obtain rfl := Reading.result?_eq_some hresult
  exact Reading.tokens_of_steps hscalar hsteps

/-! ## Reading a value's tokens -/

/-- A value's tokens begin with one that neither closes an array nor follows a name. -/
theorem exists_tokens_eq (value : Json) :
    ∃ token rest, value.tokens = token :: rest ∧ token ≠ .closeBracket ∧ token ≠ .colon := by
  cases value with
  | array items => exact ⟨.openBracket, _, by rw [tokens], by simp, by simp⟩
  | object members => exact ⟨.openBrace, _, tokens_object members, by simp, by simp⟩
  | _ => exact ⟨_, [], by rw [tokens] <;> simp, by simp, by simp⟩

namespace Reading

/-- If a reading can take some tokens, then it goes on as another one behind them. -/
def Passes (r : Reading) (ts : List Token) (r' : Reading) : Prop :=
  ∀ more q, r.steps (ts ++ more) = some q → r'.steps more = some q

namespace Passes

variable {r r' r'' : Reading} {ts ts' : List Token} {token : Token}

theorem nil (r : Reading) : r.Passes [] r :=
  fun _ _ h => h

theorem cons (hstep : ∀ q, r.step token = some q → q = r') (h : r'.Passes ts r'') :
    r.Passes (token :: ts) r'' := by
  intro more q hsteps
  rw [List.cons_append, steps_cons, Option.bind_eq_some_iff] at hsteps
  obtain ⟨r₁, hfirst, hrest⟩ := hsteps
  obtain rfl := hstep r₁ hfirst
  exact h more q hrest

theorem append (h : r.Passes ts r') (h' : r'.Passes ts' r'') : r.Passes (ts ++ ts') r'' := by
  intro more q hsteps
  rw [List.append_assoc] at hsteps
  exact h' more q (h _ q hsteps)

theorem steps_eq (h : r.Passes ts r') {q : Reading} (hsteps : r.steps (ts ++ ts') = some q) :
    r.steps ts = some r' := by
  rw [steps_append, Option.bind_eq_some_iff] at hsteps
  obtain ⟨r₁, hfirst, -⟩ := hsteps
  have hlast := h [] r₁ (by rwa [List.append_nil])
  cases hlast
  exact hfirst

end Passes

theorem openValue_openBracket {frames : List Frame} {q : Reading}
    (h : (value frames).step .openBracket = some q) : q = firstItem frames := by
  simp only [step, openValue] at h
  split at h
  next => exact (Option.some.inj h).symm
  next => cases h

theorem openValue_openBrace {frames : List Frame} {q : Reading}
    (h : (value frames).step .openBrace = some q) : q = firstName frames := by
  simp only [step, openValue] at h
  split at h
  next => exact (Option.some.inj h).symm
  next => cases h

/-- The items behind one are taken, if the tokens of each of them are. -/
theorem passes_items {items : List Json}
    (hitems : ∀ item ∈ items, ∀ frames, (value frames).Passes item.tokens (complete item frames))
    (found : Json) (done : List Json) (frames : List Frame) :
    (complete found (.array done :: frames)).Passes
      ((items.map Json.tokens).flatMap (.comma :: ·) ++ [.closeBracket])
      (complete (.array (done.reverse ++ found :: items)) frames) := by
  induction items generalizing found done with
  | nil =>
    refine .cons (fun q hstep => ?_) (.nil _)
    cases hstep
    simp
  | cons item items ih =>
    obtain ⟨hitem, hitems⟩ := List.forall_mem_cons.1 hitems
    have hrest := ih hitems item (found :: done)
    rw [List.reverse_cons, List.append_assoc, List.singleton_append] at hrest
    rw [List.map_cons, List.flatMap_cons, List.cons_append, List.cons_append, List.append_assoc]
    exact .cons (fun q hstep => (Option.some.inj hstep).symm) ((hitem _).append hrest)

theorem passes_members {members : List (String × Json)}
    (hmembers : ∀ member ∈ members, ∀ frames,
      (value frames).Passes member.2.tokens (complete member.2 frames))
    (found : Json) (content : String) (done : List (String × Json)) (frames : List Frame) :
    (complete found (.object done content :: frames)).Passes
      ((members.map memberTokens).flatMap (.comma :: ·) ++ [.closeBrace])
      (complete (.object (done.reverse ++ (content, found) :: members)) frames) := by
  induction members generalizing found content done with
  | nil =>
    refine .cons (fun q hstep => ?_) (.nil _)
    cases hstep
    simp
  | cons member members ih =>
    obtain ⟨hmember, hmembers⟩ := List.forall_mem_cons.1 hmembers
    have hrest := ih hmembers member.2 member.1 ((content, found) :: done)
    rw [List.reverse_cons, List.append_assoc, List.singleton_append] at hrest
    rw [List.map_cons, List.flatMap_cons, List.cons_append, List.cons_append, List.append_assoc]
    refine .cons (fun q hstep => (Option.some.inj hstep).symm) ?_
    refine .cons (fun q hstep => (Option.some.inj hstep).symm) ?_
    refine .cons (fun q hstep => (Option.some.inj hstep).symm) ?_
    exact (hmember _).append hrest

/-- Reading a value's tokens completes the value. -/
theorem passes_tokens (found : Json) (frames : List Frame) :
    (value frames).Passes found.tokens (complete found frames) := by
  induction found using Json.tokens.induct generalizing frames with
  | case1 content =>
    rw [Json.tokens]
    exact .cons (fun q hstep => (Option.some.inj hstep).symm) (.nil _)
  | case2 items ih =>
    rw [Json.tokens]
    refine .cons (fun q => openValue_openBracket) ?_
    cases items with
    | nil => exact .cons (fun q hstep => (Option.some.inj hstep).symm) (.nil _)
    | cons first items =>
      obtain ⟨hfirst, hitems⟩ := List.forall_mem_cons.1 ih
      have hpasses := (hfirst _).append (passes_items hitems first [] frames)
      -- the first item is read as one behind a comma would be
      obtain ⟨token, rest, htokens, hclose, -⟩ := exists_tokens_eq first
      intro more q hsteps
      refine hpasses more q ?_
      rw [List.map_cons, separated, htokens] at hsteps
      rw [htokens]
      simp only [List.append_assoc, List.cons_append, steps_cons] at hsteps ⊢
      rwa [step_firstItem hclose] at hsteps
  | case3 members ih =>
    rw [tokens_object]
    refine .cons (fun q => openValue_openBrace) ?_
    cases members with
    | nil => exact .cons (fun q hstep => (Option.some.inj hstep).symm) (.nil _)
    | cons first members =>
      obtain ⟨hfirst, hmembers⟩ := List.forall_mem_cons.1 ih
      have hpasses := (hfirst _).append (passes_members hmembers first.2 first.1 [] frames)
      rw [List.map_cons, separated, memberTokens, List.append_assoc]
      refine .cons (fun q hstep => (Option.some.inj hstep).symm) ?_
      exact .cons (fun q hstep => (Option.some.inj hstep).symm) hpasses
  | case4 found htext harray hobject =>
    rw [Json.tokens]
    · exact .cons (fun q hstep => (Option.some.inj hstep).symm) (.nil _)
    all_goals assumption

/-- Behind some members and the name of a further one, its value is read. -/
theorem passes_followed (members done : List (String × Json)) (content : String)
    (frames : List Frame) :
    (name done frames).Passes (followed (members.map memberTokens) ++ [.text content, .colon])
      (value (.object (members.reverse ++ done) content :: frames)) := by
  induction members generalizing done with
  | nil =>
    refine .cons (fun q hstep => (Option.some.inj hstep).symm) ?_
    exact .cons (fun q hstep => (Option.some.inj hstep).symm) (.nil _)
  | cons member members ih =>
    have hrest := ih (member :: done)
    rw [List.map_cons, followed_cons, memberTokens, List.reverse_cons, List.append_assoc,
      List.append_assoc]
    refine .cons (fun q hstep => (Option.some.inj hstep).symm) ?_
    refine .cons (fun q hstep => (Option.some.inj hstep).symm) ?_
    refine (passes_tokens member.2 _).append ?_
    exact .cons (fun q hstep => (Option.some.inj hstep).symm) hrest

/-- In an object, the value of a member is read behind the members in front of it. -/
theorem passes_object (members : List (String × Json)) (content : String) (frames : List Frame) :
    (value frames).Passes (Frame.object members.reverse content).tokens
      (value (.object members.reverse content :: frames)) := by
  have hpasses := passes_followed members [] content frames
  rw [List.append_nil] at hpasses
  rw [Frame.tokens, List.reverse_reverse]
  refine .cons (fun q => openValue_openBrace) ?_
  intro more q hsteps
  refine hpasses more q ?_
  -- the first name is read as one behind a comma would be
  cases members <;> exact hsteps

end Reading

/-! ## Objects in members -/

theorem objectsAt_text (name content : String) : (text content).objectsAt name = [] := by
  simp [objectsAt, parts, members]

theorem objectsAt_array (name : String) (items : List Json) :
    (array items).objectsAt name = items.flatMap (objectsAt name) := by
  rw [objectsAt, parts, List.flatMap_cons, List.flatMap_assoc]
  rfl

theorem objectsAt_object (name : String) (members : List (String × Json)) :
    (object members).objectsAt name =
      members.filterMap (objectOf? name) ++
        members.flatMap fun member => member.2.objectsAt name := by
  rw [objectsAt, parts, List.flatMap_cons, List.flatMap_assoc]
  rfl

theorem length_objectsAt_object (name : String) (members : List (String × Json)) :
    ((object members).objectsAt name).length = (members.map fun member =>
      (objectOf? name member).toList.length + (member.2.objectsAt name).length).sum := by
  rw [objectsAt_object]
  induction members with
  | nil => rfl
  | cons member members ih =>
    rw [List.length_append] at ih
    rw [List.map_cons, List.sum_cons, ← ih, List.filterMap_cons, List.flatMap_cons]
    cases objectOf? name member <;> simp <;> omega

/-- Whether tokens begin with a name and the opening of the object that is the name's member. -/
def isOpening (name : String) : List Token → Bool
  | .text content :: .colon :: .openBrace :: _ => content = name
  | _ => false

/-- How often a name and the opening of an object stand in a row of tokens. -/
def openings (name : String) : List Token → Nat
  | [] => 0
  | token :: rest => (isOpening name (token :: rest)).toNat + openings name rest

section Openings

variable {name : String}

theorem openings_cons {token : Token} (htext : ∀ content, token ≠ .text content)
    (rest : List Token) : openings name (token :: rest) = openings name rest := by
  cases token with
  | text content => exact absurd rfl (htext content)
  | _ => exact Nat.zero_add _

theorem openings_text {content : String} {rest : List Token} (hrest : rest.head? ≠ some .colon) :
    openings name (.text content :: rest) = openings name rest := by
  have hnot : isOpening name (.text content :: rest) = false := by
    unfold isOpening
    split
    next heq =>
      cases heq
      exact absurd rfl hrest
    next => rfl
  rw [openings, hnot]
  exact Nat.zero_add _

/-- A member adds an opening if its value is an object and its name is the one in question. -/
theorem openings_member (member : String × Json) (more : List Token) :
    openings name (memberTokens member ++ more) =
      (objectOf? name member).toList.length + openings name (member.2.tokens ++ more) := by
  obtain ⟨content, value⟩ := member
  have hopening : (isOpening name (memberTokens (content, value) ++ more)).toNat =
      (objectOf? name (content, value)).toList.length := by
    cases value with
    | object members =>
      rw [memberTokens, tokens_object]
      by_cases hname : content = name <;> simp [isOpening, objectOf?, entries?, hname]
    | array items =>
      rw [memberTokens, tokens]
      simp [isOpening, objectOf?, entries?]
    | _ =>
      rw [memberTokens, tokens] <;> simp [isOpening, objectOf?, entries?]
  rw [← hopening]
  exact congrArg _ (openings_cons (by simp) _)

theorem head?_flatMap_comma (groups : List (List Token)) {more : List Token}
    (hmore : more.head? ≠ some .colon) :
    (groups.flatMap (.comma :: ·) ++ more).head? ≠ some .colon := by
  cases groups with
  | nil => exact hmore
  | cons => simp

theorem openings_separated {α : Type} {group : α → List Token} (count : α → Nat) {as : List α}
    (hgroup : ∀ a ∈ as, ∀ more, more.head? ≠ some .colon →
      openings name (group a ++ more) = count a + openings name more)
    {more : List Token} (hmore : more.head? ≠ some .colon) :
    openings name (separated (as.map group) ++ more) =
      (as.map count).sum + openings name more := by
  -- behind the first group, each one has a comma in front of it, which belongs to no opening
  have hbehind : ∀ bs : List α, (∀ b ∈ bs, b ∈ as) →
      openings name ((bs.map group).flatMap (.comma :: ·) ++ more) =
        (bs.map count).sum + openings name more := by
    intro bs hbs
    induction bs with
    | nil => simp
    | cons b bs ih =>
      obtain ⟨hb, hbs⟩ := List.forall_mem_cons.1 hbs
      rw [List.map_cons, List.flatMap_cons, List.cons_append, List.cons_append,
        openings_cons (by simp), List.append_assoc,
        hgroup b hb _ (head?_flatMap_comma _ hmore), ih hbs, List.map_cons, List.sum_cons]
      omega
  cases as with
  | nil => simp [separated]
  | cons a as =>
    rw [List.map_cons, separated, List.append_assoc,
      hgroup a List.mem_cons_self _ (head?_flatMap_comma _ hmore),
      hbehind as fun b hb => List.mem_cons_of_mem _ hb, List.map_cons, List.sum_cons]
    omega

/-- An object in a member of a name begins with an opening, and nothing else does. -/
theorem openings_tokens (value : Json) {more : List Token} (hmore : more.head? ≠ some .colon) :
    openings name (value.tokens ++ more) =
      (value.objectsAt name).length + openings name more := by
  induction value using Json.tokens.induct generalizing more with
  | case1 content =>
    rw [tokens, List.singleton_append, openings_text hmore, objectsAt_text, List.length_nil,
      Nat.zero_add]
  | case2 items ih =>
    rw [tokens, List.cons_append, openings_cons (by simp), List.append_assoc,
      openings_separated (fun item => (item.objectsAt name).length) (fun item hitem _ => ih item hitem)
        (by simp), objectsAt_array, List.length_flatMap, List.singleton_append,
      openings_cons (by simp)]
  | case3 members ih =>
    have hmember : ∀ member ∈ members, ∀ more : List Token, more.head? ≠ some .colon →
        openings name (memberTokens member ++ more) =
          ((objectOf? name member).toList.length + (member.2.objectsAt name).length) +
            openings name more := by
      intro member hmem more hmore
      rw [openings_member, ih member hmem hmore]
      omega
    rw [tokens_object, List.cons_append, openings_cons (by simp), List.append_assoc,
      openings_separated _ hmember (by simp), length_objectsAt_object, List.singleton_append,
      openings_cons (by simp)]
  | case4 value htext harray hobject =>
    cases value with
    | text content => exact absurd rfl (htext content)
    | array items => exact absurd rfl (harray items)
    | object members => exact absurd rfl (hobject members)
    | _ =>
      rw [tokens, List.singleton_append, openings_cons (by simp)]
      · simp [objectsAt, parts, members]
      all_goals simp

theorem openings_tokens_eq (name : String) (value : Json) :
    openings name value.tokens = (value.objectsAt name).length := by
  have htotal : openings name (value.tokens ++ []) = _ := openings_tokens value (by simp)
  rwa [List.append_nil] at htotal

theorem openings_le_append (name : String) (before after : List Token) :
    openings name after ≤ openings name (before ++ after) := by
  induction before with
  | nil => exact Nat.le_refl _
  | cons token before ih =>
    rw [List.cons_append, openings]
    omega

/-- Where there is one opening only, there is one place for it. -/
theorem eq_of_openings_le_one {before before' after after' : List Token}
    (hone : openings name (before ++ after) ≤ 1) (hsame : before ++ after = before' ++ after')
    (hafter : isOpening name after = true) (hafter' : isOpening name after' = true) :
    before = before' ∧ after = after' := by
  -- an opening in front of another one would make two
  have hlast : ∀ {front between behind : List Token},
      openings name (front ++ (between ++ behind)) ≤ 1 →
      isOpening name (between ++ behind) = true → isOpening name behind = true →
      between = [] := by
    intro front between behind hone hfirst hsecond
    cases between with
    | nil => rfl
    | cons token between =>
      have hfront := openings_le_append name front (token :: between ++ behind)
      have hbehind := openings_le_append name between behind
      rw [List.cons_append, openings, ← List.cons_append, hfirst] at hfront
      cases behind with
      | nil => cases hsecond
      | cons token' behind =>
        rw [openings, hsecond] at hbehind
        simp only [Bool.toNat_true] at hfront hbehind
        omega
  obtain ⟨between, rfl, rfl⟩ | ⟨between, rfl, rfl⟩ := List.append_eq_append_iff.1 hsame
  · obtain rfl := hlast hone hafter hafter'
    simp
  · rw [hsame] at hone
    obtain rfl := hlast hone hafter' hafter
    simp

end Openings

/-! ## Strings -/

theorem exists_mem_of_mem_separated {groups : List (List Token)} {token : Token}
    (hcomma : token ≠ .comma) (h : token ∈ separated groups) :
    ∃ group ∈ groups, token ∈ group := by
  cases groups with
  | nil => cases h
  | cons first rest =>
    obtain hfirst | hrest := List.mem_append.1 h
    · exact ⟨first, List.mem_cons_self, hfirst⟩
    · obtain ⟨group, hgroup, hmem⟩ := List.mem_flatMap.1 hrest
      exact ⟨group, List.mem_cons_of_mem _ hgroup,
        List.mem_of_ne_of_mem hcomma hmem⟩

theorem strings_text (content : String) : (text content).strings = [content] := by
  simp [strings, parts, text?, members]

theorem strings_array (items : List Json) : (array items).strings = items.flatMap strings := by
  rw [strings, parts, List.flatMap_cons, List.flatMap_assoc]
  rfl

theorem strings_object (members : List (String × Json)) :
    (object members).strings =
      members.map Prod.fst ++ members.flatMap fun member => member.2.strings := by
  rw [strings, parts, List.flatMap_cons, List.flatMap_assoc]
  rfl

theorem mem_strings_of_mem_tokens {value : Json} {content : String}
    (h : .text content ∈ value.tokens) : content ∈ value.strings := by
  induction value using Json.tokens.induct with
  | case1 found =>
    rw [tokens, List.mem_singleton] at h
    cases h
    simp [strings_text]
  | case2 items ih =>
    rw [tokens] at h
    have hseparated : .text content ∈ separated (items.map tokens) := by simpa using h
    obtain ⟨group, hgroup, hmem⟩ := exists_mem_of_mem_separated (by simp) hseparated
    obtain ⟨item, hitem, rfl⟩ := List.mem_map.1 hgroup
    rw [strings_array]
    exact List.mem_flatMap.2 ⟨item, hitem, ih item hitem hmem⟩
  | case3 members ih =>
    rw [tokens_object] at h
    have hseparated : .text content ∈ separated (members.map memberTokens) := by simpa using h
    obtain ⟨group, hgroup, hmem⟩ := exists_mem_of_mem_separated (by simp) hseparated
    obtain ⟨member, hmember, rfl⟩ := List.mem_map.1 hgroup
    rw [strings_object]
    obtain hname | hvalue : content = member.1 ∨ .text content ∈ member.2.tokens := by
      simpa [memberTokens] using hmem
    · exact List.mem_append_left _ (List.mem_map.2 ⟨member, hmember, hname.symm⟩)
    · exact List.mem_append_right _
        (List.mem_flatMap.2 ⟨member, hmember, ih member hmember hvalue⟩)
  | case4 value htext harray hobject =>
    rw [tokens, List.mem_singleton] at h
    · cases h
    all_goals assumption

/-! ## Members that are strings -/

/-- Among members that are strings, a string behind a name and a colon is a member of the name. -/
theorem exists_entry_of_separated {entries : List (String × Json)}
    (htexts : ∀ entry ∈ entries, ∃ content, entry.2 = .text content) {name content : String}
    {before after : List Token} (h : separated (entries.map memberTokens) =
      before ++ .text name :: .colon :: .text content :: after) :
    ∃ front back, entries = front ++ (name, .text content) :: back ∧
      before = followed (front.map memberTokens) := by
  induction entries generalizing before with
  | nil => simp [separated] at h
  | cons entry entries ih =>
    obtain ⟨⟨found, hfound⟩, hbehind⟩ := List.forall_mem_cons.1 htexts
    obtain ⟨key, value⟩ := entry
    obtain rfl : value = .text found := hfound
    rw [List.map_cons, separated, memberTokens, tokens] at h
    -- a string is preceded by a name and a colon only at the beginning of a member
    obtain _ | ⟨first, _ | ⟨second, _ | ⟨third, before⟩⟩⟩ := before
    · cases h
      exact ⟨[], entries, rfl, rfl⟩
    · cases h
    · cases entries <;> cases h
    · cases entries with
      | nil => simp at h
      | cons entry entries =>
        obtain _ | ⟨fourth, before⟩ := before
        · cases h
        · simp only [List.cons_append, List.nil_append, List.map_cons, List.flatMap_cons,
            List.cons.injEq] at h
          obtain ⟨rfl, rfl, rfl, rfl, h⟩ := h
          obtain ⟨front, back, hentries, rfl⟩ := ih hbehind h
          refine ⟨(key, .text found) :: front, back, by rw [hentries]; rfl, ?_⟩
          rw [List.map_cons, followed_cons, memberTokens, tokens]
          rfl

/-! ## Values that differ in one string -/

section DiffersAt

variable {outer inner before after : String} {value value' : Json}

theorem mem_strings_of_differsAt (h : DiffersAt outer inner before after value value')
    {content : String} (hmem : content ∈ value'.strings) :
    content = after ∨ content ∈ value.strings := by
  obtain ⟨_, fills, ⟨members, around, later, rest, -, hfills, -, -⟩, rfl, rfl⟩ := h
  simp only [hfills, strings_object, strings_text, List.map_append, List.map_cons,
    List.flatMap_append, List.flatMap_cons, List.mem_append, List.mem_cons,
    List.not_mem_nil] at hmem ⊢
  grind

/-- The one object of a name is still the only one, with the other string in it. -/
theorem objectsAt_of_differsAt (h : DiffersAt outer inner before after value value')
    {entries : List (String × Json)} (hone : value.objectsAt outer = [entries]) :
    ∃ front back, entries = front ++ (inner, .text before) :: back ∧
      value'.objectsAt outer = [front ++ (inner, .text after) :: back] := by
  obtain ⟨_, fills, ⟨members, around, later, rest, -, hfills, -, -⟩, rfl, rfl⟩ := h
  -- the other objects of the name do not depend on the string
  have hobjects : ∃ front back, ∀ content, (fills (.text content)).objectsAt outer =
      front ++ (members.reverse ++ (inner, .text content) :: later) :: back := by
    refine ⟨around.reverse.filterMap (objectOf? outer), rest.filterMap (objectOf? outer) ++
      (around.reverse ++ (outer, .object (members.reverse ++ later)) :: rest).flatMap
        fun member => member.2.objectsAt outer, fun content => ?_⟩
    simp only [hfills, objectsAt_object, objectsAt_text, List.filterMap_append,
      List.filterMap_cons, List.flatMap_append, List.flatMap_cons, objectOf?, entries?, if_true,
      List.append_assoc, List.cons_append, ite_self, List.nil_append]
  obtain ⟨front, back, hobjects⟩ := hobjects
  rw [hobjects, List.append_eq_singleton_iff] at hone
  rw [hobjects]
  obtain ⟨rfl, hone⟩ | ⟨rfl, hone⟩ := hone
  · cases hone
    exact ⟨members.reverse, later, rfl, rfl⟩
  · cases hone

end DiffersAt

end Patchwise.Json

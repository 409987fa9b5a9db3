import Patchwise.Json.Reader

/-!
# Values within values

A value is read in one go whatever is around it, and what is read around it does not depend on it.
So the value that a text tells is a function of any one of the values in it, and the frames that are
open where that value stands say where it is found.

## Main definitions

- `Json.Reading.on` — a reading within further frames
- `Json.Frame.Fill`, `Json.Fills` — the values that frames are closed to, by the value within them
- `Json.Locates` — frames stand where a member of a member has its value
- `Json.DiffersAt` — two values differ in one string, at one such place

## Main results

- `Json.Reading.exists_fills` — what is read is a function of a value within
- `Json.Fills.textAt?` — whether a text within is the text of a member of a member
- `Json.textAt?_of_differsAt` — what can be looked up in values that differ in one string

## Design notes

Reading within frames that are never closed looks only at how many they are, because of
`Json.maxDepth`. All results about closing frames follow from this (`Json.Reading.step_on`).
-/

namespace Patchwise.Json

namespace Reading

@[simp]
theorem steps_nil (r : Reading) : r.steps [] = some r :=
  rfl

theorem steps_cons (r : Reading) (token : Token) (tokens : List Token) :
    r.steps (token :: tokens) = (r.step token).bind (·.steps tokens) :=
  rfl

theorem steps_append (r : Reading) (tokens more : List Token) :
    r.steps (tokens ++ more) = (r.steps tokens).bind (·.steps more) := by
  induction tokens generalizing r with
  | nil => rfl
  | cons token tokens ih =>
    rw [List.cons_append, steps_cons, steps_cons, Option.bind_assoc]
    simp only [ih]

/-- A reading within further frames. -/
def on (base : List Frame) : Reading → Reading
  | value frames => value (frames ++ base)
  | firstItem frames => firstItem (frames ++ base)
  | firstName frames => firstName (frames ++ base)
  | name members frames => name members (frames ++ base)
  | colon members content frames => colon members content (frames ++ base)
  | complete found frames => complete found (frames ++ base)

theorem openValue_on {frames base : List Frame} {token : Token} {q : Reading}
    (h : openValue (frames ++ base) token = some q) :
    ∃ r : Reading, q = r.on base ∧ ∀ base', base'.length = base.length →
      openValue (frames ++ base') token = some (r.on base') := by
  cases token with
  | text content =>
    cases h
    exact ⟨complete (.text content) frames, rfl, fun _ _ => rfl⟩
  | scalar found =>
    cases h
    exact ⟨complete found frames, rfl, fun _ _ => rfl⟩
  | openBracket =>
    simp only [openValue, List.length_append] at h ⊢
    split at h
    next hdepth =>
      cases h
      exact ⟨firstItem frames, rfl, fun base' hbase => by rw [hbase, if_pos hdepth]; rfl⟩
    next => cases h
  | openBrace =>
    simp only [openValue, List.length_append] at h ⊢
    split at h
    next hdepth =>
      cases h
      exact ⟨firstName frames, rfl, fun base' hbase => by rw [hbase, if_pos hdepth]; rfl⟩
    next => cases h
  | closeBrace | closeBracket | comma | colon => cases h

theorem step_firstItem {frames : List Frame} {token : Token} (h : token ≠ .closeBracket) :
    (firstItem frames).step token = openValue (.array [] :: frames) token := by
  cases token <;> first | rfl | exact absurd rfl h

/-- A step within further frames looks at none of them, unless a value is complete. -/
theorem step_on {r q : Reading} {token : Token} {base : List Frame}
    (hopen : ∀ found, r ≠ complete found []) (h : (r.on base).step token = some q) :
    ∃ r' : Reading, q = r'.on base ∧ ∀ base', base'.length = base.length →
      (r.on base').step token = some (r'.on base') := by
  cases r with
  | value frames => exact openValue_on h
  | firstItem frames =>
    by_cases hclose : token = .closeBracket
    · subst hclose
      cases h
      exact ⟨complete (.array []) frames, rfl, fun _ _ => rfl⟩
    · simp only [on, step_firstItem hclose, ← List.cons_append] at h ⊢
      exact openValue_on h
  | firstName frames =>
    cases token with
    | closeBrace =>
      cases h
      exact ⟨complete (.object []) frames, rfl, fun _ _ => rfl⟩
    | text content =>
      cases h
      exact ⟨colon [] content frames, rfl, fun _ _ => rfl⟩
    | _ => cases h
  | name members frames =>
    cases token with
    | text content =>
      cases h
      exact ⟨colon members content frames, rfl, fun _ _ => rfl⟩
    | _ => cases h
  | colon members content frames =>
    cases token with
    | colon =>
      cases h
      exact ⟨value (.object members content :: frames), rfl, fun _ _ => rfl⟩
    | _ => cases h
  | complete found frames =>
    cases frames with
    | nil => exact absurd rfl (hopen found)
    | cons frame frames =>
      cases frame with
      | array items =>
        cases token with
        | comma =>
          cases h
          exact ⟨value (.array (found :: items) :: frames), rfl, fun _ _ => rfl⟩
        | closeBracket =>
          cases h
          exact ⟨complete (.array (found :: items).reverse) frames, rfl, fun _ _ => rfl⟩
        | _ => cases h
      | object members content =>
        cases token with
        | comma =>
          cases h
          exact ⟨name ((content, found) :: members) frames, rfl, fun _ _ => rfl⟩
        | closeBrace =>
          cases h
          exact ⟨complete (.object ((content, found) :: members).reverse) frames, rfl,
            fun _ _ => rfl⟩
        | _ => cases h

/-- A value is read in one go, whatever it is read within. -/
theorem exists_value {r : Reading} {base : List Frame} {tokens : List Token} {value : Json}
    (hbase : base ≠ []) (h : (r.on base).steps tokens = some (complete value [])) :
    ∃ before after found, tokens = before ++ after ∧ ∀ base', base'.length = base.length →
      (r.on base').steps before = some (complete found base') := by
  induction tokens generalizing r with
  | nil =>
    rw [steps_nil] at h
    cases r <;> simp_all [on]
  | cons token tokens ih =>
    by_cases hopen : ∃ found, r = complete found []
    · -- the next token is about the frame that the value is within
      obtain ⟨found, rfl⟩ := hopen
      exact ⟨[], token :: tokens, found, rfl, fun _ _ => rfl⟩
    · rw [steps_cons, Option.bind_eq_some_iff] at h
      obtain ⟨q, hstep, h⟩ := h
      obtain ⟨r', rfl, hstep'⟩ := step_on (not_exists.1 hopen) hstep
      obtain ⟨before, after, found, rfl, hbefore⟩ := ih h
      refine ⟨token :: before, after, found, rfl, fun base' hlength => ?_⟩
      rw [steps_cons, hstep' base' hlength, Option.bind_some, hbefore base' hlength]

/-- A value within a frame is read in one go, and then the reading goes on with the frame. -/
theorem exists_value_within {frame : Frame} {frames : List Frame} {tokens : List Token}
    {found : Json} (h : (value (frame :: frames)).steps tokens = some (complete found [])) :
    ∃ before after item, tokens = before ++ after ∧
      (complete item (frame :: frames)).steps after = some (complete found []) ∧
      ∀ frame' frames', frames'.length = frames.length →
        (value (frame' :: frames')).steps before = some (complete item (frame' :: frames')) := by
  have hon : ((value []).on (frame :: frames)).steps tokens = some (complete found []) := h
  obtain ⟨before, after, item, rfl, hbefore⟩ := exists_value (List.cons_ne_nil frame frames) hon
  refine ⟨before, after, item, rfl, ?_, fun frame' frames' hlength => ?_⟩
  · rw [steps_append, hbefore _ rfl] at hon
    exact hon
  · exact hbefore (frame' :: frames') (by simp [hlength])

theorem step_array_eq_some {item : Json} {items : List Json} {frames : List Frame}
    {token : Token} {q : Reading}
    (h : (complete item (.array items :: frames)).step token = some q) :
    token = .comma ∧ q = value (.array (item :: items) :: frames) ∨
      token = .closeBracket ∧ q = complete (.array (item :: items).reverse) frames := by
  cases token with
  | comma =>
    cases h
    exact .inl ⟨rfl, rfl⟩
  | closeBracket =>
    cases h
    exact .inr ⟨rfl, rfl⟩
  | _ => cases h

theorem step_object_eq_some {item : Json} {members : List (String × Json)} {content : String}
    {frames : List Frame} {token : Token} {q : Reading}
    (h : (complete item (.object members content :: frames)).step token = some q) :
    token = .comma ∧ q = name ((content, item) :: members) frames ∨
      token = .closeBrace ∧ q = complete (.object ((content, item) :: members).reverse) frames := by
  cases token with
  | comma =>
    cases h
    exact .inl ⟨rfl, rfl⟩
  | closeBrace =>
    cases h
    exact .inr ⟨rfl, rfl⟩
  | _ => cases h

theorem step_name_eq_some {members : List (String × Json)} {frames : List Frame}
    {token : Token} {q : Reading} (h : (name members frames).step token = some q) :
    ∃ content, token = .text content ∧ q = colon members content frames := by
  cases token with
  | text content =>
    cases h
    exact ⟨content, rfl, rfl⟩
  | _ => cases h

theorem step_colon_eq_some {members : List (String × Json)} {content : String}
    {frames : List Frame} {token : Token} {q : Reading}
    (h : (colon members content frames).step token = some q) :
    token = .colon ∧ q = value (.object members content :: frames) := by
  cases token with
  | colon =>
    cases h
    exact ⟨rfl, rfl⟩
  | _ => cases h

theorem exists_step {item found : Json} {frame : Frame} {frames : List Frame}
    {tokens : List Token}
    (h : (complete item (frame :: frames)).steps tokens = some (complete found [])) :
    ∃ token rest q, tokens = token :: rest ∧
      (complete item (frame :: frames)).step token = some q ∧
      q.steps rest = some (complete found []) := by
  cases tokens with
  | nil => cases h
  | cons token rest =>
    rw [steps_cons, Option.bind_eq_some_iff] at h
    obtain ⟨q, hstep, hrest⟩ := h
    exact ⟨token, rest, q, rfl, hstep, hrest⟩

/-- The items that follow in an array are read in one go, whatever stands before them. -/
theorem exists_items {items : List Json} {frames : List Frame} {tokens : List Token}
    {found : Json}
    (h : (value (.array items :: frames)).steps tokens = some (complete found [])) :
    ∃ before after later, tokens = before ++ after ∧ ∀ items' frames',
      frames'.length = frames.length → (value (.array items' :: frames')).steps before =
        some (complete (.array (items'.reverse ++ later)) frames') := by
  -- an item takes any number of tokens, so the induction is on how many are left
  induction hn : tokens.length using Nat.strongRecOn generalizing items tokens with
  | ind n ih =>
    obtain ⟨before, after, item, rfl, hafter, hbefore⟩ := exists_value_within h
    obtain ⟨token, rest, q, rfl, hstep, hrest⟩ := exists_step hafter
    obtain ⟨rfl, rfl⟩ | ⟨rfl, rfl⟩ := step_array_eq_some hstep
    · obtain ⟨before', after, later, rfl, hlater⟩ := ih rest.length (by simp [← hn]; omega) hrest rfl
      refine ⟨before ++ .comma :: before', after, item :: later, by simp, ?_⟩
      intro items' frames' hlength
      rw [steps_append, hbefore _ _ hlength]
      refine (hlater (item :: items') frames' hlength).trans ?_
      rw [List.reverse_cons, List.append_assoc, List.singleton_append]
    · refine ⟨before ++ [.closeBracket], rest, [item], by simp, ?_⟩
      intro items' frames' hlength
      rw [steps_append, hbefore _ _ hlength, ← List.reverse_cons]
      rfl

/-- The members that follow in an object are read in one go, whatever stands before them. -/
theorem exists_members {members : List (String × Json)} {frames : List Frame}
    {tokens : List Token} {found : Json}
    (h : (name members frames).steps tokens = some (complete found [])) :
    ∃ before after later, tokens = before ++ after ∧ ∀ members' frames',
      frames'.length = frames.length → (name members' frames').steps before =
        some (complete (.object (members'.reverse ++ later)) frames') := by
  induction hn : tokens.length using Nat.strongRecOn generalizing members tokens with
  | ind n ih =>
    obtain _ | ⟨first, _ | ⟨second, tokens⟩⟩ := tokens
    · cases h
    · -- a name alone leaves the object open
      rw [steps_cons, Option.bind_eq_some_iff] at h
      obtain ⟨q, hstep, h⟩ := h
      obtain ⟨content, rfl, rfl⟩ := step_name_eq_some hstep
      cases h
    · simp only [steps_cons, Option.bind_eq_some_iff] at h
      obtain ⟨q, hfirst, r, hsecond, h⟩ := h
      obtain ⟨content, rfl, rfl⟩ := step_name_eq_some hfirst
      obtain ⟨rfl, rfl⟩ := step_colon_eq_some hsecond
      obtain ⟨before, after, item, rfl, hafter, hbefore⟩ := exists_value_within h
      obtain ⟨token, rest, q, rfl, hstep, hrest⟩ := exists_step hafter
      have hmember : ∀ members' frames', frames'.length = frames.length →
          (name members' frames').steps (.text content :: .colon :: before) =
            some (complete item (.object members' content :: frames')) := fun members' frames' =>
        hbefore (.object members' content) frames'
      obtain ⟨rfl, rfl⟩ | ⟨rfl, rfl⟩ := step_object_eq_some hstep
      · obtain ⟨before', after, later, rfl, hlater⟩ :=
          ih rest.length (by simp [← hn]; omega) hrest rfl
        refine ⟨.text content :: .colon :: before ++ .comma :: before', after,
          (content, item) :: later, by simp, ?_⟩
        intro members' frames' hlength
        rw [steps_append, hmember _ _ hlength]
        refine (hlater ((content, item) :: members') frames' hlength).trans ?_
        rw [List.reverse_cons, List.append_assoc, List.singleton_append]
      · refine ⟨.text content :: .colon :: before ++ [.closeBrace], rest, [(content, item)],
          by simp, ?_⟩
        intro members' frames' hlength
        rw [steps_append, hmember _ _ hlength, ← List.reverse_cons]
        rfl

end Reading

/-! ## Filled frames -/

/-- The values that a frame can be closed to, by the value that is being read in it. -/
inductive Frame.Fill : Frame → (Json → Json) → Prop
  | array (items later : List Json) :
      Fill (.array items) fun item => .array (items.reverse ++ item :: later)
  | object (members : List (String × Json)) (name : String) (later : List (String × Json)) :
      Fill (.object members name) fun item => .object (members.reverse ++ (name, item) :: later)

/-- The values that frames can be closed to, by the value that is being read in them. -/
inductive Fills : List Frame → (Json → Json) → Prop
  | nil : Fills [] id
  | cons {frame : Frame} {frames : List Frame} {fill fills : Json → Json}
      (hframe : frame.Fill fill) (hframes : Fills frames fills) :
      Fills (frame :: frames) (fills ∘ fill)

namespace Reading

/-- A frame is closed to a function of the value that is read in it. -/
theorem exists_fill {item found : Json} {frame : Frame} {frames : List Frame}
    {tokens : List Token}
    (h : (complete item (frame :: frames)).steps tokens = some (complete found [])) :
    ∃ before after fill, frame.Fill fill ∧ tokens = before ++ after ∧
      ∀ item', (complete item' (frame :: frames)).steps before =
        some (complete (fill item') frames) := by
  obtain ⟨token, rest, q, rfl, hstep, hrest⟩ := exists_step h
  cases frame with
  | array items =>
    obtain ⟨rfl, rfl⟩ | ⟨rfl, rfl⟩ := step_array_eq_some hstep
    · obtain ⟨before, after, later, rfl, hbefore⟩ := exists_items hrest
      refine ⟨.comma :: before, after, _, .array items later, rfl, fun item' => ?_⟩
      refine (hbefore (item' :: items) frames rfl).trans ?_
      rw [List.reverse_cons, List.append_assoc, List.singleton_append]
    · refine ⟨[.closeBracket], rest, _, .array items [], rfl, fun item' => ?_⟩
      rw [← List.reverse_cons]
      rfl
  | object members content =>
    obtain ⟨rfl, rfl⟩ | ⟨rfl, rfl⟩ := step_object_eq_some hstep
    · obtain ⟨before, after, later, rfl, hbefore⟩ := exists_members hrest
      refine ⟨.comma :: before, after, _, .object members content later, rfl, fun item' => ?_⟩
      refine (hbefore ((content, item') :: members) frames rfl).trans ?_
      rw [List.reverse_cons, List.append_assoc, List.singleton_append]
    · refine ⟨[.closeBrace], rest, _, .object members content [], rfl, fun item' => ?_⟩
      rw [← List.reverse_cons]
      rfl

/-- What is read is a function of a value within it. -/
theorem exists_fills {item found : Json} {frames : List Frame} {tokens : List Token}
    (h : (complete item frames).steps tokens = some (complete found [])) :
    ∃ fills, Fills frames fills ∧
      ∀ item', (complete item' frames).steps tokens = some (complete (fills item') []) := by
  induction frames generalizing item tokens with
  | nil =>
    cases tokens with
    | nil => exact ⟨id, .nil, fun item' => rfl⟩
    | cons token tokens => cases token <;> cases h
  | cons frame frames ih =>
    obtain ⟨before, after, fill, hfill, rfl, hbefore⟩ := exists_fill h
    rw [steps_append, hbefore, Option.bind_some] at h
    obtain ⟨fills, hfills, hafter⟩ := ih h
    refine ⟨fills ∘ fill, .cons hfill hfills, fun item' => ?_⟩
    rw [steps_append, hbefore, Option.bind_some, hafter]
    rfl

end Reading

theorem Reading.result?_eq_some {r : Reading} {value : Json} (h : r.result? = some value) :
    r = .complete value [] := by
  unfold result? at h
  split at h
  · cases h
    rfl
  · cases h

theorem Reading.steps_concat_colon {r q : Reading} {tokens : List Token}
    (h : r.steps (tokens ++ [.colon]) = some q) : ∃ frames, q = .value frames := by
  rw [steps_append, Option.bind_eq_some_iff] at h
  obtain ⟨r', -, h⟩ := h
  rw [steps_cons, Option.bind_eq_some_iff] at h
  obtain ⟨q', hstep, h⟩ := h
  cases h
  cases r' with
  | colon members content frames =>
    cases hstep
    exact ⟨_, rfl⟩
  | complete found frames => obtain _ | ⟨_ | _, frames⟩ := frames <;> cases hstep
  | _ => cases hstep

theorem ofChars?_eq_some {cs : List Char} {value : Json} (h : ofChars? cs = some value) :
    ∃ tokens, Token.scan? cs = some tokens ∧ ofTokens? tokens = some value :=
  Option.bind_eq_some_iff.1 h

/-- A text where a value is to come is read as any other value would be in its place. -/
theorem ofTokens?_append {tokens : List Token} {frames : List Frame}
    (h : (Reading.value []).steps tokens = some (.value frames)) (content : String)
    (later : List Token) :
    ofTokens? (tokens ++ .text content :: later) =
      ((Reading.complete (.text content) frames).steps later).bind Reading.result? := by
  rw [ofTokens?, Reading.steps_append, h]
  rfl

/-! ## Members -/

theorem lookup?_cons (name key : String) (value : Json) (rest : List (String × Json)) :
    lookup? name ((key, value) :: rest) =
      (lookup? name rest).or (if key = name then some value else none) := by
  rw [lookup?]
  cases lookup? name rest <;> rfl

theorem lookup?_append (name : String) (members more : List (String × Json)) :
    lookup? name (members ++ more) = (lookup? name more).or (lookup? name members) := by
  induction members with
  | nil => simp [lookup?]
  | cons member members ih =>
    rw [List.cons_append, lookup?, lookup?, ih]
    cases lookup? name more <;> rfl

theorem exists_of_lookup? {name : String} {members : List (String × Json)} {value : Json}
    (h : lookup? name members = some value) :
    ∃ front back, members = front ++ (name, value) :: back ∧ lookup? name back = none := by
  induction members with
  | nil => cases h
  | cons member members ih =>
    obtain ⟨key, found⟩ := member
    rw [lookup?] at h
    split at h
    next later hlater =>
      obtain ⟨front, back, rfl, hback⟩ := ih (hlater.trans h)
      exact ⟨(key, found) :: front, back, rfl, hback⟩
    next hnone =>
      split at h
      next hkey =>
        cases h
        subst hkey
        exact ⟨[], members, rfl, hnone⟩
      next => cases h

theorem lookup?_eq_none {name : String} {members : List (String × Json)}
    (h : name ∉ members.map Prod.fst) : lookup? name members = none := by
  cases hlookup : lookup? name members with
  | none => rfl
  | some value =>
    obtain ⟨front, back, rfl, -⟩ := exists_of_lookup? hlookup
    exact absurd (by simp) h

/-- The member of a name either is the value within the object, or does not depend on it. -/
theorem Frame.Fill.member? {frame : Frame} {fill : Json → Json} (h : frame.Fill fill)
    (name : String) :
    (∃ members later, frame = .object members name ∧
        (∀ item, fill item = .object (members.reverse ++ (name, item) :: later)) ∧
        lookup? name later = none ∧ ∀ item, (fill item).member? name = some item) ∨
      ∃ found, ∀ item, (fill item).member? name = found := by
  cases h with
  | array items later => exact .inr ⟨none, fun item => rfl⟩
  | object members key later =>
    simp only [Json.member?, lookup?_append, lookup?]
    cases hlater : lookup? name later with
    | some found => exact .inr ⟨some found, fun item => rfl⟩
    | none =>
      by_cases hkey : key = name
      · subst hkey
        exact .inl ⟨members, later, rfl, fun item => rfl, hlater, fun item => by simp⟩
      · exact .inr ⟨lookup? name members.reverse, fun item => by simp [hkey]⟩

/-- A value with a value within is no text. -/
theorem Frame.Fill.text? {frame : Frame} {fill : Json → Json} (h : frame.Fill fill)
    (item : Json) : (fill item).text? = none := by
  cases h <;> rfl

/-- The outermost frame is closed last. -/
theorem Fills.of_concat {frames : List Frame} {frame : Frame} {fills : Json → Json}
    (h : Fills (frames.concat frame) fills) :
    ∃ inner fill, Fills frames inner ∧ frame.Fill fill ∧ fills = fill ∘ inner := by
  induction frames generalizing fills with
  | nil =>
    cases h with
    | cons hframe hframes =>
      cases hframes
      exact ⟨id, _, .nil, hframe, rfl⟩
  | cons first frames ih =>
    cases h with
    | cons hfirst hframes =>
      obtain ⟨inner, fill, hinner, hframe, rfl⟩ := ih hframes
      exact ⟨_, fill, .cons hfirst hinner, hframe, rfl⟩

namespace Fills

variable {frames : List Frame} {fills : Json → Json}

theorem text? (h : Fills frames fills) :
    frames = [] ∧ fills = id ∨ ∀ item, (fills item).text? = none := by
  obtain rfl | ⟨frames, frame, rfl⟩ := frames.eq_nil_or_concat
  · cases h
    exact .inl ⟨rfl, rfl⟩
  · obtain ⟨fills, fill, -, hfill, rfl⟩ := h.of_concat
    exact .inr fun item => hfill.text? (fills item)

/-- The text of a member either is the text within the frames, or does not depend on it. -/
theorem textOfMember? (h : Fills frames fills) (name : String) :
    (∃ members later, frames = [.object members name] ∧
        (∀ item, fills item = .object (members.reverse ++ (name, item) :: later)) ∧
        lookup? name later = none) ∨
      ∃ found, ∀ content, ((fills (.text content)).member? name).bind Json.text? = found := by
  obtain rfl | ⟨frames, frame, rfl⟩ := frames.eq_nil_or_concat
  · cases h
    exact .inr ⟨none, fun content => rfl⟩
  · obtain ⟨fills, fill, hfills, hfill, rfl⟩ := h.of_concat
    obtain ⟨members, later, rfl, heq, hlater, hmember⟩ | ⟨found, hfound⟩ := hfill.member? name
    · obtain ⟨rfl, rfl⟩ | hnone := hfills.text?
      · exact .inl ⟨members, later, rfl, heq, hlater⟩
      · -- the member holds the text deeper down, so it is no text itself
        exact .inr ⟨none, fun content => by rw [Function.comp, hmember, Option.bind_some, hnone]⟩
    · exact .inr ⟨_, fun content => by rw [Function.comp, hfound]⟩

end Fills

/-- The text of a member of a member. -/
def textAt? (value : Json) (outer inner : String) : Option String :=
  ((value.member? outer).bind (·.member? inner)).bind text?

/-- A value stands in the member `inner` of the member `outer` of the outermost object, and counts
there: neither is followed by another member of its name. -/
def Locates (outer inner : String) (frames : List Frame) (fills : Json → Json) : Prop :=
  ∃ members around later rest,
    frames = [.object members inner, .object around outer] ∧
      (∀ item, fills item = .object (around.reverse ++
        (outer, .object (members.reverse ++ (inner, item) :: later)) :: rest)) ∧
      lookup? inner later = none ∧ lookup? outer rest = none

/-- Two values are the same but for one string, the member `inner` of the member `outer`, where one
of them has one text and the other one another. -/
def DiffersAt (outer inner before after : String) (value value' : Json) : Prop :=
  ∃ frames fills, Locates outer inner frames fills ∧ value = fills (.text before) ∧
    value' = fills (.text after)

namespace Locates

variable {outer inner : String} {frames : List Frame} {fills fills' : Json → Json}

theorem textAt? (h : Locates outer inner frames fills) (content : String) :
    (fills (.text content)).textAt? outer inner = some content := by
  obtain ⟨members, around, later, rest, -, heq, hlater, hrest⟩ := h
  simp [Json.textAt?, heq, member?, lookup?_append, lookup?, hlater, hrest, Json.text?]

/-- Frames have their value at one place only. -/
theorem unique {outer' inner' : String} (h : Locates outer inner frames fills)
    (h' : Locates outer' inner' frames fills') : (outer', inner') = (outer, inner) := by
  obtain ⟨members, around, later, rest, rfl, -⟩ := h
  obtain ⟨members', around', later', rest', heq, -⟩ := h'
  cases heq
  rfl

theorem toFills (h : Locates outer inner frames fills) : Fills frames fills := by
  obtain ⟨members, around, later, rest, rfl, heq, -, -⟩ := h
  obtain rfl : fills = _ := funext heq
  exact .cons (.object members inner later) (.cons (.object around outer rest) .nil)

/-- What stands behind a value in frames can be told from one value that is read in them. -/
theorem of_fills (h : Locates outer inner frames fills) (hfills : Fills frames fills')
    {item : Json} (hitem : fills item = fills' item) : Locates outer inner frames fills' := by
  obtain ⟨members, around, later, rest, rfl, heq, hlater, hrest⟩ := h
  cases hfills with
  | cons hinner hfills =>
    cases hfills with
    | cons houter hfills =>
      cases hfills
      cases hinner with
      | object members inner later' =>
        cases houter with
        | object around outer rest' =>
          simp only [heq, Function.comp, id, Json.object.injEq, List.append_cancel_left_eq,
            List.cons.injEq, Prod.mk.injEq, true_and] at hitem
          obtain ⟨rfl, rfl⟩ := hitem
          exact ⟨members, around, later, rest, rfl, fun item => rfl, hlater, hrest⟩

end Locates

/-- The text of a member of a member either is the text within the frames, or does not depend on
it. -/
theorem Fills.textAt? {frames : List Frame} {fills : Json → Json} (h : Fills frames fills)
    (outer inner : String) :
    Locates outer inner frames fills ∨
      ∃ found, ∀ content, (fills (.text content)).textAt? outer inner = found := by
  obtain rfl | ⟨frames, frame, rfl⟩ := frames.eq_nil_or_concat
  · cases h
    exact .inr ⟨none, fun content => rfl⟩
  · obtain ⟨fills, fill, hfills, hfill, rfl⟩ := h.of_concat
    obtain ⟨around, rest, rfl, heq, hrest, hmember⟩ | ⟨found, hfound⟩ := hfill.member? outer
    · have hinner : ∀ item, ((fill ∘ fills) item).textAt? outer inner =
          ((fills item).member? inner).bind Json.text? := fun item => by
        rw [Json.textAt?, Function.comp, hmember, Option.bind_some]
      simp only [hinner]
      obtain ⟨members, later, rfl, heq', hlater⟩ | hfound := hfills.textOfMember? inner
      · refine .inl ⟨members, around, later, rest, rfl, fun item => ?_, hlater, hrest⟩
        rw [Function.comp, heq, heq']
      · exact .inr hfound
    · exact .inr ⟨_, fun content => by rw [Json.textAt?, Function.comp, hfound]⟩

/-- Of two values that differ in one string, the second one has the other text in its place, and
everywhere else what the first one has. -/
theorem textAt?_of_differsAt {outer inner before after : String} {value value' : Json}
    (h : DiffersAt outer inner before after value value') :
    value'.textAt? outer inner = some after ∧
      ∀ outer' inner', (outer', inner') ≠ (outer, inner) →
        value'.textAt? outer' inner' = value.textAt? outer' inner' := by
  obtain ⟨frames, fills, hlocates, rfl, rfl⟩ := h
  refine ⟨hlocates.textAt? after, fun outer' inner' hother => ?_⟩
  obtain hlocates' | ⟨found, hfound⟩ := hlocates.toFills.textAt? outer' inner'
  · -- frames have their value at one place only
    exact absurd (hlocates.unique hlocates') hother
  · rw [hfound, hfound]

end Patchwise.Json

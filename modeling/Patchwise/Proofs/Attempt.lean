import Mathlib.Data.List.Infix
import Patchwise.Attempt

/-!
# The histories of attempts

Whatever is done to an attempt, and in whatever order, it goes one of the ways of the diagram and
stops at its end. A move that the diagram does not have is refused, and a refusal leaves no trace
although it comes in the middle of an operation.

## Main definitions

- `Attempt.State.ways` — the ways through the diagram
- `Attempt.Operation` — what is done to an attempt
- `Attempt.Operation.inPlace` — an operation as writes to the fields of an attempt, one by one
- `Attempt.history` — operations one after the other, refusals being caught
- `Attempt.IsOrderly` — what holds of a history

## Main results

- `Attempt.Event.lawful_of_mem_history` — what each operation does
- `Attempt.histories_are_orderly` — the histories of attempts are orderly, whatever is done
-/

namespace Patchwise.Attempt

/-! ## The diagram -/

namespace State

/-- The ways through the diagram. -/
def ways : List (List State) :=
  [[selected, applying, verifying, committed],
   [selected, applying, verifying, commitFailed],
   [selected, applying, verifying, reverted],
   [selected, applying, verifying, revertFailed],
   [selected, applying, applyFailed],
   [selected, planned]]

/-- An arrow of the diagram: on some way, a state comes right behind another one. -/
def IsArrow (source target : State) : Prop :=
  ∃ way ∈ ways, [source, target] <:+: way

/-- States one behind the other on some way, from its first one on. -/
def IsPath (states : List State) : Prop :=
  states ≠ [] ∧ ∃ way ∈ ways, states <+: way

instance (source target : State) : Decidable (IsArrow source target) :=
  inferInstanceAs (Decidable (∃ way ∈ ways, [source, target] <:+: way))

instance (states : List State) : Decidable (IsPath states) :=
  inferInstanceAs (Decidable (states ≠ [] ∧ ∃ way ∈ ways, states <+: way))

theorem canMoveTo_iff {source target : State} :
    source.canMoveTo target = true ↔ IsArrow source target := by
  cases source <;> cases target <;> decide

/-- An attempt ends in the states that no arrow leaves. -/
theorem isTerminal_iff {source : State} :
    source.isTerminal = true ↔ ∀ target, ¬ IsArrow source target := by
  constructor
  · intro h target
    revert h
    cases source <;> cases target <;> decide
  · intro h
    cases source with
    | selected => exact absurd (by decide) (h applying)
    | applying => exact absurd (by decide) (h verifying)
    | verifying => exact absurd (by decide) (h committed)
    | _ => rfl

/-- The states up to one, on any way that it lies on. -/
def trail : State → List State
  | selected => [selected]
  | applying => [selected, applying]
  | verifying => [selected, applying, verifying]
  | applyFailed => [selected, applying, applyFailed]
  | planned => [selected, planned]
  | last => [selected, applying, verifying, last]

theorem isPath_trail (s : State) : IsPath s.trail := by
  cases s <;> decide

theorem length_trail_le (s : State) : s.trail.length ≤ 4 := by
  cases s <;> decide

/-- Only one arrow leads to a state, so its trail goes on the trail of the state before. -/
theorem IsArrow.trail_eq {source target : State} (h : IsArrow source target) :
    target.trail = source.trail ++ [target] := by
  revert h
  cases source <;> cases target <;> decide

end State

/-! ## Operations -/

/-- What is done to an attempt. -/
inductive Operation
  /-- Remembers what the manifest declares. -/
  | declare (spec : String)
  /-- Writes another version to be applied. -/
  | retarget (version : String)
  | advance (next : State) (now : Timestamp)
  | fail (next : State) (note : String) (now : Timestamp)

namespace Operation

/-- The state that an operation is to take an attempt to. -/
def next? : Operation → Option State
  | declare _ | retarget _ => none
  | advance next _ | fail next _ _ => some next

/-- An operation by the function on attempts that it stands for. -/
def perform (a : Attempt) : Operation → Except IllegalMove Attempt
  | declare spec => .ok (a.declaredAs spec)
  | retarget version => .ok { a with target := version }
  | advance next now => a.advance next now
  | fail next note now => a.failAs next note now

/-- A move as writes to the fields of an attempt, with the check in front of them. -/
def moveInPlace (next : State) (now : Timestamp) : EStateM IllegalMove Attempt Unit := do
  let a ← get
  unless a.state.canMoveTo next do
    throw ⟨a.state, next⟩
  modify fun a => { a with state := next }
  if next.isTerminal then
    modify fun a => { a with finishedAt := some now }

/-- An operation as writes to the fields of an attempt. What is written before a refusal stays. -/
def inPlace : Operation → EStateM IllegalMove Attempt Unit
  | declare spec => modify fun a => { a with declared := some spec }
  | retarget version => modify fun a => { a with target := version }
  | advance next now => moveInPlace next now
  | fail next note now => do
    moveInPlace next now
    modify fun a => { a with note := some note }

end Operation

/-- An operation on an attempt: the answer, and the attempt that it leaves behind. -/
structure Event where
  operation : Operation
  source : Attempt
  answer : Except IllegalMove Unit
  result : Attempt

/-- An operation done in place, whether it comes to its end or is refused on the way. -/
def Operation.on (operation : Operation) (a : Attempt) : Event :=
  match operation.inPlace.run a with
  | .ok answer result => ⟨operation, a, .ok answer, result⟩
  | .error cause result => ⟨operation, a, .error cause, result⟩

/-- Operations on an attempt, one after the other. A refusal is caught, and the next operation finds
the attempt as the refused one left it. -/
def history (a : Attempt) : List Operation → List Event
  | [] => []
  | operation :: operations =>
    operation.on a :: history (operation.on a).result operations

/-! ## What an operation does -/

/-- The time of its end is known of an attempt just if it has ended. -/
def IsTimed (a : Attempt) : Prop :=
  a.finishedAt.isSome = true ↔ a.state.isTerminal = true

/-- What an attempt is started with and never changes. -/
def origin (a : Attempt) : Record × String × String :=
  (a.record, a.dependencyType, a.previous)

/-- An attempt after a move. -/
def moved (a : Attempt) (next : State) (now : Timestamp) : Attempt :=
  { a with state := next, finishedAt := if next.isTerminal then some now else a.finishedAt }

namespace Event

/-- The state that a move took an attempt to. -/
def move? (event : Event) : Option State :=
  if event.answer.isOk then event.operation.next? else none

/-- What an operation does. A move takes the attempt along an arrow of the diagram, and is refused
with nothing written if there is none. -/
inductive Lawful : Event → Prop
  | declared (a : Attempt) (spec : String) :
      Lawful ⟨.declare spec, a, .ok (), a.declaredAs spec⟩
  | retargeted (a : Attempt) (version : String) :
      Lawful ⟨.retarget version, a, .ok (), { a with target := version }⟩
  | advanced {a : Attempt} {next : State} (h : State.IsArrow a.state next) (now : Timestamp) :
      Lawful ⟨.advance next now, a, .ok (), a.moved next now⟩
  | failed {a : Attempt} {next : State} (h : State.IsArrow a.state next) (note : String)
      (now : Timestamp) :
      Lawful ⟨.fail next note now, a, .ok (), { a.moved next now with note := some note }⟩
  | refused {a : Attempt} {operation : Operation} {next : State}
      (hnext : operation.next? = some next) (h : ¬ State.IsArrow a.state next) :
      Lawful ⟨operation, a, .error ⟨a.state, next⟩, a⟩

end Event

section Move

variable {a : Attempt} {next : State}

theorem moveInPlace_of_isArrow (h : State.IsArrow a.state next) (now : Timestamp) :
    (Operation.moveInPlace next now).run a = .ok () (a.moved next now) := by
  have hmove : a.state.canMoveTo next = true := State.canMoveTo_iff.2 h
  cases hend : next.isTerminal <;> simp [Operation.moveInPlace, moved, hmove, hend]

/-- The check comes before the first write. -/
theorem moveInPlace_of_not_isArrow (h : ¬ State.IsArrow a.state next) (now : Timestamp) :
    (Operation.moveInPlace next now).run a = .error ⟨a.state, next⟩ a := by
  have hmove : a.state.canMoveTo next = false := by
    rw [← State.canMoveTo_iff] at h
    exact Bool.eq_false_iff.2 h
  simp [Operation.moveInPlace, hmove]

theorem advance_of_isArrow (h : State.IsArrow a.state next) (now : Timestamp) :
    a.advance next now = .ok (a.moved next now) := by
  have hmove : a.state.canMoveTo next = true := State.canMoveTo_iff.2 h
  cases hend : next.isTerminal <;> simp [advance, moved, finish, moveTo, hmove, hend]

theorem advance_of_not_isArrow (h : ¬ State.IsArrow a.state next) (now : Timestamp) :
    a.advance next now = .error ⟨a.state, next⟩ := by
  rw [← State.canMoveTo_iff] at h
  simp [advance, h]

end Move

namespace Operation

theorem lawful_on (operation : Operation) (a : Attempt) : (operation.on a).Lawful := by
  cases operation with
  | declare spec => exact .declared a spec
  | retarget version => exact .retargeted a version
  | advance next now =>
    by_cases h : State.IsArrow a.state next
    · rw [on, inPlace, moveInPlace_of_isArrow h]
      exact .advanced h now
    · rw [on, inPlace, moveInPlace_of_not_isArrow h]
      exact .refused rfl h
  | fail next note now =>
    by_cases h : State.IsArrow a.state next
    · rw [on, inPlace, EStateM.run_bind, moveInPlace_of_isArrow h]
      exact .failed h note now
    -- the note is written behind the move, so a refused one leaves none
    · rw [on, inPlace, EStateM.run_bind, moveInPlace_of_not_isArrow h]
      exact .refused rfl h

end Operation

namespace Event.Lawful

variable {event : Event} (h : event.Lawful)

include h

/-- An operation in place answers and leaves behind what the function on attempts answers. -/
theorem performed :
    event.operation.perform event.source = event.answer.map fun _ => event.result := by
  cases h with
  | declared | retargeted => rfl
  | advanced harrow now => exact advance_of_isArrow harrow now
  | failed harrow note now =>
    rw [Operation.perform, failAs, advance_of_isArrow harrow]
    rfl
  | @refused a operation next hnext harrow =>
    cases operation with
    | declare | retarget => cases hnext
    | advance next' now =>
      cases hnext
      exact advance_of_not_isArrow harrow now
    | fail next' note now =>
      cases hnext
      rw [Operation.perform, failAs, advance_of_not_isArrow harrow]
      rfl

theorem isArrow {next : State} (hmove : event.move? = some next) :
    State.IsArrow event.source.state next := by
  cases h with
  | declared | retargeted | refused => cases hmove
  | advanced harrow | failed harrow =>
    cases hmove
    exact harrow

theorem state_eq : event.result.state = event.move?.getD event.source.state := by
  cases h <;> rfl

theorem move?_eq_none (hterminal : event.source.state.isTerminal = true) : event.move? = none := by
  rw [Option.eq_none_iff_forall_ne_some]
  intro next hmove
  exact State.isTerminal_iff.1 hterminal next (h.isArrow hmove)

theorem trail_eq : event.result.state.trail = event.source.state.trail ++ event.move?.toList := by
  rw [h.state_eq]
  cases hmove : event.move? with
  | none => simp
  | some next => exact (h.isArrow hmove).trail_eq

theorem refused_iff : event.answer.isOk = false ↔
    ∃ next, event.operation.next? = some next ∧ ¬ State.IsArrow event.source.state next := by
  cases h with
  | declared | retargeted => simp [Operation.next?, Except.isOk, Except.toBool]
  | advanced harrow | failed harrow => simp [Operation.next?, Except.isOk, Except.toBool, harrow]
  | refused hnext harrow => exact iff_of_true rfl ⟨_, hnext, harrow⟩

theorem result_eq {cause : IllegalMove} (hanswer : event.answer = .error cause) :
    event.result = event.source := by
  cases h with
  | declared | retargeted | advanced | failed => cases hanswer
  | refused => rfl

/-- An attempt that goes on has no time of its end yet, and a move to an end writes it. -/
theorem isTimed (hsource : event.source.IsTimed) : event.result.IsTimed := by
  cases h with
  | declared | retargeted | refused => exact hsource
  | @advanced a next harrow | @failed a next harrow =>
    have hgoesOn : a.finishedAt.isSome = false := Bool.eq_false_iff.2 fun hended =>
      State.isTerminal_iff.1 (hsource.1 hended) next harrow
    cases hend : next.isTerminal <;> simp [IsTimed, moved, hend, hgoesOn]

theorem origin_eq : event.result.origin = event.source.origin := by
  cases h <;> rfl

end Event.Lawful

@[simp]
theorem Operation.on_source (operation : Operation) (a : Attempt) :
    (operation.on a).source = a := by
  rw [on]
  split <;> rfl

/-! ## What a history does -/

section History

variable {a : Attempt} {operations : List Operation}

/-- What each operation keeps holds throughout a history. -/
theorem history_keeps (Holds : Attempt → Prop)
    (hstep : ∀ event : Event, event.Lawful → Holds event.source → Holds event.result)
    (h : Holds a) :
    ∀ event ∈ history a operations, event.Lawful ∧ Holds event.source ∧ Holds event.result := by
  induction operations generalizing a with
  | nil => simp [history]
  | cons operation operations ih =>
    have hlawful := operation.lawful_on a
    have hsource : Holds (operation.on a).source := by rwa [Operation.on_source]
    have hresult := hstep _ hlawful hsource
    exact List.forall_mem_cons.2 ⟨⟨hlawful, hsource, hresult⟩, ih hresult⟩

theorem Event.lawful_of_mem_history {event : Event} (h : event ∈ history a operations) :
    event.Lawful :=
  (history_keeps (fun _ => True) (fun _ _ _ => trivial) trivial event h).1

/-- The moves of a history go on the trail of the state that the attempt was in. -/
theorem exists_trail_eq (a : Attempt) (operations : List Operation) :
    ∃ last : State, a.state.trail ++ (history a operations).filterMap Event.move? = last.trail := by
  induction operations generalizing a with
  | nil => exact ⟨a.state, by simp [history]⟩
  | cons operation operations ih =>
    obtain ⟨last, hlast⟩ := ih (operation.on a).result
    have htrail := (operation.lawful_on a).trail_eq
    rw [Operation.on_source] at htrail
    refine ⟨last, ?_⟩
    -- the first operation lengthens the trail by its move, and the others go on from there
    rw [← hlast, htrail, history, List.append_assoc]
    cases hmove : (operation.on a).move? <;> simp [hmove]

/-- An attempt that has ended is never moved again. -/
theorem move?_eq_none_of_isTerminal (h : a.state.isTerminal = true) :
    ∀ event ∈ history a operations, event.move? = none := by
  intro event hmem
  obtain ⟨hlawful, hterminal, -⟩ := history_keeps (·.state.isTerminal = true)
    (fun event hlawful hterminal => by
      rwa [hlawful.state_eq, hlawful.move?_eq_none hterminal]) h event hmem
  exact hlawful.move?_eq_none hterminal

theorem pairwise_move?_eq_none (a : Attempt) (operations : List Operation) :
    (history a operations).Pairwise fun event later =>
      event.result.state.isTerminal = true → later.move? = none := by
  induction operations generalizing a with
  | nil => exact .nil
  | cons operation operations ih =>
    exact .cons (fun later hlater hterminal => move?_eq_none_of_isTerminal hterminal later hlater)
      (ih _)

end History

/-- What holds of all that is done to an attempt. -/
structure IsOrderly (first : Attempt) (events : List Event) : Prop where
  /-- Each operation answers and leaves behind what the function on attempts answers. -/
  performed : ∀ event ∈ events,
    event.operation.perform event.source = event.answer.map fun _ => event.result
  isTimed : ∀ a ∈ first :: events.map Event.result, a.IsTimed
  /-- The states that the attempt goes through are a path from the start of the diagram. -/
  isPath : State.IsPath (first.state :: events.filterMap Event.move?)
  /-- Only a move changes the state. -/
  state_eq : ∀ event ∈ events, event.result.state = event.move?.getD event.source.state
  length_moves_le : (events.filterMap Event.move?).length ≤ 3
  /-- No move succeeds after one that ends the attempt. -/
  move?_eq_none : events.Pairwise fun event later =>
    event.result.state.isTerminal = true → later.move? = none
  /-- A move is refused just if it is no arrow of the diagram. -/
  refused_iff : ∀ event ∈ events, event.answer.isOk = false ↔
    ∃ next, event.operation.next? = some next ∧ ¬ State.IsArrow event.source.state next
  /-- A refusal leaves every field of the attempt as it is. -/
  result_eq : ∀ event ∈ events, ∀ cause, event.answer = .error cause → event.result = event.source
  origin_eq : ∀ event ∈ events, event.result.origin = first.origin

/-- Whatever is done to an attempt from its start on, in whatever order, is orderly. -/
theorem histories_are_orderly (record : Record) (dependencyType target : String)
    (operations : List Operation) :
    IsOrderly (start record dependencyType target)
      (history (start record dependencyType target) operations) := by
  generalize hfirst : start record dependencyType target = first
  have hselected : first.state = .selected := by rw [← hfirst, start_state]
  have hopen : first.IsTimed := by
    rw [← hfirst]
    exact iff_of_false Bool.false_ne_true Bool.false_ne_true
  have hlawful : ∀ event ∈ history first operations, event.Lawful := fun _ =>
    Event.lawful_of_mem_history
  -- all moves together are the trail of the state that the attempt is in at last
  obtain ⟨last, hlast⟩ := exists_trail_eq first operations
  rw [hselected, State.trail, List.singleton_append] at hlast
  exact {
    performed event hmem := (hlawful event hmem).performed
    isTimed := by
      have hresults : ∀ event ∈ history first operations, event.result.IsTimed := fun event hmem =>
        (history_keeps IsTimed (fun _ hevent => hevent.isTimed) hopen event hmem).2.2
      simpa [hopen] using hresults
    isPath := by
      rw [hselected, hlast]
      exact State.isPath_trail last
    state_eq event hmem := (hlawful event hmem).state_eq
    length_moves_le := by
      have hlength := State.length_trail_le last
      rw [← hlast, List.length_cons] at hlength
      omega
    move?_eq_none := pairwise_move?_eq_none first operations
    refused_iff event hmem := (hlawful event hmem).refused_iff
    result_eq event hmem cause := (hlawful event hmem).result_eq
    origin_eq event hmem :=
      (history_keeps (·.origin = first.origin) (fun _ hevent => hevent.origin_eq.trans) rfl
        event hmem).2.2 }

end Patchwise.Attempt

import Patchwise.Session

/-!
# What sessions ensure

A session does not say how its calls are answered, so a property of it is one of every conversation
that it can be held as. `Session.Ensures` is such a property: of the value that the session ends
with, and of its journal, the calls that are of interest together with their answers.

## Main definitions

- `Session.journal` — the calls of a session that are of interest, with their answers
- `Session.Ensures` — what holds of a session's value and journal, whatever the collaborators do
- `Trail` — the states that events lead through, one after the other

## Design notes

The rules of `Session.Ensures` follow the shape of sessions: one for a session that is over, two for
a call, depending on whether it is of interest, and one for a composition. A proof about a part of
the program goes through the part's steps with them and never looks at a collaborator.
-/

namespace Patchwise

namespace Session

variable {I : Interface} {α β σ : Type} {keep : I.Call → Bool}

/-- The calls of a session that are of interest, with their answers, in order. -/
def journal (keep : I.Call → Bool) (serve : Collaborator I σ) (session : Session I α)
    (state : σ) : List (Event I) :=
  (session.transcript serve state).filter fun event => keep event.request

/-- Whatever the collaborators do, the session's value and its journal satisfy `post`. -/
def Ensures (keep : I.Call → Bool) (session : Session I α)
    (post : α → List (Event I) → Prop) : Prop :=
  ∀ ⦃σ : Type⦄ (serve : Collaborator I σ) (state : σ),
    post (session.exec serve state).1 (session.journal keep serve state)

theorem journal_bind (keep : I.Call → Bool) (serve : Collaborator I σ) (session : Session I α)
    (rest : α → Session I β) (state : σ) :
    (session.bind rest).journal keep serve state =
      session.journal keep serve state ++
        (rest (session.exec serve state).1).journal keep serve (session.exec serve state).2 := by
  simp only [journal, transcript_bind, List.filter_append]

/-- What holds of every answer of a collaborator holds all over a journal. -/
theorem forall_mem_journal {serve : Collaborator I σ} {p : Event I → Prop}
    (hserve : ∀ request state, p ⟨request, (serve request state).1⟩) (session : Session I α)
    (state : σ) : ∀ event ∈ session.journal keep serve state, p event := by
  have htranscript : ∀ event ∈ session.transcript serve state, p event := by
    induction session generalizing state with
    | done => simp [transcript]
    | call request next ih => exact List.forall_mem_cons.2 ⟨hserve request state, ih _ _⟩
  exact fun event hevent => htranscript event (List.mem_filter.1 hevent).1

/-- A journal of fewer calls is a part of one of more. -/
theorem filter_journal {keep keep' : I.Call → Bool}
    (hle : ∀ request, keep' request = true → keep request = true)
    (serve : Collaborator I σ) (session : Session I α) (state : σ) :
    (session.journal keep serve state).filter (fun event => keep' event.request) =
      session.journal keep' serve state := by
  rw [journal, journal, List.filter_filter]
  congr 1
  funext event
  cases hkeep : keep' event.request with
  | true => simp [hle _ hkeep]
  | false => rfl

namespace Ensures

variable {post post' : α → List (Event I) → Prop} {mid : α → List (Event I) → Prop}
  {goal : β → List (Event I) → Prop}

theorem mono {session : Session I α} (h : session.Ensures keep post)
    (hpost : ∀ value events, post value events → post' value events) :
    session.Ensures keep post' := by
  intro σ serve state
  exact hpost _ _ (h serve state)

theorem done {value : α} (h : post value []) :
    (Session.done value : Session I α).Ensures keep post := by
  intro σ serve state
  exact h

/-- A call of interest stands in front of the journal, with its answer. -/
theorem call {request : I.Call} {next : I.Answer request → Session I α}
    (hkeep : keep request = true)
    (h : ∀ answer, (next answer).Ensures keep fun value events =>
      post value (⟨request, answer⟩ :: events)) :
    (Session.call request next).Ensures keep post := by
  intro σ serve state
  have hnext := h (serve request state).1 serve (serve request state).2
  simpa only [exec, journal, transcript, List.filter_cons, hkeep, if_true] using hnext

/-- A call that is not of interest leaves no trace in the journal. -/
theorem call_skipped {request : I.Call} {next : I.Answer request → Session I α}
    (hkeep : keep request = false) (h : ∀ answer, (next answer).Ensures keep post) :
    (Session.call request next).Ensures keep post := by
  intro σ serve state
  have hnext := h (serve request state).1 serve (serve request state).2
  simpa [exec, journal, transcript, List.filter_cons, hkeep] using hnext

/-- What a composition ensures: its second part goes on from whatever the first part ensures. -/
theorem bind {session : Session I α} {rest : α → Session I β} (h : session.Ensures keep mid)
    (hrest : ∀ value events, mid value events →
      (rest value).Ensures keep fun last more => goal last (events ++ more)) :
    (session.bind rest).Ensures keep goal := by
  intro σ serve state
  rw [exec_bind, journal_bind]
  exact hrest _ _ (h serve state) serve (session.exec serve state).2

end Ensures

end Session

/-! ## Trails -/

/-- Events lead from one state to another, through a state after each of them. -/
inductive Trail {W E : Type} (step : W → E → W → Prop) : W → List E → W → Prop
  | nil (w : W) : Trail step w [] w
  | cons {w w' w'' : W} {event : E} {events : List E} (hstep : step w event w')
      (hrest : Trail step w' events w'') : Trail step w (event :: events) w''

namespace Trail

variable {W E : Type} {step : W → E → W → Prop}

@[simp]
theorem nil_iff {w w' : W} : Trail step w [] w' ↔ w' = w := by
  constructor
  · rintro ⟨⟩
    rfl
  · rintro rfl
    exact .nil w'

@[simp]
theorem cons_iff {w w'' : W} {event : E} {events : List E} :
    Trail step w (event :: events) w'' ↔ ∃ w', step w event w' ∧ Trail step w' events w'' := by
  constructor
  · rintro (_ | ⟨hstep, hrest⟩)
    exact ⟨_, hstep, hrest⟩
  · rintro ⟨w', hstep, hrest⟩
    exact .cons hstep hrest

/-- A trail of appended events passes through a state in between. -/
theorem of_append {w w'' : W} {first second : List E} (h : Trail step w (first ++ second) w'') :
    ∃ w', Trail step w first w' ∧ Trail step w' second w'' := by
  induction first generalizing w with
  | nil => exact ⟨w, .nil w, h⟩
  | cons event first ih =>
    obtain ⟨w₁, hstep, hrest⟩ := cons_iff.1 h
    obtain ⟨w', hfirst, hsecond⟩ := ih hrest
    exact ⟨w', .cons hstep hfirst, hsecond⟩

theorem append {w w' w'' : W} {first second : List E} (h : Trail step w first w')
    (h' : Trail step w' second w'') : Trail step w (first ++ second) w'' := by
  induction h with
  | nil => exact h'
  | cons hstep hrest ih => exact .cons hstep (ih h')

end Trail

/-- A collaborator's states, as far as they are seen, follow the journal of a session if each call
of interest is a step and no other call changes what is seen. -/
theorem Session.trail_journal {I : Interface} {α σ W : Type} {keep : I.Call → Bool}
    {serve : Collaborator I σ} (view : σ → W) {step : W → Event I → W → Prop}
    (hkept : ∀ request state, keep request = true →
      step (view state) ⟨request, (serve request state).1⟩ (view (serve request state).2))
    (hskipped : ∀ request state, keep request = false →
      view (serve request state).2 = view state)
    (session : Session I α) (state : σ) :
    Trail step (view state) (session.journal keep serve state)
      (view (session.exec serve state).2) := by
  induction session generalizing state with
  | done value => exact .nil _
  | call request next ih =>
    have hnext := ih (serve request state).1 (serve request state).2
    cases hkeep : keep request with
    | true =>
      simp only [journal, transcript, List.filter_cons, hkeep, if_true, exec]
      exact .cons (hkept request state hkeep) hnext
    | false =>
      -- the call is not in the journal, so what is seen must be as it was in front of it
      rw [hskipped request state hkeep] at hnext
      simpa [journal, transcript, List.filter_cons, hkeep, exec] using hnext

end Patchwise

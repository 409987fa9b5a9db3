import Patchwise.Proofs.InStep

/-!
# Asides

An aside is a call that only tells something. Two sessions match if they make the same calls once
the asides of both are left out, so that one of them may tell more than the other. Sessions that are
in step match, and so do they when each of their calls is held as a session of its own.

## Main definitions

- `Session.Matches` — sessions that differ in their asides only
- `Session.Unheeded` — asides make no difference to what a collaborator answers later

## Main results

- `Session.Matches.bind` — composed sessions match if their parts do
- `Session.InStep.interpret` — what sessions in step are in terms of matching ones
- `Session.Matches.held` — what matching sessions have in common when they are held
-/

namespace Patchwise.Session

variable {I J : Interface} {α α' β β' σ : Type}

/-- Two sessions make the same calls and end with related values, if the asides of each are left out
and whatever the `blind` calls among the others are answered with. -/
inductive Matches (aside blind : I.Call → Bool) (rel : α → β → Prop) :
    Session I α → Session I β → Prop
  | done {a : α} {b : β} (h : rel a b) : Matches aside blind rel (.done a) (.done b)
  | call {request : I.Call} {next : I.Answer request → Session I α}
      {next' : I.Answer request → Session I β} (hseen : blind request = false)
      (h : ∀ answer, Matches aside blind rel (next answer) (next' answer)) :
      Matches aside blind rel (.call request next) (.call request next')
  | callBlind {request : I.Call} {next : I.Answer request → Session I α}
      {next' : I.Answer request → Session I β} (hblind : blind request = true)
      (h : ∀ answer answer', Matches aside blind rel (next answer) (next' answer')) :
      Matches aside blind rel (.call request next) (.call request next')
  /-- The first session says something aside. -/
  | left {request : I.Call} {next : I.Answer request → Session I α} {second : Session I β}
      (haside : aside request = true)
      (h : ∀ answer, Matches aside blind rel (next answer) second) :
      Matches aside blind rel (.call request next) second
  /-- The second session says something aside. -/
  | right {request : I.Call} {first : Session I α} {next : I.Answer request → Session I β}
      (haside : aside request = true)
      (h : ∀ answer, Matches aside blind rel first (next answer)) :
      Matches aside blind rel first (.call request next)

/-- Asides make no difference to what is answered later, but for the blind calls. -/
def Unheeded (serve : Collaborator I σ) (aside blind : I.Call → Bool) : Prop :=
  ∀ request s, aside request = true → Indistinct serve blind (serve request s).2 s

namespace Indistinct

variable {serve : Collaborator I σ} {blind : I.Call → Bool} {s s' s'' : σ}

theorem symm (h : Indistinct serve blind s s') : Indistinct serve blind s' s :=
  fun calls request hseen => (h calls request hseen).symm

theorem trans (h : Indistinct serve blind s s') (h' : Indistinct serve blind s' s'') :
    Indistinct serve blind s s'' :=
  fun calls request hseen => (h calls request hseen).trans (h' calls request hseen)

end Indistinct

/-- A call that is not of interest is not in the journal. -/
theorem journal_call_skipped {keep : I.Call → Bool} {serve : Collaborator I σ} {request : I.Call}
    (hkeep : keep request = false) (next : I.Answer request → Session I α) (s : σ) :
    (Session.call request next).journal keep serve s =
      (next (serve request s).1).journal keep serve (serve request s).2 := by
  rw [journal, transcript, List.filter_cons_of_neg (by simp [hkeep])]
  rfl

/-- A session is in step with itself if no call is blind. -/
theorem InStep.refl (session : Session I α) : InStep (fun _ => false) Eq session session := by
  induction session with
  | done value => exact .done rfl
  | call request next ih => exact .call rfl ih

namespace Matches

variable {aside blind : I.Call → Bool} {rel : α → β → Prop} {rel' : α' → β' → Prop}

/-- Composed sessions match if their parts do. -/
theorem bind {first : Session I α} {second : Session I β}
    (h : Matches aside blind rel first second)
    {rest : α → Session I α'} {rest' : β → Session I β'}
    (hrest : ∀ a b, rel a b → Matches aside blind rel' (rest a) (rest' b)) :
    Matches aside blind rel' (first.bind rest) (second.bind rest') := by
  induction h with
  | done h => exact hrest _ _ h
  | call hseen h ih => exact .call hseen ih
  | callBlind hblind h ih => exact .callBlind hblind ih
  | left haside h ih => exact .left haside ih
  | right haside h ih => exact .right haside ih

/-- Two sessions that end with the same value go on with it alike. -/
theorem bind_eq {first second : Session I α} (h : Matches aside blind Eq first second)
    {rest : α → Session I α'} {rest' : α → Session I β'}
    (hrest : ∀ a, Matches aside blind rel' (rest a) (rest' a)) :
    Matches aside blind rel' (first.bind rest) (second.bind rest') := by
  refine h.bind ?_
  rintro a _ rfl
  exact hrest a

/-- Held from indistinct states with a collaborator who does not heed asides, matching sessions end
with related values, leave indistinct states, and have the same journal of calls that are neither
asides nor blind. -/
theorem held {first : Session I α} {second : Session I β}
    (h : Matches aside blind rel first second)
    {serve : Collaborator I σ} (hunheeded : Unheeded serve aside blind) {s s' : σ}
    (hs : Indistinct serve blind s s') {keep : I.Call → Bool}
    (hkeep : ∀ request, keep request = true → aside request = false ∧ blind request = false) :
    rel (first.exec serve s).1 (second.exec serve s').1 ∧
      Indistinct serve blind (first.exec serve s).2 (second.exec serve s').2 ∧
      first.journal keep serve s = second.journal keep serve s' := by
  have hskip : ∀ request, aside request = true ∨ blind request = true →
      keep request = false := by
    intro request hmissed
    refine Bool.eq_false_iff.2 fun hkept => ?_
    obtain ⟨haside, hblind⟩ := hkeep request hkept
    simp [haside, hblind] at hmissed
  induction h generalizing s s' with
  | done h => exact ⟨h, hs, rfl⟩
  | @call request next next' hseen h ih =>
    have hanswer := hs.answer_eq hseen
    obtain ⟨hrel, hlast, hjournal⟩ := ih (serve request s).1 (hs.next request)
    rw [hanswer] at hrel hlast hjournal
    refine ⟨?_, ?_, ?_⟩
    · simpa only [exec, hanswer] using hrel
    · simpa only [exec, hanswer] using hlast
    · simp only [journal] at hjournal
      simp only [journal, transcript, List.filter_cons, hanswer, hjournal]
  | @callBlind request next next' hblind h ih =>
    obtain ⟨hrel, hlast, hjournal⟩ :=
      ih (serve request s).1 (serve request s').1 (hs.next request)
    refine ⟨hrel, hlast, ?_⟩
    rw [journal_call_skipped (hskip request (.inr hblind)),
      journal_call_skipped (hskip request (.inr hblind)), hjournal]
  | @left request next second haside h ih =>
    -- what is said aside leaves a state that is as good as the one before
    obtain ⟨hrel, hlast, hjournal⟩ :=
      ih (serve request s).1 ((hunheeded request s haside).trans hs)
    refine ⟨hrel, hlast, ?_⟩
    rw [journal_call_skipped (hskip request (.inl haside)), hjournal]
  | @right request first next haside h ih =>
    obtain ⟨hrel, hlast, hjournal⟩ :=
      ih (serve request s').1 (hs.trans (hunheeded request s' haside).symm)
    refine ⟨hrel, hlast, ?_⟩
    rw [journal_call_skipped (hskip request (.inl haside)), hjournal]

end Matches

/-- Sessions in step match when they are held in terms of sessions that match call by call. -/
theorem InStep.interpret {blind : I.Call → Bool} {aside blind' : J.Call → Bool}
    {rel : α → β → Prop} {first : Session I α} {second : Session I β}
    (h : InStep blind rel first second)
    {render render' : (request : I.Call) → Session J (I.Answer request)}
    (hseen : ∀ request, blind request = false →
      Matches aside blind' Eq (render request) (render' request))
    (hblind : ∀ request, blind request = true →
      Matches aside blind' (fun _ _ => True) (render request) (render' request)) :
    Matches aside blind' rel (first.interpret render) (second.interpret render') := by
  induction h with
  | done h => exact .done h
  | call hrequest h ih => exact (hseen _ hrequest).bind_eq ih
  | callBlind hrequest h ih =>
    exact (hblind _ hrequest).bind fun answer answer' _ => ih answer answer'

end Patchwise.Session

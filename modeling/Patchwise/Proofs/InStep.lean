import Patchwise.Proofs.Session

/-!
# Sessions in step

Two sessions are in step if they make the same calls as long as they are answered the same. Some
calls, such as those for the time, may be answered differently in the two; what follows from them
must not show in the other calls.

## Main definitions

- `Session.InStep` — sessions that make the same calls and end with related values
- `Session.Indistinct` — states that no later answers of a collaborator tell apart

## Main results

- `Session.InStep.bind` — composed sessions are in step if their parts are
- `Session.InStep.held` — what sessions in step have in common when they are held
-/

namespace Patchwise.Session

variable {I : Interface} {α α' β β' σ : Type}

/-- Two sessions make the same calls and end with related values, whatever the `blind` calls among
them are answered with. -/
inductive InStep (blind : I.Call → Bool) (rel : α → β → Prop) :
    Session I α → Session I β → Prop
  | done {a : α} {b : β} (h : rel a b) : InStep blind rel (.done a) (.done b)
  | call {request : I.Call} {next : I.Answer request → Session I α}
      {next' : I.Answer request → Session I β} (hseen : blind request = false)
      (h : ∀ answer, InStep blind rel (next answer) (next' answer)) :
      InStep blind rel (.call request next) (.call request next')
  | callBlind {request : I.Call} {next : I.Answer request → Session I α}
      {next' : I.Answer request → Session I β} (hblind : blind request = true)
      (h : ∀ answer answer', InStep blind rel (next answer) (next' answer')) :
      InStep blind rel (.call request next) (.call request next')

/-- The state that some calls leave a collaborator in. -/
def after (serve : Collaborator I σ) (calls : List I.Call) (s : σ) : σ :=
  calls.foldl (fun s request => (serve request s).2) s

/-- No answers tell two states of a collaborator apart, but for those to blind calls: whatever calls
are made first, the next one is answered the same. -/
def Indistinct (serve : Collaborator I σ) (blind : I.Call → Bool) (s s' : σ) : Prop :=
  ∀ calls request, blind request = false →
    (serve request (after serve calls s)).1 = (serve request (after serve calls s')).1

namespace Indistinct

variable {serve : Collaborator I σ} {blind : I.Call → Bool} {s s' : σ}

theorem answer_eq (h : Indistinct serve blind s s') {request : I.Call}
    (hseen : blind request = false) : (serve request s).1 = (serve request s').1 :=
  h [] request hseen

/-- What is indistinct stays so on further calls. -/
theorem next (h : Indistinct serve blind s s') (request : I.Call) :
    Indistinct serve blind (serve request s).2 (serve request s').2 :=
  fun calls => h (request :: calls)

end Indistinct

namespace InStep

variable {blind : I.Call → Bool} {rel : α → β → Prop} {rel' : α' → β' → Prop}

/-- Composed sessions are in step if their parts are. -/
theorem bind {first : Session I α} {second : Session I β} (h : InStep blind rel first second)
    {rest : α → Session I α'} {rest' : β → Session I β'}
    (hrest : ∀ a b, rel a b → InStep blind rel' (rest a) (rest' b)) :
    InStep blind rel' (first.bind rest) (second.bind rest') := by
  induction h with
  | done h => exact hrest _ _ h
  | call hseen h ih => exact .call hseen ih
  | callBlind hblind h ih => exact .callBlind hblind ih

/-- Held from indistinct states, sessions in step end with related values, leave indistinct states,
and have the same journal of calls that are not blind. -/
theorem held {first : Session I α} {second : Session I β} (h : InStep blind rel first second)
    {serve : Collaborator I σ} {s s' : σ} (hs : Indistinct serve blind s s')
    {keep : I.Call → Bool} (hkeep : ∀ request, blind request = true → keep request = false) :
    rel (first.exec serve s).1 (second.exec serve s').1 ∧
      Indistinct serve blind (first.exec serve s).2 (second.exec serve s').2 ∧
      first.journal keep serve s = second.journal keep serve s' := by
  induction h generalizing s s' with
  | done h => exact ⟨h, hs, rfl⟩
  | @call request next next' hseen h ih =>
    have hanswer := hs.answer_eq hseen
    obtain ⟨hrel, hlast, hjournal⟩ := ih (serve request s).1 (hs.next request)
    rw [hanswer] at hrel hlast hjournal
    refine ⟨?_, ?_, ?_⟩
    · simpa only [exec, hanswer] using hrel
    · simpa only [exec, hanswer] using hlast
    · simp only [journal] at hjournal
      simp only [journal, transcript, List.filter_cons, hanswer, hjournal]
  | @callBlind request next next' hblind h ih =>
    -- the two answers may differ, and neither of them is in the journals
    obtain ⟨hrel, hlast, hjournal⟩ :=
      ih (serve request s).1 (serve request s').1 (hs.next request)
    refine ⟨hrel, hlast, ?_⟩
    have hskip := hkeep request hblind
    simp only [journal, transcript] at hjournal ⊢
    rw [List.filter_cons_of_neg (by simp [hskip]), List.filter_cons_of_neg (by simp [hskip]),
      hjournal]

end InStep

end Patchwise.Session

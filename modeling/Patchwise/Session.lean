/-!
# Sessions with the outside

A session is a conversation that a part of the program holds with collaborators it does not
control: it makes a call, is given an answer, and goes on. Nothing in a session says how a call is
answered, so what is proved of a session holds whatever the collaborators do, and the program that
is run is the very value that is reasoned about.

## Main definitions

- `Interface` — the calls that can be made and the type of each call's answer
- `Session` — a finite conversation over an interface that ends with a value
- `Session.exec` — holds a session with a collaborator that has a state
- `Session.interpret` — holds a session in terms of another interface
- `Event` — a call together with the answer it was given
- `Session.transcript` — the calls and answers of a session held with a collaborator

## Design notes

An interface gives each call its own type of answer, so a session cannot be given an answer of the
wrong kind. Sessions are inductive: each of them ends, after as many calls as its answers ask for.
-/

namespace Patchwise

/-- The calls that can be made to a collaborator, and what each of them is answered with. -/
structure Interface where
  Call : Type
  Answer : Call → Type

/-- A conversation over the interface `I` that ends with a value. -/
inductive Session (I : Interface) (α : Type) : Type where
  /-- The conversation is over. -/
  | done (value : α)
  /-- A call is made, and its answer says how to go on. -/
  | call (request : I.Call) (next : I.Answer request → Session I α)

/-- A call and the answer that it was given. -/
structure Event (I : Interface) where
  request : I.Call
  answer : I.Answer request

/-- A collaborator with a state: how it answers each call, and the state that this leaves. -/
abbrev Collaborator (I : Interface) (σ : Type) :=
  (request : I.Call) → σ → I.Answer request × σ

namespace Session

variable {I J : Interface} {α β γ σ : Type}

/-- Goes on with another session once the first one is over. -/
def bind : Session I α → (α → Session I β) → Session I β
  | done value, rest => rest value
  | call request next, rest => call request fun answer => (next answer).bind rest

instance : Monad (Session I) where
  pure := done
  bind := bind

/-- The session that makes one call and ends with its answer. -/
def ask (request : I.Call) : Session I (I.Answer request) :=
  call request done

/-- Holds a session with a collaborator, and answers the session's value and the state that the
collaborator is left in. -/
def exec (serve : Collaborator I σ) : Session I α → σ → α × σ
  | done value, state => (value, state)
  | call request next, state =>
    let served := serve request state
    (next served.1).exec serve served.2

/-- The calls that a session makes to a collaborator, with their answers, in order. -/
def transcript (serve : Collaborator I σ) : Session I α → σ → List (Event I)
  | done _, _ => []
  | call request next, state =>
    let served := serve request state
    ⟨request, served.1⟩ :: (next served.1).transcript serve served.2

/-- Holds a session over `I` as one over `J`, in which each call is a session of its own. -/
def interpret (render : (request : I.Call) → Session J (I.Answer request)) :
    Session I α → Session J α
  | done value => done value
  | call request next => (render request).bind fun answer => (next answer).interpret render

/-! ## Laws -/

@[simp]
theorem pure_eq_done (value : α) : (pure value : Session I α) = done value :=
  rfl

@[simp]
theorem bind_eq (session : Session I α) (rest : α → Session I β) :
    session >>= rest = session.bind rest :=
  rfl

@[simp]
theorem done_bind (value : α) (rest : α → Session I β) : (done value).bind rest = rest value :=
  rfl

@[simp]
theorem call_bind (request : I.Call) (next : I.Answer request → Session I α)
    (rest : α → Session I β) :
    (call request next).bind rest = call request fun answer => (next answer).bind rest :=
  rfl

@[simp]
theorem bind_done (session : Session I α) : session.bind done = session := by
  induction session with
  | done => rfl
  | call request next ih => simp [ih]

theorem bind_assoc (session : Session I α) (f : α → Session I β) (g : β → Session I γ) :
    (session.bind f).bind g = session.bind fun a => (f a).bind g := by
  induction session with
  | done => rfl
  | call request next ih => simp [ih]

/-- The value of a composed session is that of the second part, held from where the first left
the collaborator. -/
@[simp]
theorem exec_bind (serve : Collaborator I σ) (session : Session I α) (rest : α → Session I β)
    (state : σ) :
    (session.bind rest).exec serve state =
      (rest (session.exec serve state).1).exec serve (session.exec serve state).2 := by
  induction session generalizing state with
  | done => rfl
  | call request next ih => simp only [call_bind, exec, ih]

/-- The calls of a composed session are those of its first part followed by those of its
second. -/
@[simp]
theorem transcript_bind (serve : Collaborator I σ) (session : Session I α)
    (rest : α → Session I β) (state : σ) :
    (session.bind rest).transcript serve state =
      session.transcript serve state ++
        (rest (session.exec serve state).1).transcript serve (session.exec serve state).2 := by
  induction session generalizing state with
  | done => rfl
  | call request next ih => simp only [call_bind, transcript, exec, ih, List.cons_append]

/-- Interpreting a composed session is composing the interpretations. -/
@[simp]
theorem interpret_bind (render : (request : I.Call) → Session J (I.Answer request))
    (session : Session I α) (rest : α → Session I β) :
    (session.bind rest).interpret render =
      (session.interpret render).bind fun a => (rest a).interpret render := by
  induction session with
  | done => rfl
  | call request next ih => simp only [call_bind, interpret, bind_assoc, ih]

/-- An interpreted session is the session held with the collaborator that answers each call by
holding the call's rendering. -/
theorem exec_interpret (render : (request : I.Call) → Session J (I.Answer request))
    (serve : Collaborator J σ) (session : Session I α) (state : σ) :
    (session.interpret render).exec serve state =
      session.exec (fun request => (render request).exec serve) state := by
  induction session generalizing state with
  | done => rfl
  | call request next ih => simp only [interpret, exec_bind, exec, ih]

end Session

end Patchwise

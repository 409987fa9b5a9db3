import Mathlib.Logic.Function.Iterate
import Patchwise.Pipeline
import Patchwise.Proofs.Session

/-!
# How long a pipeline is waited for

A verification by a pipeline goes through its steps in order and asks the service again and again
how far the pipeline has come. It stops at the first step that fails, at the first answer that the
pipeline has ended, and when its polls are used up, whichever comes first.

## Main definitions

- `Pipeline.failure?` — why a step of a verification fails
- `Pipeline.polls` — the answers that a service gave to its polls
- `Pipeline.answerAt`, `Pipeline.isCancelledAt` — the answer to the poll of a number, and whether
  the wait in front of it is cut short
- `Pipeline.RunsOn` — whether a poll is followed by another one
- `Pipeline.Starts` — whether there is a pipeline to wait for

## Main results

- `Pipeline.verify_polls_within_budget` — what a verification calls and what it ends with, for every
  service and every repository

## Design notes

A collaborator has a state and may answer each poll in view of all that came before. What it would
answer to the poll of a number is read off its state after so many polls, so a collaborator is as
good as a list of answers and no list has to be fixed beforehand.
-/

namespace Patchwise.Pipeline

open Session

/-- A call of a verification, with the answer it was given. -/
abbrev Step : Type := Event interface

/-- Why a step fails, if it does. -/
def failure? : Step → Option VerifyError
  | ⟨.currentBranch, .error cause⟩ => some (.tool cause)
  | ⟨.push, .error cause⟩ => some (.tool cause)
  | ⟨.trigger _, .error cause⟩ => some cause
  | ⟨.wait _, true⟩ => some .cancelled
  | ⟨.status _, .error cause⟩ => some cause
  | _ => none

/-- What the service answers in a step that polls it. -/
def poll? : Step → Option (Except VerifyError Status)
  | ⟨.status _, answer⟩ => some answer
  | _ => none

/-- The answers that the service gave to its polls, in order. -/
def polls (steps : List Step) : List (Except VerifyError Status) :=
  steps.filterMap poll?

/-! ## Polls by their number -/

section Polls

variable {σ : Type} (serve : Collaborator interface σ) (milliseconds : Nat) (pipeline : String)

/-- The state of a service after one more poll. -/
def afterPoll (s : σ) : σ :=
  (serve (Call.status pipeline) (serve (Call.wait milliseconds) s).2).2

/-- Whether the user asks to stop during the wait in front of a poll. Polls count from zero. -/
def isCancelledAt (s : σ) (i : Nat) : Bool :=
  (serve (Call.wait milliseconds) ((afterPoll serve milliseconds pipeline)^[i] s)).1

/-- What the service answers to a poll. -/
def answerAt (s : σ) (i : Nat) : Except VerifyError Status :=
  (serve (Call.status pipeline)
    (serve (Call.wait milliseconds) ((afterPoll serve milliseconds pipeline)^[i] s)).2).1

/-- A poll tells that the pipeline is still running, so that another poll follows if any is left. -/
def RunsOn (s : σ) (i : Nat) : Prop :=
  isCancelledAt serve milliseconds pipeline s i = false ∧
    answerAt serve milliseconds pipeline s i = .ok .running

/-- The steps of some polls that tell that the pipeline is running. -/
def runningSteps (n : Nat) : List Step :=
  (List.replicate n [⟨.wait milliseconds, false⟩, ⟨.status pipeline, .ok .running⟩]).flatten

variable {serve milliseconds pipeline} {s : σ}

theorem poll_of_cancelled (maxPolls left : Nat)
    (h : isCancelledAt serve milliseconds pipeline s 0 = true) :
    ((poll milliseconds maxPolls pipeline (left + 1)).exec serve s).1 = .error .cancelled ∧
      (poll milliseconds maxPolls pipeline (left + 1)).transcript serve s =
        [⟨.wait milliseconds, true⟩] := by
  change (serve (Call.wait milliseconds) s).1 = true at h
  simp [poll, exec, transcript, h]

/-- A poll that is answered by anything else than that the pipeline is running is the last one. -/
theorem poll_of_answer (maxPolls left : Nat) {answer : Except VerifyError Status}
    (hwait : isCancelledAt serve milliseconds pipeline s 0 = false)
    (hanswer : answerAt serve milliseconds pipeline s 0 = answer) (hne : answer ≠ .ok .running) :
    ((poll milliseconds maxPolls pipeline (left + 1)).exec serve s).1 = answer ∧
      (poll milliseconds maxPolls pipeline (left + 1)).transcript serve s =
        [⟨.wait milliseconds, false⟩, ⟨.status pipeline, answer⟩] := by
  change (serve (Call.wait milliseconds) s).1 = false at hwait
  change (serve (Call.status pipeline) (serve (Call.wait milliseconds) s).2).1 = answer at hanswer
  match answer with
  | .error cause => simp [poll, exec, transcript, hwait, hanswer]
  | .ok .success => simp [poll, exec, transcript, hwait, hanswer, Status.isTerminal]
  | .ok .failed => simp [poll, exec, transcript, hwait, hanswer, Status.isTerminal]
  | .ok .running => exact absurd rfl hne

theorem poll_of_running (maxPolls left : Nat) (h : RunsOn serve milliseconds pipeline s 0) :
    (poll milliseconds maxPolls pipeline (left + 1)).exec serve s =
        (poll milliseconds maxPolls pipeline left).exec serve
          (afterPoll serve milliseconds pipeline s) ∧
      (poll milliseconds maxPolls pipeline (left + 1)).transcript serve s =
        runningSteps milliseconds pipeline 1 ++
          (poll milliseconds maxPolls pipeline left).transcript serve
            (afterPoll serve milliseconds pipeline s) := by
  obtain ⟨hwait, hanswer⟩ := h
  change (serve (Call.wait milliseconds) s).1 = false at hwait
  change (serve (Call.status pipeline) (serve (Call.wait milliseconds) s).2).1 = .ok .running
    at hanswer
  simp [poll, exec, transcript, hwait, hanswer, Status.isTerminal, runningSteps, afterPoll]

/-- As long as the pipeline is running, polling goes on with as many polls less. -/
theorem poll_of_runsOn (maxPolls left : Nat) {n : Nat}
    (h : ∀ j < n, RunsOn serve milliseconds pipeline s j) :
    (poll milliseconds maxPolls pipeline (left + n)).exec serve s =
        (poll milliseconds maxPolls pipeline left).exec serve
          ((afterPoll serve milliseconds pipeline)^[n] s) ∧
      (poll milliseconds maxPolls pipeline (left + n)).transcript serve s =
        runningSteps milliseconds pipeline n ++
          (poll milliseconds maxPolls pipeline left).transcript serve
            ((afterPoll serve milliseconds pipeline)^[n] s) := by
  induction n generalizing s with
  | zero => exact ⟨rfl, rfl⟩
  | succ n ih =>
    have hrest : ∀ j < n, RunsOn serve milliseconds pipeline
        (afterPoll serve milliseconds pipeline s) j := fun j hj => h (j + 1) (by omega)
    obtain ⟨hexec, htranscript⟩ := ih hrest
    obtain ⟨hfirst, hsteps⟩ := poll_of_running maxPolls (left + n) (h 0 (Nat.succ_pos n))
    refine ⟨hfirst.trans hexec, ?_⟩
    rw [← Nat.add_assoc, hsteps, htranscript, ← List.append_assoc]
    rfl

end Polls

/-! ## Waiting -/

section Waiting

variable {σ : Type} {serve : Collaborator interface σ} {polling : Polling} {pipeline : String}
  {s : σ}

theorem waitFor_of_runsOn
    (h : ∀ j < polling.maxPolls, RunsOn serve polling.wait pipeline s j) :
    ((waitFor polling pipeline).exec serve s).1 = .error (.timeout pipeline polling.maxPolls) ∧
      (waitFor polling pipeline).transcript serve s =
        runningSteps polling.wait pipeline polling.maxPolls := by
  obtain ⟨hexec, htranscript⟩ := poll_of_runsOn polling.maxPolls 0 h
  rw [Nat.zero_add] at hexec htranscript
  exact ⟨by rw [waitFor, hexec]; rfl, by rw [waitFor, htranscript]; exact List.append_nil _⟩

theorem waitFor_of_cancelled {i : Nat} (hlt : i < polling.maxPolls)
    (h : ∀ j < i, RunsOn serve polling.wait pipeline s j)
    (hcancelled : isCancelledAt serve polling.wait pipeline s i = true) :
    ((waitFor polling pipeline).exec serve s).1 = .error .cancelled ∧
      (waitFor polling pipeline).transcript serve s =
        runningSteps polling.wait pipeline i ++ [⟨.wait polling.wait, true⟩] := by
  obtain ⟨left, hleft⟩ : ∃ left, polling.maxPolls = left + 1 + i :=
    ⟨polling.maxPolls - i - 1, by omega⟩
  obtain ⟨hexec, htranscript⟩ := poll_of_runsOn polling.maxPolls (left + 1) h
  rw [← hleft] at hexec htranscript
  obtain ⟨hended, hsteps⟩ := poll_of_cancelled polling.maxPolls left hcancelled
  exact ⟨by rw [waitFor, hexec, hended], by rw [waitFor, htranscript, hsteps]⟩

theorem waitFor_of_answer {i : Nat} (hlt : i < polling.maxPolls)
    (h : ∀ j < i, RunsOn serve polling.wait pipeline s j)
    (hwait : isCancelledAt serve polling.wait pipeline s i = false)
    (hne : answerAt serve polling.wait pipeline s i ≠ .ok .running) :
    ((waitFor polling pipeline).exec serve s).1 = answerAt serve polling.wait pipeline s i ∧
      (waitFor polling pipeline).transcript serve s =
        runningSteps polling.wait pipeline i ++ [⟨.wait polling.wait, false⟩,
          ⟨.status pipeline, answerAt serve polling.wait pipeline s i⟩] := by
  obtain ⟨left, hleft⟩ : ∃ left, polling.maxPolls = left + 1 + i :=
    ⟨polling.maxPolls - i - 1, by omega⟩
  obtain ⟨hexec, htranscript⟩ := poll_of_runsOn polling.maxPolls (left + 1) h
  rw [← hleft] at hexec htranscript
  obtain ⟨hended, hsteps⟩ := poll_of_answer polling.maxPolls left hwait rfl hne
  exact ⟨by rw [waitFor, hexec, hended]; rfl, by rw [waitFor, htranscript, hsteps]; rfl⟩

end Waiting

/-! ## Failures -/

/-- Nothing is called behind a step that fails, and its error is what the verification ends with. -/
def StopsAtFailure (steps : List Step) (ended : Except VerifyError Verdict) : Prop :=
  ∀ before step after cause, steps = before ++ step :: after → failure? step = some cause →
    after = [] ∧ ended = .error cause

theorem StopsAtFailure.of_forall {steps : List Step} {ended : Except VerifyError Verdict}
    (h : ∀ step ∈ steps, failure? step = none) : StopsAtFailure steps ended := by
  intro before step after cause hsteps hfailure
  have hnone := h step (by simp [hsteps])
  rw [hfailure] at hnone
  cases hnone

theorem StopsAtFailure.concat {steps : List Step} {last : Step} {ended : Except VerifyError Verdict}
    (h : ∀ step ∈ steps, failure? step = none)
    (hlast : ∀ cause, failure? last = some cause → ended = .error cause) :
    StopsAtFailure (steps ++ [last]) ended := by
  intro before step after cause hsteps hfailure
  rcases List.eq_nil_or_concat after with rfl | ⟨after, final, rfl⟩
  · obtain ⟨-, hstep⟩ := List.append_inj' hsteps rfl
    obtain rfl : last = step := by simpa using hstep
    exact ⟨rfl, hlast cause hfailure⟩
  · -- a step in front of the last one does not fail
    rw [List.concat_eq_append, ← List.cons_append, ← List.append_assoc] at hsteps
    obtain ⟨hfront, -⟩ := List.append_inj' hsteps rfl
    have hnone := h step (by simp [hfront])
    rw [hfailure] at hnone
    cases hnone

section Running

variable {milliseconds : Nat} {pipeline : String}

theorem failure?_of_mem_runningSteps {n : Nat} {step : Step}
    (h : step ∈ runningSteps milliseconds pipeline n) : failure? step = none := by
  obtain ⟨pair, hpair, hstep⟩ := List.mem_flatten.1 h
  rw [List.eq_of_mem_replicate hpair, List.mem_cons, List.mem_singleton] at hstep
  rcases hstep with rfl | rfl <;> rfl

theorem polls_runningSteps (n : Nat) :
    polls (runningSteps milliseconds pipeline n) = List.replicate n (.ok .running) := by
  induction n with
  | zero => rfl
  | succ n ih =>
    rw [runningSteps, List.replicate_succ, List.flatten_cons, polls, List.filterMap_append]
    exact congrArg (Except.ok .running :: ·) ih

end Running

/-! ## The ways in which waiting can go -/

section Waits

variable {σ : Type} {milliseconds : Nat} {pipeline : String} {polling : Polling}

theorem polls_append_cancelled (n milliseconds : Nat) :
    polls (runningSteps milliseconds pipeline n ++ [⟨.wait milliseconds, true⟩]) =
      List.replicate n (.ok .running) := by
  rw [polls, List.filterMap_append, ← polls, polls_runningSteps]
  exact List.append_nil _

theorem polls_append_answer (n milliseconds : Nat) (answer : Except VerifyError Status) :
    polls (runningSteps milliseconds pipeline n ++
        [⟨.wait milliseconds, false⟩, ⟨.status pipeline, answer⟩]) =
      List.replicate n (.ok .running) ++ [answer] := by
  rw [polls, List.filterMap_append, ← polls, polls_runningSteps]
  rfl

theorem requests_runningSteps (n milliseconds : Nat) :
    (runningSteps milliseconds pipeline n).map (·.request) =
      (List.replicate n [.wait milliseconds, .status pipeline]).flatten := by
  rw [runningSteps, List.map_flatten, List.map_replicate]
  rfl

/-- Either a pipeline runs on as long as there are polls, or there is a first poll that is not made
or not answered by that. -/
theorem exists_first_not_runsOn (serve : Collaborator interface σ) (milliseconds : Nat)
    (pipeline : String) (s : σ) (n : Nat) :
    (∀ j < n, RunsOn serve milliseconds pipeline s j) ∨
      ∃ i < n, (∀ j < i, RunsOn serve milliseconds pipeline s j) ∧
        (isCancelledAt serve milliseconds pipeline s i = true ∨
          isCancelledAt serve milliseconds pipeline s i = false ∧
            answerAt serve milliseconds pipeline s i ≠ .ok .running) := by
  induction n with
  | zero => exact .inl fun j hj => absurd hj (Nat.not_lt_zero j)
  | succ n ih =>
    rcases ih with hruns | ⟨i, hlt, hfirst⟩
    · by_cases hn : RunsOn serve milliseconds pipeline s n
      · refine .inl fun j hj => ?_
        rcases Nat.lt_succ_iff_lt_or_eq.1 hj with hlt | rfl
        · exact hruns j hlt
        · exact hn
      · refine .inr ⟨n, Nat.lt_succ_self n, hruns, ?_⟩
        cases hwait : isCancelledAt serve milliseconds pipeline s n with
        | true => exact .inl rfl
        | false => exact .inr ⟨rfl, fun hanswer => hn ⟨hwait, hanswer⟩⟩
    · exact .inr ⟨i, Nat.lt_succ_of_lt hlt, hfirst⟩

/-- Some rounds and the beginning of one more are the beginning of as many rounds as are more. -/
theorem isPrefix_flatten_replicate {α : Type} {round start : List α} {i n : Nat} (hlt : i < n)
    (h : start <+: round) :
    (List.replicate i round).flatten ++ start <+: (List.replicate n round).flatten := by
  obtain ⟨rest, rfl⟩ := h
  obtain ⟨left, rfl⟩ : ∃ left, n = i + (left + 1) := ⟨n - i - 1, by omega⟩
  rw [← List.replicate_append_replicate, List.flatten_append, List.replicate_succ,
    List.flatten_cons, List.append_assoc]
  exact (List.prefix_append_right_inj _).2 (List.prefix_append _ _)

/-- What a verification ends with is what its pipeline's status, or the error in its place, says. -/
structure Tells (service pipeline : String) (answer : Except VerifyError Status)
    (ended : Except VerifyError Verdict) : Prop where
  passed_iff : ended = .ok .passed ↔ answer = .ok .success
  failed_iff : ended = .ok (.failed (service ++ " pipeline " ++ pipeline ++ " failed")) ↔
    answer = .ok .failed
  error_iff : ∀ cause, ended = .error cause ↔ answer = .error cause

theorem tells_map_verdict (service pipeline : String) {answer : Except VerifyError Status}
    (hne : answer ≠ .ok .running) :
    Tells service pipeline answer (answer.map (verdict service pipeline)) := by
  match answer with
  | .error cause => constructor <;> simp [Except.map]
  | .ok .success => constructor <;> simp [Except.map, verdict]
  | .ok .failed => constructor <;> simp [Except.map, verdict]
  | .ok .running => exact absurd rfl hne

/-- The ways in which waiting for a pipeline can go, and what it ends with. -/
inductive Waits (polling : Polling) (pipeline : String) :
    List Step → Except VerifyError Status → Prop
  | timedOut :
      Waits polling pipeline (runningSteps polling.wait pipeline polling.maxPolls)
        (.error (.timeout pipeline polling.maxPolls))
  | cancelled {i : Nat} (hlt : i < polling.maxPolls) :
      Waits polling pipeline (runningSteps polling.wait pipeline i ++ [⟨.wait polling.wait, true⟩])
        (.error .cancelled)
  | answered {i : Nat} {answer : Except VerifyError Status} (hlt : i < polling.maxPolls)
      (hne : answer ≠ .ok .running) :
      Waits polling pipeline
        (runningSteps polling.wait pipeline i ++
          [⟨.wait polling.wait, false⟩, ⟨.status pipeline, answer⟩])
        answer

theorem waitFor_waits (serve : Collaborator interface σ) (polling : Polling) (pipeline : String)
    (s : σ) :
    Waits polling pipeline ((waitFor polling pipeline).transcript serve s)
      ((waitFor polling pipeline).exec serve s).1 := by
  rcases exists_first_not_runsOn serve polling.wait pipeline s polling.maxPolls with
    hruns | ⟨i, hlt, hruns, hcancelled | ⟨hwait, hne⟩⟩
  · obtain ⟨hended, hsteps⟩ := waitFor_of_runsOn hruns
    rw [hended, hsteps]
    exact .timedOut
  · obtain ⟨hended, hsteps⟩ := waitFor_of_cancelled hlt hruns hcancelled
    rw [hended, hsteps]
    exact .cancelled hlt
  · obtain ⟨hended, hsteps⟩ := waitFor_of_answer hlt hruns hwait hne
    rw [hended, hsteps]
    exact .answered hlt hne

namespace Waits

variable {steps : List Step} {ended : Except VerifyError Status}

theorem isPrefix (h : Waits polling pipeline steps ended) :
    steps.map (·.request) <+:
      (List.replicate polling.maxPolls [Call.wait polling.wait, .status pipeline]).flatten := by
  cases h with
  | timedOut => exact ⟨[], by rw [List.append_nil, requests_runningSteps]⟩
  | cancelled hlt =>
    rw [List.map_append, requests_runningSteps]
    exact isPrefix_flatten_replicate hlt (List.prefix_append _ [_])
  | answered hlt hne =>
    rw [List.map_append, requests_runningSteps]
    exact isPrefix_flatten_replicate hlt List.prefix_rfl

theorem stopsAtFailure (h : Waits polling pipeline steps ended) {service : String}
    {front : List Step} (hfront : ∀ step ∈ front, failure? step = none) :
    StopsAtFailure (front ++ steps) (ended.map (verdict service pipeline)) := by
  have hfine : ∀ n, ∀ step ∈ front ++ runningSteps polling.wait pipeline n,
      failure? step = none := fun n step hstep =>
    (List.mem_append.1 hstep).elim (hfront step) failure?_of_mem_runningSteps
  cases h with
  | timedOut => exact .of_forall (hfine _)
  | @cancelled i hlt =>
    rw [← List.append_assoc]
    exact .concat (hfine i) fun cause hcause => by rw [← Option.some.inj hcause]; rfl
  | @answered i _ hlt hne =>
    rw [List.append_cons, ← List.append_assoc, ← List.append_assoc]
    refine .concat (fun step hstep => ?_) fun cause hcause => ?_
    · rcases List.mem_append.1 hstep with hstep | hstep
      · exact hfine i step hstep
      · rw [List.mem_singleton.1 hstep]
        rfl
    · cases ended with
      | error cause' =>
        rw [← Option.some.inj hcause]
        rfl
      | ok status => cases hcause

theorem passed_iff (h : Waits polling pipeline steps ended) (service : String) :
    ended.map (verdict service pipeline) = .ok .passed ↔ ∃ i < polling.maxPolls,
      polls steps = List.replicate i (.ok .running) ++ [.ok .success] := by
  -- where only running pipelines are told of there is no success
  have hnone : ∀ n i : Nat, (List.replicate n (.ok .running) : List (Except VerifyError Status)) ≠
      List.replicate i (.ok .running) ++ [.ok .success] := by
    intro n i heq
    have hmem : (.ok .success : Except VerifyError Status) ∈ List.replicate n (.ok .running) :=
      heq ▸ List.mem_append_right _ (List.mem_singleton_self _)
    cases List.eq_of_mem_replicate hmem
  cases h with
  | timedOut =>
    rw [polls_runningSteps]
    exact iff_of_false nofun fun ⟨i, _, heq⟩ => hnone _ i heq
  | cancelled hlt =>
    rw [polls_append_cancelled]
    exact iff_of_false nofun fun ⟨i, _, heq⟩ => hnone _ i heq
  | @answered i answer hlt hne =>
    rw [polls_append_answer, (tells_map_verdict service pipeline hne).passed_iff]
    constructor
    · intro hsuccess
      exact ⟨i, hlt, by rw [hsuccess]⟩
    · rintro ⟨n, -, heq⟩
      obtain ⟨-, hlast⟩ := List.append_inj' heq rfl
      exact List.singleton_inj.1 hlast

end Waits

end Waits

/-! ## The whole verification -/

/-- The calls that a verification may make, in order. -/
def calls (polling : Polling) (branch pipeline : String) : List Call :=
  .currentBranch :: .push :: .trigger branch ::
    (List.replicate polling.maxPolls [.wait polling.wait, .status pipeline]).flatten

section Verifying

variable {σ : Type} (serve : Collaborator interface σ) (s : σ)

/-- The branch that is checked out is known and pushed, and a pipeline of the given name is started
for it, which leaves the service in the given state. -/
def Starts (branch pipeline : String) (s' : σ) : Prop :=
  (serve Call.currentBranch s).1 = .ok branch ∧
    (serve Call.push (serve Call.currentBranch s).2).1 = .ok () ∧
      serve (Call.trigger branch) (serve Call.push (serve Call.currentBranch s).2).2 =
        (.ok pipeline, s')

/-- What holds of the steps of a verification and of what it ends with. -/
structure IsBounded (service : String) (polling : Polling) (steps : List Step)
    (ended : Except VerifyError Verdict) : Prop where
  in_order : ∃ branch pipeline, steps.map (·.request) <+: calls polling branch pipeline ∧
    (∀ name, (serve Call.currentBranch s).1 = .ok name → name = branch) ∧
      ∀ name s', Starts serve s branch name s' → name = pipeline
  stopsAtFailure : StopsAtFailure steps ended
  /-- There is a pipeline to wait for unless a step in front of the first poll fails. -/
  starts_or_fails : (∃ branch pipeline s', Starts serve s branch pipeline s') ∨
    polls steps = [] ∧ ∃ step cause, step ∈ steps ∧ failure? step = some cause
  /-- The first answer that is not that the pipeline is running is the last one. -/
  answered : ∀ branch pipeline s', Starts serve s branch pipeline s' →
    ∀ i < polling.maxPolls, (∀ j < i, RunsOn serve polling.wait pipeline s' j) →
      isCancelledAt serve polling.wait pipeline s' i = false →
        answerAt serve polling.wait pipeline s' i ≠ .ok .running →
          polls steps = List.replicate i (.ok .running) ++
              [answerAt serve polling.wait pipeline s' i] ∧
            Tells service pipeline (answerAt serve polling.wait pipeline s' i) ended
  /-- Without such an answer all polls are used up. -/
  timedOut : ∀ branch pipeline s', Starts serve s branch pipeline s' →
    (∀ j < polling.maxPolls, RunsOn serve polling.wait pipeline s' j) →
      polls steps = List.replicate polling.maxPolls (.ok .running) ∧
        ended = .error (.timeout pipeline polling.maxPolls)
  /-- If the user asks to stop during the wait in front of a poll, the poll is not made. -/
  cancelled : ∀ branch pipeline s', Starts serve s branch pipeline s' →
    ∀ i < polling.maxPolls, (∀ j < i, RunsOn serve polling.wait pipeline s' j) →
      isCancelledAt serve polling.wait pipeline s' i = true →
        polls steps = List.replicate i (.ok .running) ∧ ended = .error .cancelled
  passed_iff : ended = .ok .passed ↔
    ∃ i < polling.maxPolls, polls steps = List.replicate i (.ok .running) ++ [.ok .success]

/-- The steps of a verification up to the start of its pipeline. -/
def openingSteps (branch pipeline : String) : List Step :=
  [⟨.currentBranch, .ok branch⟩, ⟨.push, .ok ()⟩, ⟨.trigger branch, .ok pipeline⟩]

variable {serve s} {polling : Polling} {branch pipeline : String} {s' : σ}

theorem verify_of_starts (service : String) (polling : Polling)
    (h : Starts serve s branch pipeline s') :
    ((verify service polling).exec serve s).1 =
        (((waitFor polling pipeline).exec serve s').1.map (verdict service pipeline)) ∧
      (verify service polling).transcript serve s =
        openingSteps branch pipeline ++ (waitFor polling pipeline).transcript serve s' := by
  obtain ⟨hbranch, hpushed, htriggered⟩ := h
  simp [verify, exec, transcript, hbranch, hpushed, htriggered, openingSteps]

@[simp]
theorem polls_openingSteps_append (steps : List Step) :
    polls (openingSteps branch pipeline ++ steps) = polls steps :=
  rfl

theorem Starts.unique {branch' pipeline' : String} {s'' : σ}
    (h : Starts serve s branch pipeline s') (h' : Starts serve s branch' pipeline' s'') :
    branch' = branch ∧ pipeline' = pipeline ∧ s'' = s' := by
  obtain ⟨hbranch, -, htriggered⟩ := h
  obtain ⟨hbranch', -, htriggered'⟩ := h'
  obtain rfl : branch = branch' := Except.ok.inj (hbranch.symm.trans hbranch')
  obtain ⟨hpipeline, rfl⟩ := Prod.mk.inj (htriggered.symm.trans htriggered')
  exact ⟨rfl, (Except.ok.inj hpipeline).symm, rfl⟩

section Started

variable (service : String) (h : Starts serve s branch pipeline s')

include h

theorem verify_of_answer {i : Nat} (hlt : i < polling.maxPolls)
    (hruns : ∀ j < i, RunsOn serve polling.wait pipeline s' j)
    (hwait : isCancelledAt serve polling.wait pipeline s' i = false)
    (hne : answerAt serve polling.wait pipeline s' i ≠ .ok .running) :
    polls ((verify service polling).transcript serve s) =
        List.replicate i (.ok .running) ++ [answerAt serve polling.wait pipeline s' i] ∧
      Tells service pipeline (answerAt serve polling.wait pipeline s' i)
        ((verify service polling).exec serve s).1 := by
  obtain ⟨hexec, htranscript⟩ := verify_of_starts service polling h
  obtain ⟨hended, hsteps⟩ := waitFor_of_answer hlt hruns hwait hne
  refine ⟨?_, ?_⟩
  · rw [htranscript, hsteps, polls_openingSteps_append, polls_append_answer]
  · rw [hexec, hended]
    exact tells_map_verdict service pipeline hne

theorem verify_of_runsOn (hruns : ∀ j < polling.maxPolls, RunsOn serve polling.wait pipeline s' j) :
    polls ((verify service polling).transcript serve s) =
        List.replicate polling.maxPolls (.ok .running) ∧
      ((verify service polling).exec serve s).1 = .error (.timeout pipeline polling.maxPolls) := by
  obtain ⟨hexec, htranscript⟩ := verify_of_starts service polling h
  obtain ⟨hended, hsteps⟩ := waitFor_of_runsOn hruns
  refine ⟨?_, ?_⟩
  · rw [htranscript, hsteps, polls_openingSteps_append, polls_runningSteps]
  · rw [hexec, hended]
    rfl

theorem verify_of_cancelled {i : Nat} (hlt : i < polling.maxPolls)
    (hruns : ∀ j < i, RunsOn serve polling.wait pipeline s' j)
    (hcancelled : isCancelledAt serve polling.wait pipeline s' i = true) :
    polls ((verify service polling).transcript serve s) = List.replicate i (.ok .running) ∧
      ((verify service polling).exec serve s).1 = .error .cancelled := by
  obtain ⟨hexec, htranscript⟩ := verify_of_starts service polling h
  obtain ⟨hended, hsteps⟩ := waitFor_of_cancelled hlt hruns hcancelled
  refine ⟨?_, ?_⟩
  · rw [htranscript, hsteps, polls_openingSteps_append, polls_append_cancelled]
  · rw [hexec, hended]
    rfl

end Started

/-- A verification with a pipeline to wait for is in order, as the steps that wait for it are. -/
theorem isBounded_of_starts (service : String) (polling : Polling)
    (h : Starts serve s branch pipeline s') :
    IsBounded serve s service polling ((verify service polling).transcript serve s)
      ((verify service polling).exec serve s).1 := by
  obtain ⟨hexec, htranscript⟩ := verify_of_starts service polling h
  have hwaits := waitFor_waits serve polling pipeline s'
  exact
    { in_order := by
        refine ⟨branch, pipeline, ?_, fun name hname => Except.ok.inj (hname.symm.trans h.1),
          fun name s'' h' => (h.unique h').2.1⟩
        rw [htranscript, List.map_append]
        exact (List.prefix_append_right_inj [Call.currentBranch, .push, .trigger branch]).2
          hwaits.isPrefix
      stopsAtFailure := by
        rw [htranscript, hexec]
        exact hwaits.stopsAtFailure fun step hstep => by
          revert step
          simp [openingSteps, failure?]
      starts_or_fails := .inl ⟨branch, pipeline, s', h⟩
      answered := by
        rintro branch' pipeline' s'' h' i hlt hruns hwait hne
        exact verify_of_answer service h' hlt hruns hwait hne
      timedOut := fun branch' pipeline' s'' h' hruns => verify_of_runsOn service h' hruns
      cancelled := fun branch' pipeline' s'' h' i hlt hruns hcancelled =>
        verify_of_cancelled service h' hlt hruns hcancelled
      passed_iff := by
        rw [htranscript, hexec, polls_openingSteps_append]
        exact hwaits.passed_iff service }

/-- A verification that fails in front of the first poll ends with that. -/
theorem isBounded_of_failure {service : String} {cause : VerifyError} (branch : String)
    (front : List Step) (last : Step)
    (hsteps : (verify service polling).transcript serve s = front ++ [last])
    (hended : ((verify service polling).exec serve s).1 = .error cause)
    (horder : (front ++ [last]).map (·.request) <+: [.currentBranch, .push, .trigger branch])
    (hbranch : ∀ name, (serve Call.currentBranch s).1 = .ok name → name = branch)
    (hfront : ∀ step ∈ front, failure? step = none) (hlast : failure? last = some cause)
    (hpolls : polls (front ++ [last]) = [])
    (hnot : ∀ branch pipeline s', ¬ Starts serve s branch pipeline s') :
    IsBounded serve s service polling ((verify service polling).transcript serve s)
      ((verify service polling).exec serve s).1 := by
  rw [hsteps, hended]
  exact
    { in_order := ⟨branch, "", horder.trans (List.prefix_append _ _), hbranch,
        fun name s' h => absurd h (hnot _ _ _)⟩
      stopsAtFailure := .concat hfront fun cause' hcause => by
        rw [Option.some.inj (hlast.symm.trans hcause)]
      starts_or_fails := .inr ⟨hpolls, last, cause, by simp, hlast⟩
      answered := fun _ _ _ h => absurd h (hnot _ _ _)
      timedOut := fun _ _ _ h => absurd h (hnot _ _ _)
      cancelled := fun _ _ _ h => absurd h (hnot _ _ _)
      passed_iff := by
        rw [hpolls]
        exact iff_of_false nofun fun ⟨i, _, heq⟩ => by simp at heq }

end Verifying

/-- A verification is sound and bounded, whatever the repository and the service answer. It calls in
order and stops at the first step that fails. Once there is a pipeline it is polled up to the first
answer that is not that it is running, for as long as there are polls left and the user does not ask
to stop, and only a success in that place passes. -/
theorem verify_polls_within_budget (service : String) (polling : Polling) {σ : Type}
    (serve : Collaborator interface σ) (s : σ) :
    IsBounded serve s service polling ((verify service polling).transcript serve s)
      ((verify service polling).exec serve s).1 := by
  cases hbranch : (serve Call.currentBranch s).1 with
  | error cause =>
    refine isBounded_of_failure "" [] ⟨.currentBranch, .error cause⟩
      (by simp [verify, transcript, hbranch]) (by simp [verify, exec, hbranch]) ⟨_, rfl⟩ ?_
      (by simp) rfl rfl ?_
    · intro name hname
      cases hbranch.symm.trans hname
    · rintro branch pipeline s' ⟨h, -, -⟩
      cases hbranch.symm.trans h
  | ok branch =>
    have hname : ∀ name, (serve Call.currentBranch s).1 = .ok name → name = branch :=
      fun name hname => Except.ok.inj (hname.symm.trans hbranch)
    cases hpushed : (serve Call.push (serve Call.currentBranch s).2).1 with
    | error cause =>
      refine isBounded_of_failure branch [⟨.currentBranch, .ok branch⟩] ⟨.push, .error cause⟩
        (by simp [verify, transcript, hbranch, hpushed]) (by simp [verify, exec, hbranch, hpushed])
        ⟨_, rfl⟩ hname (by simp [failure?]) rfl rfl ?_
      rintro branch' pipeline s' ⟨-, h, -⟩
      cases hpushed.symm.trans h
    | ok =>
      cases htriggered : (serve (Call.trigger branch)
          (serve Call.push (serve Call.currentBranch s).2).2).1 with
      | error cause =>
        refine isBounded_of_failure branch [⟨.currentBranch, .ok branch⟩, ⟨.push, .ok ()⟩]
          ⟨.trigger branch, .error cause⟩
          (by simp [verify, transcript, hbranch, hpushed, htriggered])
          (by simp [verify, exec, hbranch, hpushed, htriggered]) ⟨_, rfl⟩ hname
          (by simp [failure?]) rfl rfl ?_
        rintro branch' pipeline s' ⟨h, -, h'⟩
        obtain rfl := hname branch' h
        cases htriggered.symm.trans (congrArg Prod.fst h')
      | ok pipeline =>
        exact isBounded_of_starts service polling
          ⟨hbranch, hpushed, Prod.ext htriggered rfl⟩

end Patchwise.Pipeline

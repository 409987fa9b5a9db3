import Mathlib.Data.List.Chain
import Patchwise.Proofs.Upgrade.Course

/-!
# Where runs stop

A run is to stop when the user says so, when a verification is cut short by the user, and when a
commit fails. Whichever it is, the run calls on no collaborator afterwards, says in its summary that
it was halted, and leaves nothing of it to a run that follows. The user is asked in front of every
section and of every attempt.

## Main definitions

- `Upgrade.Turn` — what a run does at a time: a question, a report or an attempt
- `Upgrade.Turn.Halts` — the turns that stop a run
- `Upgrade.Turn.Follows` — which turn may directly follow which
- `Upgrade.Leads` — how each turn leaves the course of the run
- `Upgrade.resume`, `Upgrade.runs` — runs one after the other
- `Upgrade.Stops` — what holds of where a run stops

## Main results

- `Upgrade.runs_stop_where_halted` — where each of some runs stops, whatever the collaborators do

## Design notes

`Series` nests the attempts of a run in its sections. A turn forgets the nesting, so that all calls
of a run stand in one row and what is behind a turn is everything that the run does afterwards.
-/

namespace Patchwise.Upgrade

open Session

/-! ## Turns -/

/-- What a run does at a time. -/
inductive Turn
  /-- The user is asked whether to stop. -/
  | asked (cancelled : Bool)
  /-- The report of a section is asked for. -/
  | reported (dependencyType : String) (answer : Except Failure Report)
  /-- A package is attempted, or its attempt planned. -/
  | attempted (a : Attempt) (events : List Step)

namespace Turn

def events : Turn → List Step
  | asked cancelled => [⟨.isCancelled, cancelled⟩]
  | reported dependencyType answer => [⟨.outdated dependencyType, answer⟩]
  | attempted _ events => events

def attempt? : Turn → Option Attempt
  | attempted a _ => some a
  | _ => none

/-- The section whose report is asked for. -/
def section? : Turn → Option String
  | reported dependencyType _ => some dependencyType
  | _ => none

def isQuestion : Turn → Bool
  | asked _ => true
  | _ => false

/-- Whether a turn may directly follow another one. All but the question to the user needs the user
to have just said that the run may go on. -/
def Follows (former turn : Turn) : Prop :=
  turn.isQuestion = false → former = asked false

/-- A turn stops the run if the user says so, if the user cuts the verification of an attempt short,
or if the commit of an attempt fails. -/
def Halts : Turn → Prop
  | asked cancelled => cancelled = true
  | reported _ _ => False
  | attempted a events =>
    a.state = .commitFailed ∨ ∃ b, ⟨.verify b, .error .cancelled⟩ ∈ events

theorem halts_of_commitFailed {turn : Turn} {a : Attempt} (h : turn.attempt? = some a)
    (hfailed : a.state = .commitFailed) : turn.Halts := by
  cases turn with
  | asked | reported => cases h
  | attempted b events =>
    obtain rfl := Option.some.inj h
    exact .inl hfailed

end Turn

/-- How a turn leads from one course of the run to another. No turn starts from a course that is
halted. -/
inductive Leads (o : Options) : Course → Turn → Course → Prop
  | cancelled (m : Manifest) :
      Leads o ⟨m, none⟩ (.asked true) ⟨m, some "cancelled by user"⟩
  | goesOn (m : Manifest) : Leads o ⟨m, none⟩ (.asked false) ⟨m, none⟩
  | reported (m : Manifest) (dependencyType : String) (answer : Except Failure Report) :
      Leads o ⟨m, none⟩ (.reported dependencyType answer) ⟨m, none⟩
  | attempted {m : Manifest} {dependencyType : String} {r : Record} {a : Attempt}
      {course : Course} {events : List Step}
      (hattempt : Attempted o dependencyType r m (a, course) events) :
      Leads o ⟨m, none⟩ (.attempted a events) course

/-! ## Attempts that stop a run -/

theorem isSome_haltAfter {answer : Except VerifyError Verdict} :
    (haltAfter answer).isSome ↔ answer = .error .cancelled := by
  obtain cause | verdict := answer
  · by_cases hcause : cause = .cancelled <;> simp [haltAfter, hcause]
  · simp [haltAfter]

namespace Conduct

variable {a : Attempt} {m : Manifest} {events : List Step} {state : Attempt.State}
  {note : Option String} {course : Course}

theorem isTerminal (h : Conduct a m events state note course) : state.isTerminal = true := by
  cases h <;> rfl

/-- An attempt leaves the run halted if its commit failed or its verification was cut short. -/
theorem isSome_halted (h : Conduct a m events state note course) :
    course.halted.isSome ↔
      state = .commitFailed ∨ ∃ b, ⟨.verify b, .error .cancelled⟩ ∈ events := by
  cases h with
  | notApplied => simp
  | kept hkeep => simp [hkeep.not_verify_mem]
  | notKept => simp
  | undone hback hundo | notUndone hback hundo =>
    rw [isSome_haltAfter]
    constructor
    · rintro rfl
      exact .inr ⟨a.underTest, by simp⟩
    · rintro (hstate | ⟨b, hmem⟩)
      · cases hstate
      · exact (eq_of_verify_mem (hundo.not_verify_mem b _) hmem).symm

end Conduct

namespace Attempted

variable {o : Options} {dependencyType : String} {r : Record} {m : Manifest} {a : Attempt}
  {course : Course} {events : List Step}

theorem isTerminal (h : Attempted o dependencyType r m (a, course) events) :
    a.state.isTerminal = true := by
  obtain ⟨time, -⟩ | ⟨-, state, note, time, hlast, hconduct⟩ := h
  · rfl
  · dsimp only at hlast
    rw [hlast]
    exact hconduct.isTerminal

theorem isSome_halted (h : Attempted o dependencyType r m (a, course) events) :
    course.halted.isSome ↔ (Turn.attempted a events).Halts := by
  obtain ⟨time, -⟩ | ⟨-, state, note, time, hlast, hconduct⟩ := h
  · simp [Turn.Halts, Attempt.ended]
  · dsimp only at hlast
    rw [hlast]
    exact hconduct.isSome_halted

end Attempted

namespace Leads

variable {o : Options} {w w' : Course} {turn : Turn}

theorem halted_eq_none (h : Leads o w turn w') : w.halted = none := by
  cases h <;> rfl

theorem isSome_halted (h : Leads o w turn w') : w'.halted.isSome ↔ turn.Halts := by
  cases h with
  | cancelled | goesOn | reported => simp [Turn.Halts]
  | attempted hattempt => exact hattempt.isSome_halted

theorem isTerminal (h : Leads o w turn w') {a : Attempt} (ha : turn.attempt? = some a) :
    a.state.isTerminal = true := by
  cases h with
  | cancelled | goesOn | reported => cases ha
  | attempted hattempt =>
    obtain rfl := Option.some.inj ha
    exact hattempt.isTerminal

end Leads

/-! ## Turns in a row -/

section Turns

variable {o : Options} {w w' : Course} {turns : List Turn}

theorem eq_nil_of_halted {reason : String} (h : Trail (Leads o) w turns w')
    (hw : w.halted = some reason) : turns = [] := by
  cases h with
  | nil => rfl
  | cons hturn hrest => exact absurd (hturn.halted_eq_none.symm.trans hw) (by simp)

/-- A turn that stops the run is the last one. -/
theorem eq_nil_of_halts (h : Trail (Leads o) w turns w') {before after : List Turn} {turn : Turn}
    (hturns : turns = before ++ turn :: after) (hhalts : turn.Halts) : after = [] := by
  subst hturns
  obtain ⟨w₁, hbefore, hrest⟩ := h.of_append
  obtain ⟨w₂, hturn, hafter⟩ := Trail.cons_iff.1 hrest
  obtain ⟨reason, hreason⟩ := Option.isSome_iff_exists.1 (hturn.isSome_halted.2 hhalts)
  exact eq_nil_of_halted hafter hreason

theorem isSome_halted_iff (h : Trail (Leads o) w turns w') (hw : w.halted = none) :
    w'.halted.isSome ↔ ∃ turn ∈ turns, turn.Halts := by
  induction h with
  | nil => simp [hw]
  | @cons w w₁ w' turn turns hturn hrest ih =>
    -- what is behind a turn counts only if the turn does not stop the run
    cases hmid : w₁.halted with
    | none =>
      have hgoesOn : ¬ turn.Halts := by rw [← hturn.isSome_halted, hmid]; simp
      rw [ih hmid]
      simp [hgoesOn]
    | some reason =>
      have hhalts : turn.Halts := by rw [← hturn.isSome_halted, hmid]; rfl
      obtain rfl := eq_nil_of_halted hrest hmid
      obtain rfl := Trail.nil_iff.1 hrest
      simp [hmid, hhalts]

theorem isTerminal_of_turn (h : Trail (Leads o) w turns w') {turn : Turn} (hmem : turn ∈ turns)
    {a : Attempt} (ha : turn.attempt? = some a) : a.state.isTerminal = true := by
  induction h with
  | nil => cases hmem
  | cons hturn hrest ih =>
    cases hmem with
    | head => exact hturn.isTerminal ha
    | tail _ hmem => exact ih hmem

end Turns

/-- Turns tell what a part of a run did: its sections and attempts, its calls with their answers, and
how it left the course. -/
structure Tells (o : Options) (course : Course) (turns : List Turn) (sections : List String)
    (attempts : List Attempt) (events : List Step) (course' : Course) : Prop where
  trail : Trail (Leads o) course turns course'
  sections_eq : turns.filterMap Turn.section? = sections
  attempts_eq : turns.filterMap Turn.attempt? = attempts
  events_eq : turns.flatMap Turn.events = events

namespace Tells

variable {o : Options} {course course' course'' : Course} {turns more : List Turn}
  {sections sections' : List String} {attempts attempts' : List Attempt}
  {events events' : List Step}

theorem nil (o : Options) (course : Course) : Tells o course [] [] [] [] course :=
  ⟨.nil course, rfl, rfl, rfl⟩

theorem singleton {turn : Turn} (h : Leads o course turn course') :
    Tells o course [turn] turn.section?.toList turn.attempt?.toList turn.events course' := by
  refine ⟨.cons h (.nil course'), ?_, ?_, List.append_nil _⟩
  · cases hsection : turn.section? <;> simp [hsection]
  · cases hattempt : turn.attempt? <;> simp [hattempt]

theorem append (h : Tells o course turns sections attempts events course')
    (h' : Tells o course' more sections' attempts' events' course'') :
    Tells o course (turns ++ more) (sections ++ sections') (attempts ++ attempts')
      (events ++ events') course'' where
  trail := h.trail.append h'.trail
  sections_eq := by rw [List.filterMap_append, h.sections_eq, h'.sections_eq]
  attempts_eq := by rw [List.filterMap_append, h.attempts_eq, h'.attempts_eq]
  events_eq := by rw [List.flatMap_append, h.events_eq, h'.events_eq]

end Tells

/-- Turns that begin with a question may stand behind any others. -/
theorem isChain_append {turns more : List Turn} {former : Turn}
    (h : (former :: turns).IsChain Turn.Follows)
    (hmore : ∀ former', (former' :: more).IsChain Turn.Follows) :
    (former :: (turns ++ more)).IsChain Turn.Follows := by
  rw [← List.cons_append, List.isChain_append]
  refine ⟨h, (hmore former).of_cons, fun former' _ turn hturn => ?_⟩
  exact (List.isChain_cons.1 (hmore former')).1 turn hturn

/-- The turns of a series are those of its parts and the questions in front of them. -/
theorem Series.exists_turns {o : Options} {α β : Type}
    {part : α → Manifest → β × Course → List Step → Prop} (sectionsOf : β → List String)
    (attemptsOf : β → List Attempt)
    (hpart : ∀ {a m b course events}, part a m (b, course) events →
      ∃ turns, Tells o ⟨m, none⟩ turns (sectionsOf b) (attemptsOf b) events course ∧
        (.asked false :: turns).IsChain Turn.Follows)
    {inputs : List α} {course : Course} {last : List β × Course} {events : List Step}
    (h : Series part inputs course last events) :
    ∃ turns, Tells o course turns (last.1.flatMap sectionsOf) (last.1.flatMap attemptsOf) events
        last.2 ∧
      ∀ former, (former :: turns).IsChain Turn.Follows := by
  induction h with
  | finished course => exact ⟨[], .nil o course, .singleton⟩
  | halted m reason => exact ⟨[], .nil o _, .singleton⟩
  | cancelled m => exact ⟨_, .singleton (.cancelled m), fun _ => .cons_cons nofun (.singleton _)⟩
  | @next a rest m b bs course last events more hfirst hrest ih =>
    obtain ⟨turns, hturns, hasked⟩ := hpart hfirst
    obtain ⟨later, hlater, hchain⟩ := ih
    exact ⟨.asked false :: (turns ++ later),
      (Tells.singleton (.goesOn m)).append (hturns.append hlater),
      fun former => .cons_cons nofun (isChain_append hasked hchain)⟩

theorem Processed.exists_turns {o : Options} {dependencyType : String} {m : Manifest}
    {result : SectionResult} {course : Course} {events : List Step}
    (h : Processed o dependencyType m (result, course) events) :
    ∃ turns, Tells o ⟨m, none⟩ turns [result.dependencyType] result.attempts events course ∧
      (.asked false :: turns).IsChain Turn.Follows := by
  cases h with
  | notReported | notRead =>
    exact ⟨_, .singleton (.reported m dependencyType _), .cons_cons (fun _ => rfl) (.singleton _)⟩
  | processed hselect hseries =>
    obtain ⟨turns, hturns, hchain⟩ := hseries.exists_turns (o := o) (fun _ => []) (fun a => [a])
      fun hattempt => ⟨_, .singleton (.attempted hattempt),
        .cons_cons (fun _ => rfl) (.singleton _)⟩
    rw [List.flatMap_singleton', List.flatMap_eq_nil_iff.2 fun _ _ => rfl] at hturns
    exact ⟨_, (Tells.singleton (.reported m dependencyType _)).append hturns,
      .cons_cons (fun _ => rfl) (hchain _)⟩

/-- Where turns follow one another, the question answered with no is in front of each turn that is
no question. -/
theorem exists_eq_append_asked {turns before after : List Turn} {turn : Turn}
    (h : (.asked true :: turns).IsChain Turn.Follows) (hturns : turns = before ++ turn :: after)
    (hquestion : turn.isQuestion = false) : ∃ earlier, before = earlier ++ [.asked false] := by
  subst hturns
  obtain rfl | ⟨earlier, former, rfl⟩ := List.eq_nil_or_concat' before
  · cases (List.isChain_cons_cons.1 h).1 hquestion
  · rw [List.append_assoc, List.singleton_append] at h
    obtain ⟨-, hfollows, -⟩ := List.isChain_append_cons_cons.1 h.of_cons
    exact ⟨earlier, by rw [hfollows hquestion]⟩

/-! ## Runs -/

/-- What holds of where a run stops. The turns are all that the run does, in order. -/
structure Stops (o : Options) (m : Manifest) (turns : List Turn) (summary : Summary)
    (events : List Step) (m' : Manifest) : Prop where
  tells : Tells o ⟨m, none⟩ turns (summary.sections.map (·.dependencyType)) summary.attempts events
    ⟨m', summary.halted⟩
  /-- Each report and each attempt directly follows the question whether to stop, answered with
  no. -/
  asked : ∀ {before after : List Turn} {turn : Turn}, turns = before ++ turn :: after →
    turn.isQuestion = false → ∃ earlier, before = earlier ++ [.asked false]
  /-- Nothing is done after a turn that stops the run. -/
  eq_nil_of_halts : ∀ {before after : List Turn} {turn : Turn},
    turns = before ++ turn :: after → turn.Halts → after = []
  /-- The summary says that the run was halted exactly if a turn stopped it. -/
  isSome_halted_iff : summary.halted.isSome ↔ ∃ turn ∈ turns, turn.Halts
  isTerminal : ∀ a ∈ summary.attempts, a.state.isTerminal = true
  /-- A commit that fails is that of the last attempt. -/
  eq_nil_of_commitFailed : ∀ {before after : List Attempt} {a : Attempt},
    summary.attempts = before ++ a :: after → a.state = .commitFailed → after = []
  sections_prefix : summary.sections.map (·.dependencyType) <+: o.dependencyTypes
  sections_eq : summary.halted = none →
    summary.sections.map (·.dependencyType) = o.dependencyTypes

theorem Processed.dependencyType_eq {o : Options} {dependencyType : String} {m : Manifest}
    {result : SectionResult} {course : Course} {events : List Step}
    (h : Processed o dependencyType m (result, course) events) :
    result.dependencyType = dependencyType := by
  cases h <;> rfl

/-- The sections of a run are the first of those it is to go through, and all of them if it goes on
to its end. -/
theorem Series.exists_append_dependencyTypes {o : Options} {dependencyTypes : List String}
    {course : Course} {last : List SectionResult × Course} {events : List Step}
    (h : Series (Processed o) dependencyTypes course last events) :
    ∃ left, dependencyTypes = last.1.map (·.dependencyType) ++ left ∧
      (last.2.halted = none → left = []) := by
  obtain ⟨done, left, hsplit, hleft, hall⟩ := h.exists_done
  have hdone : List.Forall₂ (fun dependencyType result => dependencyType =
      SectionResult.dependencyType result) done last.1 := by
    refine hall.imp ?_
    rintro dependencyType result ⟨m, course, events, hprocessed⟩
    exact hprocessed.dependencyType_eq.symm
  rw [← List.forall₂_map_right_iff, List.forall₂_eq_eq_eq] at hdone
  exact ⟨left, by rw [hsplit, hdone], hleft⟩

theorem exists_stops {o : Options} {m m' : Manifest} {summary : Summary} {events : List Step}
    (h : Series (Processed o) o.dependencyTypes ⟨m, none⟩
      (summary.sections, ⟨m', summary.halted⟩) events) :
    ∃ turns, Stops o m turns summary events m' := by
  obtain ⟨turns, htells, hchain⟩ := h.exists_turns (fun result => [result.dependencyType])
    (·.attempts) Processed.exists_turns
  rw [← List.map_eq_flatMap] at htells
  obtain ⟨left, hsections, hleft⟩ := h.exists_append_dependencyTypes
  refine ⟨turns,
    { tells := htells
      asked := exists_eq_append_asked (hchain (.asked true))
      eq_nil_of_halts := Upgrade.eq_nil_of_halts htells.trail
      isSome_halted_iff := Upgrade.isSome_halted_iff htells.trail rfl
      isTerminal := fun a ha => ?_
      eq_nil_of_commitFailed := fun hattempts hfailed => ?_
      sections_prefix := ⟨left, hsections.symm⟩
      sections_eq := fun hgoesOn => by rw [hsections, hleft hgoesOn, List.append_nil] }⟩
  · have hmem : a ∈ turns.filterMap Turn.attempt? := by rwa [htells.attempts_eq]
    obtain ⟨turn, hturn, hattempt⟩ := List.mem_filterMap.1 hmem
    exact isTerminal_of_turn htells.trail hturn hattempt
  · have hsplit := htells.attempts_eq.trans hattempts
    obtain ⟨first, rest, hturns, -, hrest⟩ := List.filterMap_eq_append_iff.1 hsplit
    obtain ⟨skipped, turn, last, hcut, -, hattempt, hlast⟩ := List.filterMap_eq_cons_iff.1 hrest
    have hhalts := Turn.halts_of_commitFailed hattempt hfailed
    rw [hcut, ← List.append_assoc] at hturns
    rw [← hlast, Upgrade.eq_nil_of_halts htells.trail hturns hhalts]
    rfl

/-- A run on the course that an earlier run left. Why it is to stop is told in its summary, and is
forgotten with that. -/
def resume (o : Options) : Part Summary := fun course =>
  now.bind fun started =>
    (processSections o o.dependencyTypes course).bind fun (sections, course) =>
      now.bind fun finished =>
        .done ({ strategy := o.strategy, dryRun := o.dryRun, startedAt := started,
                 finishedAt := some finished, sections, halted := course.halted },
          { course with halted := none })

/-- A run that resumes on a course that is not halted is a run of its own. -/
theorem resume_eq_run (o : Options) (m : Manifest) :
    resume o ⟨m, none⟩ = (run o m).bind fun (summary, m') => .done (summary, ⟨m', none⟩) := by
  simp only [resume, run, bind_assoc, done_bind]

def runs (o : Options) : Nat → Part (List Summary)
  | 0, course => .done ([], course)
  | n + 1, course =>
    (resume o course).bind fun (summary, course) =>
      (runs o n course).bind fun (more, course) => .done (summary :: more, course)

/-- A run of which the turns are known begins on a course that is not halted, stops as runs do, and
leaves a course that is not halted. -/
def Stopped (o : Options) (course : Course) (ran : Summary × List Turn) (course' : Course) : Prop :=
  course.halted = none ∧ course'.halted = none ∧
    Stops o course.manifest ran.2 ran.1 (ran.2.flatMap Turn.events) course'.manifest

theorem resume_ensures (o : Options) (m : Manifest) :
    Ensures (resume o ⟨m, none⟩) fun last events =>
      ∃ turns, turns.flatMap Turn.events = events ∧ Stopped o ⟨m, none⟩ (last.1, turns) last.2 := by
  rw [resume_eq_run]
  refine (run_ensures o m).bind fun (summary, m') events hseries => .done ?_
  obtain ⟨turns, hstops⟩ := exists_stops hseries
  have hevents := hstops.tells.events_eq
  refine ⟨turns, by rw [hevents, List.append_nil], rfl, rfl, ?_⟩
  rwa [hevents]

theorem runs_ensures (o : Options) (n : Nat) (m : Manifest) :
    Ensures (runs o n ⟨m, none⟩) fun last events =>
      ∃ ran : List (Summary × List Turn), ran.length = n ∧ ran.map Prod.fst = last.1 ∧
        (ran.flatMap fun r => r.2.flatMap Turn.events) = events ∧
        Trail (Stopped o) ⟨m, none⟩ ran last.2 := by
  induction n generalizing m with
  | zero => exact .done ⟨[], rfl, rfl, rfl, .nil _⟩
  | succ n ih =>
    refine (resume_ensures o m).bind fun (summary, course) events hrun => ?_
    obtain ⟨turns, rfl, hstopped⟩ := hrun
    -- the rest of the runs starts from a course that is not halted, as the first one did
    obtain ⟨m', rfl⟩ : ∃ m', course = ⟨m', none⟩ := by
      obtain ⟨m', halted⟩ := course
      obtain rfl : halted = none := hstopped.2.1
      exact ⟨m', rfl⟩
    refine (ih m').bind fun (more, course) later hruns => .done ?_
    obtain ⟨ran, hlength, hsummaries, rfl, htrail⟩ := hruns
    refine ⟨(summary, turns) :: ran, by rw [List.length_cons, hlength], ?_, ?_,
      .cons hstopped htrail⟩
    · rw [List.map_cons, hsummaries]
    · rw [List.flatMap_cons, List.append_nil]

/-- Where each of some runs stops, whatever the collaborators do. All that the runs do are turns,
and a turn that stops its run is the last of the run. Whichever way a run stops, the next one starts
as one that is not halted. -/
theorem runs_stop_where_halted (o : Options) (n : Nat) (m : Manifest) {σ : Type}
    (serve : Collaborator interface σ) (s : σ) :
    ∃ ran : List (Summary × List Turn), ran.length = n ∧
      ran.map Prod.fst = ((runs o n ⟨m, none⟩).exec serve s).1.1 ∧
      (ran.flatMap fun r => r.2.flatMap Turn.events) =
        (runs o n ⟨m, none⟩).journal Call.isNotable serve s ∧
      Trail (Stopped o) ⟨m, none⟩ ran ((runs o n ⟨m, none⟩).exec serve s).1.2 :=
  runs_ensures o n m serve s

end Patchwise.Upgrade

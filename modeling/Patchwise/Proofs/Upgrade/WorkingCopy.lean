import Mathlib.Logic.Function.Basic
import Patchwise.Proofs.Manifest.Parsing
import Patchwise.Proofs.Upgrade.Course

/-!
# The working copy under a run

A run works on three copies of the manifest: the one in memory, the one on disk, and the one at the
head of the branch. The tools may leave anything on disk. What reaches the head is nevertheless the
manifest that the run started with, with the edits of the upgrades that were kept.

## Main definitions

- `Upgrade.WorkingCopy` — the files on disk, those that are staged, and those at the head
- `Upgrade.Crew` — collaborators that share a working copy and are free in everything else
- `Upgrade.WorkingCopy.Moves` — what a call does to a working copy

## Main results

- `Upgrade.head_holds_kept_edits` — what the head holds after a run

## Design notes

The invariant is that between two attempts the head holds the manifest in memory
(`WorkingCopy.Holds`). A reverted attempt restores it by reading the head's file again, an attempt
that could not install the former version has not touched the manifest, and one that could not be
kept is the last one. Nothing is said of the disk between attempts, because keeping an upgrade
writes the whole file before it is staged.
-/

namespace Patchwise.Upgrade

open Session

/-- The files of a project, by path. -/
structure WorkingCopy where
  disk : String → File.Content
  staged : String → File.Content
  /-- The files of the last commit. -/
  head : String → File.Content

namespace WorkingCopy

/-- How a call is answered, where the collaborators would answer as given. Discarding the changes to
a file never fails, and a file is found as it is on disk. -/
def answer (w : WorkingCopy) : (request : Call) → request.Answer → request.Answer
  | .checkout _, _ => .ok ()
  | .contentOf path, _ => w.disk path
  | _, given => given

/-- The working copy after a call, where a tool leaves the disk as given. The tools are the package
manager and the verification, and a write that fails may leave anything behind as well. -/
def after (w : WorkingCopy) (left : String → File.Content) :
    (request : Call) → request.Answer → WorkingCopy
  | .upgrade _ _, _ | .add _ _ _, _ | .verify _, _ | .store _ _, .error _ => { w with disk := left }
  | .store path text, .ok () => { w with disk := Function.update w.disk path (.holding text) }
  | .addAll, .ok () => { w with staged := w.disk }
  | .commit _, .ok () => { w with head := w.staged }
  | .checkout path, .ok () => { w with disk := Function.update w.disk path (w.head path) }
  | _, _ => w

/-- A call, with the answer it was given, takes one working copy to another. -/
def Moves (w : WorkingCopy) (event : Step) (w' : WorkingCopy) : Prop :=
  (∃ given, event.answer = w.answer event.request given) ∧
    ∃ left, w' = w.after left event.request event.answer

/-- The head has the text of a manifest at the manifest's path. -/
def Holds (w : WorkingCopy) (m : Manifest) : Prop :=
  w.head m.path = .holding m.content

end WorkingCopy

/-- Collaborators that share a working copy: how they would answer a call, how a tool leaves the
disk, and what they remember. -/
abbrev Crew (σ : Type) : Type :=
  (request : Call) → WorkingCopy × σ → request.Answer × (String → File.Content) × σ

def Crew.serve {σ : Type} (crew : Crew σ) : Collaborator interface (WorkingCopy × σ) :=
  fun request (w, s) =>
    let (given, left, s) := crew request (w, s)
    (w.answer request given, w.after left request (w.answer request given), s)

/-- The journal of a session takes the working copy from where it was to where it is left. -/
theorem Crew.trail {σ α : Type} (crew : Crew σ) (session : Session interface α)
    (w : WorkingCopy) (s : σ) :
    Trail WorkingCopy.Moves w (session.journal Call.isOfAttempt crew.serve (w, s))
      (session.exec crew.serve (w, s)).2.1 := by
  refine trail_journal Prod.fst ?_ ?_ session (w, s)
  · intro request (w, s) _
    exact ⟨⟨_, rfl⟩, _, rfl⟩
  · intro request (w, s) hkeep
    cases request <;> first | rfl | cases hkeep

/-! ## What calls do -/

namespace WorkingCopy

variable {w w' : WorkingCopy} {m m' : Manifest} {a : Attempt} {events : List Step}

/-- Only a commit that comes about changes the head. -/
theorem Moves.head_eq {event : Step} (h : w.Moves event w')
    (hcommit : ∀ message, event ≠ ⟨.commit message, .ok ()⟩) : w'.head = w.head := by
  obtain ⟨-, left, rfl⟩ := h
  obtain ⟨request, answer⟩ := event
  cases request with
  | commit message =>
    cases answer with
    | error => rfl
    | ok => exact absurd rfl (hcommit message)
  | addAll | store => cases answer <;> rfl
  | checkout => cases answer <;> rfl
  | _ => rfl

/-- Without a commit that comes about the head stays as it is. -/
theorem head_eq_of_trail (h : Trail Moves w events w')
    (hcommit : ∀ message, ⟨.commit message, .ok ()⟩ ∉ events) : w'.head = w.head := by
  induction h with
  | nil => rfl
  | cons hstep hrest ih =>
    rw [ih fun message hmem => hcommit message (List.mem_cons_of_mem _ hmem)]
    exact hstep.head_eq fun message heq => hcommit message (heq ▸ List.mem_cons_self)

end WorkingCopy

/-- The messages of the commits that came about, in order. -/
def commitMessages (events : List Step) : List String :=
  events.filterMap fun
    | ⟨.commit message, .ok ()⟩ => some message
    | _ => none

@[simp]
theorem commitMessages_append (events more : List Step) :
    commitMessages (events ++ more) = commitMessages events ++ commitMessages more :=
  List.filterMap_append

/-- The manifest that declares the targets of attempts, one edit after the other. -/
def declareTargets (m : Manifest) (attempts : List Attempt) : Except InputError Manifest :=
  attempts.foldlM (fun m a => m.setVersion a.dependencyType a.package a.target) m

theorem declareTargets_cons {m m' : Manifest} {a : Attempt}
    (h : m.setVersion a.dependencyType a.package a.target = .ok m') (attempts : List Attempt) :
    declareTargets m (a :: attempts) = declareTargets m' attempts := by
  rw [declareTargets, List.foldlM_cons, h]
  rfl

section Attempts

variable {w w' : WorkingCopy} {m : Manifest} {a : Attempt} {events : List Step}

/-- Publishing an upgrade either brings no commit about, or it commits what is on disk. Then it
succeeds unless its push fails. -/
theorem Publishing.lands {outcome : Except Failure Unit} (h : Publishing a outcome events)
    (ht : Trail WorkingCopy.Moves w events w') :
    (∃ cause, outcome = .error cause) ∧ commitMessages events = [] ∧ w'.head = w.head ∨
      commitMessages events = [a.commitMessage] ∧ w'.head = w.disk ∧
        (outcome = .ok () ∨
          ∃ cause, outcome = .error (.tool cause) ∧ ⟨.push, .error cause⟩ ∈ events) := by
  cases h with
  | notStaged cause | notCommitted cause =>
    exact .inl ⟨⟨_, rfl⟩, rfl, WorkingCopy.head_eq_of_trail ht (by simp)⟩
  | notPushed cause | published =>
    simp only [Trail.cons_iff, Trail.nil_iff] at ht
    obtain ⟨_, ⟨-, _, rfl⟩, _, ⟨-, _, rfl⟩, _, ⟨-, _, rfl⟩, rfl⟩ := ht
    exact .inr ⟨rfl, rfl, by simp⟩

/-- Keeping an upgrade either brings no commit about, or the head holds the manifest that declares
the target. Then it succeeds unless its push fails. -/
theorem Keeping.lands {outcome : Except Failure Unit} {m' : Manifest}
    (h : Keeping a m (outcome, m') events) (ht : Trail WorkingCopy.Moves w events w') :
    (∃ cause, outcome = .error cause) ∧ commitMessages events = [] ∧ w'.head = w.head ∨
      commitMessages events = [a.commitMessage] ∧
        m.setVersion a.dependencyType a.package a.target = .ok m' ∧ w'.Holds m' ∧
        (outcome = .ok () ∨
          ∃ cause, outcome = .error (.tool cause) ∧ ⟨.push, .error cause⟩ ∈ events) := by
  cases h with
  | notEdited | notWritten =>
    exact .inl ⟨⟨_, rfl⟩, rfl, WorkingCopy.head_eq_of_trail ht (by simp)⟩
  | written hedit hpublish =>
    -- the whole file is written, so it does not matter what was on disk
    obtain ⟨w₁, ⟨-, _, rfl⟩, ht⟩ := Trail.cons_iff.1 ht
    obtain ⟨hfail, hmessages, hhead⟩ | ⟨hmessages, hhead, houtcome⟩ := hpublish.lands ht
    · exact .inl ⟨hfail, hmessages, hhead⟩
    · refine .inr ⟨hmessages, hedit, ?_, ?_⟩
      · rw [WorkingCopy.Holds, hhead]
        exact Function.update_self ..
      · exact houtcome.imp_right fun ⟨cause, hcause, hpush⟩ =>
          ⟨cause, hcause, List.mem_cons_of_mem _ hpush⟩

/-- What is read after the checkout is the text that the head holds, whatever was in memory and on
disk before. -/
theorem ofFile_of_restored {m₁ : Manifest} {found : File.Content} (hholds : w.Holds m)
    (hpath : m₁.path = m.path)
    (ht : Trail WorkingCopy.Moves w [⟨.add a.package a.previous a.dependencyType, .ok ()⟩,
      ⟨.checkout m₁.path, .ok ()⟩, ⟨.contentOf m₁.path, found⟩] w') :
    Manifest.ofFile m₁.path found = .ok m := by
  simp only [Trail.cons_iff] at ht
  obtain ⟨_, ⟨-, left, rfl⟩, _, ⟨-, left', rfl⟩, _, ⟨⟨given, hfound⟩, -⟩, -⟩ := ht
  -- the head is as it was, because installing the former version commits nothing
  have hfound : found = w.head m₁.path := hfound.trans (Function.update_self ..)
  rw [hfound, hpath, show w.head m.path = .holding m.content from hholds,
    Manifest.ofFile_holding]
  exact Manifest.parse_eq_ok_iff.2 ⟨rfl, rfl⟩

/-- Undoing an upgrade brings no commit about. If the head holds the manifest, the manifest in memory
is the same afterwards, whether everything could be undone or not. -/
theorem Undoing.lands {outcome : Except Failure Unit} {m' : Manifest}
    (h : Undoing a m (outcome, m') events) (ht : Trail WorkingCopy.Moves w events w')
    (hholds : w.Holds m) : m' = m ∧ commitMessages events = [] ∧ w'.head = w.head := by
  refine ⟨?_, by cases h <;> rfl, WorkingCopy.head_eq_of_trail ht (by cases h <;> simp)⟩
  cases h with
  | notInstalled | notPutBack => rfl
  | notRestored cause hback =>
    -- a checkout does not fail
    simp only [Trail.cons_iff] at ht
    obtain ⟨_, -, _, ⟨⟨_, hanswer⟩, -⟩, -⟩ := ht
    cases hanswer
  | notReadAgain hback hread =>
    rw [ofFile_of_restored hholds (path_of_putBack hback) ht] at hread
    cases hread
  | undone hback hread =>
    rw [ofFile_of_restored hholds (path_of_putBack hback) ht] at hread
    cases hread
    rfl

/-- An attempt either brings no commit about, and then it leaves the manifest in memory as it was
unless it is the last one, or the head holds the manifest that declares the target. Then the attempt
is committed unless its push failed. -/
theorem Conduct.lands {state : Attempt.State} {note : Option String} {course : Course}
    (h : Conduct a m events state note course) (ht : Trail WorkingCopy.Moves w events w')
    (hholds : w.Holds m) :
    state ≠ .committed ∧ commitMessages events = [] ∧ w'.head = w.head ∧
        (course.halted = none → course.manifest = m) ∨
      commitMessages events = [a.commitMessage] ∧
        m.setVersion a.dependencyType a.package a.target = .ok course.manifest ∧
        w'.Holds course.manifest ∧
        (state = .committed ∨
          state = .commitFailed ∧ course.halted ≠ none ∧
            ∃ cause, ⟨.push, .error cause⟩ ∈ events) := by
  cases h with
  | notApplied =>
    exact .inl ⟨by simp, rfl, WorkingCopy.head_eq_of_trail ht (by simp), fun _ => rfl⟩
  | kept hkeep =>
    simp only [Trail.cons_iff] at ht
    obtain ⟨_, ⟨-, _, rfl⟩, _, ⟨-, _, rfl⟩, ht⟩ := ht
    obtain ⟨⟨_, hcause⟩, -⟩ | ⟨hmessages, hedit, hholds', -⟩ := hkeep.lands ht
    · cases hcause
    · exact .inr ⟨hmessages, hedit, hholds', .inl rfl⟩
  | notKept hkeep =>
    simp only [Trail.cons_iff] at ht
    obtain ⟨_, ⟨-, _, rfl⟩, _, ⟨-, _, rfl⟩, ht⟩ := ht
    obtain ⟨-, hmessages, hhead⟩ | ⟨hmessages, hedit, hholds', hok | ⟨cause, -, hpush⟩⟩ :=
      hkeep.lands ht
    · exact .inl ⟨by simp, hmessages, hhead, by simp⟩
    · cases hok
    · exact .inr ⟨hmessages, hedit, hholds', .inr ⟨rfl, by simp, cause,
        List.mem_cons_of_mem _ (List.mem_cons_of_mem _ hpush)⟩⟩
  | undone hback hundo | notUndone hback hundo =>
    simp only [Trail.cons_iff] at ht
    obtain ⟨_, ⟨-, _, rfl⟩, _, ⟨-, _, rfl⟩, ht⟩ := ht
    obtain ⟨rfl, hmessages, hhead⟩ := hundo.lands ht hholds
    exact .inl ⟨by simp, hmessages, hhead, fun _ => rfl⟩

end Attempts

/-! ## What the head holds -/

/-- The attempts whose commit came about: those that are committed, and the last one if it failed
for no other reason than its push. -/
def Landed (attempts : List Attempt) (events : List Step) (landed : List Attempt) : Prop :=
  landed = attempts.filter (·.isCommitted) ∨
    ∃ a cause, attempts.getLast? = some a ∧ a.state = .commitFailed ∧
      ⟨.push, .error cause⟩ ∈ events ∧ landed = attempts.filter (·.isCommitted) ++ [a]

theorem Landed.cons_of_committed {a : Attempt} {attempts landed : List Attempt}
    {events more : List Step} (h : Landed attempts more landed) (ha : a.isCommitted = true) :
    Landed (a :: attempts) (events ++ more) (a :: landed) := by
  obtain rfl | ⟨last, cause, hlast, hstate, hpush, rfl⟩ := h
  · exact .inl (List.filter_cons_of_pos ha).symm
  · refine .inr ⟨last, cause, ?_, hstate, List.mem_append_right _ hpush, ?_⟩
    · rw [List.getLast?_cons, hlast, Option.getD_some]
    · rw [List.filter_cons_of_pos ha, List.cons_append]

theorem Landed.cons_of_not_committed {a : Attempt} {attempts landed : List Attempt}
    {events more : List Step} (h : Landed attempts more landed) (ha : a.isCommitted ≠ true) :
    Landed (a :: attempts) (events ++ more) landed := by
  obtain rfl | ⟨last, cause, hlast, hstate, hpush, rfl⟩ := h
  · exact .inl (List.filter_cons_of_neg ha).symm
  · refine .inr ⟨last, cause, ?_, hstate, List.mem_append_right _ hpush, ?_⟩
    · rw [List.getLast?_cons, hlast, Option.getD_some]
    · rw [List.filter_cons_of_neg ha]

/-- If the head holds the manifest in memory, then after some legs of a run it holds that manifest
with the targets of the attempts whose commit came about. -/
theorem Legs.head_holds {o : Options} {course last : Course} {attempts : List Attempt}
    {events : List Step} (h : Legs o course attempts events last) {w w' : WorkingCopy}
    (ht : Trail WorkingCopy.Moves w events w') (hholds : w.Holds course.manifest) :
    ∃ landed m', Landed attempts events landed ∧
      landed.map (·.commitMessage) = commitMessages events ∧
      declareTargets course.manifest landed = .ok m' ∧ w'.Holds m' ∧
      m'.path = course.manifest.path := by
  induction h generalizing w with
  | finished course =>
    obtain rfl := Trail.nil_iff.1 ht
    exact ⟨[], _, .inl rfl, rfl, rfl, hholds, rfl⟩
  | stopped m reason =>
    obtain rfl := Trail.nil_iff.1 ht
    exact ⟨[], _, .inl rfl, rfl, rfl, hholds, rfl⟩
  | @next m course last events more state note attempts dependencyType r time hconduct hrest ih =>
    obtain ⟨w₁, ht₁, ht₂⟩ := ht.of_append
    obtain ⟨hstate, hmessages, hhead, hmanifest⟩ | ⟨hmessages, hedit, hholds', hstate⟩ :=
      hconduct.lands ht₁ hholds
    · have hnot : (Attempt.ended (selected o m dependencyType r) state note time).isCommitted
          ≠ true := by
        simp [Attempt.isCommitted, Attempt.ended, hstate]
      have hholds₁ : w₁.Holds m := by rwa [WorkingCopy.Holds, hhead]
      obtain ⟨m₁, _ | reason⟩ := course
      · obtain rfl : m₁ = m := hmanifest rfl
        obtain ⟨landed, m', hlanded, hmore, hdeclare, hholds', hpath⟩ := ih ht₂ hholds₁
        refine ⟨landed, m', hlanded.cons_of_not_committed hnot, ?_, hdeclare, hholds', hpath⟩
        rw [commitMessages_append, hmessages, List.nil_append, hmore]
      · -- the attempt is the last one, and nothing of it was committed
        obtain ⟨rfl, rfl, -⟩ := hrest.of_halted
        obtain rfl := Trail.nil_iff.1 ht₂
        refine ⟨[], m, .inl ?_, ?_, rfl, hholds₁, rfl⟩
        · rw [List.filter_cons_of_neg hnot, List.filter_nil]
        · rw [List.append_nil, hmessages, List.map_nil]
    · have hpath₁ : course.manifest.path = m.path := Manifest.path_of_setVersion hedit
      obtain rfl | ⟨rfl, hhalted, cause, hpush⟩ := hstate
      · obtain ⟨landed, m', hlanded, hmore, hdeclare, hholds', hpath⟩ := ih ht₂ hholds'
        refine ⟨_, m', hlanded.cons_of_committed rfl, ?_, ?_, hholds', hpath.trans hpath₁⟩
        · rw [commitMessages_append, hmessages, List.map_cons, hmore]
          rfl
        · exact (declareTargets_cons hedit landed).trans hdeclare
      · -- the attempt is the last one, though all of it but its push came about
        obtain ⟨m₁, _ | reason⟩ := course
        · exact absurd rfl hhalted
        · obtain ⟨rfl, rfl, -⟩ := hrest.of_halted
          obtain rfl := Trail.nil_iff.1 ht₂
          refine ⟨[_], m₁, .inr ⟨_, cause, rfl, rfl, ?_, rfl⟩, ?_, ?_, hholds', hpath₁⟩
          · rw [List.append_nil]
            exact hpush
          · rw [List.append_nil, hmessages]
            rfl
          · exact declareTargets_cons hedit []

/-- Only upgrades that were kept reach the head: whatever the tools leave on disk and however they
answer, a run that starts with the manifest at the head ends with that manifest at the head, edited
for each attempt whose commit came about, in order. -/
theorem head_holds_kept_edits (o : Options) (m : Manifest) (hdry : o.dryRun = false) {σ : Type}
    (crew : Crew σ) (w : WorkingCopy) (s : σ) (hholds : w.head m.path = .holding m.content) :
    ∃ landed m',
      Landed ((run o m).exec crew.serve (w, s)).1.1.attempts
        ((run o m).journal Call.isOfAttempt crew.serve (w, s)) landed ∧
      landed.map (·.commitMessage) =
        commitMessages ((run o m).journal Call.isOfAttempt crew.serve (w, s)) ∧
      declareTargets m landed = .ok m' ∧
      ((run o m).exec crew.serve (w, s)).2.1.head m.path = .holding m'.content := by
  obtain ⟨landed, m', hlanded, hmessages, hdeclare, hholds', hpath⟩ :=
    (run_legs o m hdry crew.serve (w, s)).head_holds (crew.trail (run o m) w s) hholds
  refine ⟨landed, m', hlanded, hmessages, hdeclare, ?_⟩
  rwa [WorkingCopy.Holds, hpath] at hholds'

/-- Collaborators who find that `left` fails its tests, and whose tools empty every file. -/
def emptying : Crew Unit := fun request _ =>
  ((leftFails (.ok ()) request ()).1, fun _ => .holding "", ())

/-- The working copy in which every file holds the manifest that declares the two packages. -/
def bothDeclared : WorkingCopy :=
  ⟨fun _ => .holding twoPackages.content, fun _ => .holding twoPackages.content,
    fun _ => .holding twoPackages.content⟩

/-- A run in which the files are emptied at every turn and only the second upgrade is kept. -/
theorem head_holds_kept_edits_emptying :
    dependenciesOnly.dryRun = false ∧
      bothDeclared.head twoPackages.path = .holding twoPackages.content ∧
      ∃ landed m',
        Landed
          ((run dependenciesOnly twoPackages).exec emptying.serve (bothDeclared, ())).1.1.attempts
          ((run dependenciesOnly twoPackages).journal Call.isOfAttempt emptying.serve
            (bothDeclared, ())) landed ∧
        landed.map (·.commitMessage) = ["Update right to 2.0.1"] ∧
        declareTargets twoPackages landed = .ok m' ∧
        ((run dependenciesOnly twoPackages).exec emptying.serve
          (bothDeclared, ())).2.1.head twoPackages.path = .holding m'.content := by
  refine ⟨rfl, rfl, ?_⟩
  obtain ⟨landed, m', hlanded, hmessages, hdeclare, hhead⟩ :=
    head_holds_kept_edits dependenciesOnly twoPackages rfl emptying bothDeclared () rfl
  exact ⟨landed, m', hlanded, hmessages.trans (by decide +kernel), hdeclare, hhead⟩

end Patchwise.Upgrade

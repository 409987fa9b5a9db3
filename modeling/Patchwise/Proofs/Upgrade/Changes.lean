import Mathlib.Data.Finset.Basic
import Patchwise.Proofs.Upgrade.Course

/-!
# What the commits of a run take along

A commit takes along everything that changed in the working tree, not only the upgrade it is made
for. An attempt whose former version could not be installed leaves its upgrade in the tree, and the
run goes on, so the next commit takes that upgrade along although it was never found to be well.

## Main definitions

- `Upgrade.Changes` — the packages that changed in the tree, and those that were committed
- `Upgrade.committedPackages` — the packages that the commits of a run take along

## Main results

- `Upgrade.committed_without_passing_iff` — when a package is committed that did not pass

## Design notes

Whether a package that did not pass is committed in the end depends on the changes so far and on the
calls that are still to come. `Changes.Slips` says this at every point of a run, and no attempt
changes it (`Conduct.slips_iff`).
-/

namespace Patchwise.Upgrade

open Session

/-! ## Changes -/

/-- The packages that changed in the working tree since its last commit, those of them that are
staged, and the packages that were committed. -/
structure Changes where
  changed : Finset String
  staged : Finset String
  committed : Finset String

namespace Changes

def none : Changes :=
  ⟨∅, ∅, ∅⟩

/-- The changes after a call. -/
@[simp]
def after (c : Changes) : Step → Changes
  | ⟨.upgrade package _, .ok ()⟩ => { c with changed := insert package c.changed }
  | ⟨.add package _ _, .ok ()⟩ => { c with changed := c.changed.erase package }
  | ⟨.addAll, .ok ()⟩ => { c with staged := c.changed }
  | ⟨.commit _, .ok ()⟩ => ⟨c.changed \ c.staged, ∅, c.committed ∪ c.staged⟩
  | _ => c

end Changes

/-- The packages that commits take along. -/
def committedPackages (events : List Step) : Finset String :=
  (events.foldl Changes.after Changes.none).committed

/-- Whether a verification found a package to be well. -/
def isPassed (package : String) : Step → Bool
  | ⟨.verify a, .ok .passed⟩ => a.package = package
  | _ => false

/-- Whether the former version of a package was installed. -/
def isInstalled (package : String) : Step → Bool
  | ⟨.add name _ _, .ok ()⟩ => name = package
  | _ => false

/-- Whether the former version of a package could not be installed. -/
def isNotInstalled (package : String) : Step → Bool
  | ⟨.add name _ _, .error _⟩ => name = package
  | _ => false

/-- Whether a commit came about. -/
def isCommit : Step → Bool
  | ⟨.commit _, .ok ()⟩ => true
  | _ => false

def Passed (package : String) (events : List Step) : Prop :=
  ∃ event ∈ events, isPassed package event = true

/-- The former version of a package could not be installed, and a commit came about before it was
installed after all. -/
def CarriedAlong (package : String) (events : List Step) : Prop :=
  ∃ before failed between commit after,
    events = before ++ failed :: (between ++ commit :: after) ∧
      isNotInstalled package failed = true ∧ isCommit commit = true ∧
      ∀ event ∈ between, isInstalled package event = false

/-- Whether a commit comes about before the former version of a package is installed. -/
@[simp]
def isTaken (package : String) : List Step → Bool
  | [] => false
  | event :: rest => isCommit event || (!isInstalled package event && isTaken package rest)

/-- Whether a commit takes a package along whose former version could not be installed. -/
@[simp]
def isCarried (package : String) : List Step → Bool
  | [] => false
  | event :: rest =>
    (isNotInstalled package event && isTaken package rest) || isCarried package rest

theorem isTaken_iff {package : String} {events : List Step} :
    isTaken package events = true ↔
      ∃ between commit after, events = between ++ commit :: after ∧ isCommit commit = true ∧
        ∀ event ∈ between, isInstalled package event = false := by
  induction events with
  | nil => simp [isTaken]
  | cons event rest ih =>
    rw [isTaken, Bool.or_eq_true, Bool.and_eq_true, ih]
    constructor
    · rintro (hcommit | ⟨hinstalled, between, commit, after, rfl, hcommit, hbetween⟩)
      · exact ⟨[], event, rest, rfl, hcommit, by simp⟩
      · refine ⟨event :: between, commit, after, rfl, hcommit, ?_⟩
        exact List.forall_mem_cons.2 ⟨by simpa using hinstalled, hbetween⟩
    · rintro ⟨_ | ⟨first, between⟩, commit, after, heq, hcommit, hbetween⟩
      · obtain ⟨rfl, rfl⟩ := List.cons.inj heq
        exact .inl hcommit
      · obtain ⟨rfl, rfl⟩ := List.cons.inj heq
        obtain ⟨hfirst, hbetween⟩ := List.forall_mem_cons.1 hbetween
        exact .inr ⟨by simp [hfirst], between, commit, after, rfl, hcommit, hbetween⟩

theorem isCarried_iff {package : String} {events : List Step} :
    isCarried package events = true ↔ CarriedAlong package events := by
  induction events with
  | nil => simp [isCarried, CarriedAlong]
  | cons event rest ih =>
    rw [isCarried, Bool.or_eq_true, Bool.and_eq_true, ih, isTaken_iff]
    constructor
    · rintro (⟨hfailed, between, commit, after, rfl, htaken⟩ |
        ⟨before, failed, between, commit, after, rfl, hcarried⟩)
      · exact ⟨[], event, between, commit, after, rfl, hfailed, htaken⟩
      · exact ⟨event :: before, failed, between, commit, after, rfl, hcarried⟩
    · rintro ⟨_ | ⟨first, before⟩, failed, between, commit, after, heq, hfailed, htaken⟩
      · obtain ⟨rfl, rfl⟩ := List.cons.inj heq
        exact .inl ⟨hfailed, between, commit, after, rfl, htaken⟩
      · obtain ⟨rfl, rfl⟩ := List.cons.inj heq
        exact .inr ⟨before, failed, between, commit, after, rfl, hfailed, htaken⟩

/-! ## What slips -/

/-- What the changes so far and the calls to come make of a package that does not pass: it is
committed already, or it changed and a commit takes it along, or it is still to be left changed and
then taken along. -/
def Changes.Slips (c : Changes) (package : String) (events : List Step) : Prop :=
  package ∈ c.committed ∨ package ∈ c.changed ∧ isTaken package events = true ∨
    isCarried package events = true

section Attempts

variable {a : Attempt} {m : Manifest} {events : List Step} {package : String}

theorem Publishing.slips_iff {outcome : Except Failure Unit} (h : Publishing a outcome events)
    (c : Changes) (more : List Step) :
    (events.foldl Changes.after c).Slips package more ↔ c.Slips package (events ++ more) := by
  cases h <;>
    simp [Changes.Slips, isCommit, isInstalled, isNotInstalled, or_assoc]

theorem Keeping.slips_iff {last : Except Failure Unit × Manifest} (h : Keeping a m last events)
    (c : Changes) (more : List Step) :
    (events.foldl Changes.after c).Slips package more ↔ c.Slips package (events ++ more) := by
  cases h with
  | notEdited => exact Iff.rfl
  | notWritten =>
    simp [Changes.Slips, isCommit, isInstalled, isNotInstalled]
  | written hedit hpublish =>
    rw [List.foldl_cons, hpublish.slips_iff]
    simp [Changes.Slips, isCommit, isInstalled, isNotInstalled]

/-- An upgrade that is undone slips only if its former version cannot be installed. -/
theorem Undoing.slips_iff {last : Except Failure Unit × Manifest} (h : Undoing a m last events)
    (c : Changes) (more : List Step) :
    (events.foldl Changes.after { c with changed := insert a.package c.changed }).Slips package
      more ↔ c.Slips package (events ++ more) := by
  obtain rfl | hne := eq_or_ne package a.package
  · cases h with
    | notInstalled cause =>
      -- it stays changed, and that is what the failed installation counts as
      simp only [List.foldl_cons, List.foldl_nil, Changes.after, Changes.Slips,
        Finset.mem_insert_self, true_and, List.singleton_append, isTaken, isCarried, isCommit,
        isInstalled, isNotInstalled, decide_true, Bool.true_and, Bool.false_or, Bool.not_false,
        Bool.or_eq_true]
      tauto
    | _ =>
      simp [Changes.Slips, isCommit, isInstalled, isNotInstalled]
  · cases h <;>
      simp [Changes.Slips, isCommit, isInstalled, isNotInstalled, hne, hne.symm]

/-- What an attempt does makes no difference to a package that does not pass in it. -/
theorem Conduct.slips_iff {state : Attempt.State} {note : Option String} {course : Course}
    (h : Conduct a m events state note course) (c : Changes)
    (hpassed : ∀ event ∈ events, isPassed package event = false) (more : List Step) :
    (events.foldl Changes.after c).Slips package more ↔ c.Slips package (events ++ more) := by
  cases h with
  | notApplied cause =>
    simp [Changes.Slips, isCommit, isInstalled, isNotInstalled]
  | kept hkeep | notKept hkeep =>
    -- the attempt's package passed, so it is another one
    have hne : package ≠ a.package := by
      rintro rfl
      have hverify := hpassed ⟨.verify a.underTest, .ok .passed⟩
        (List.mem_cons_of_mem _ List.mem_cons_self)
      exact absurd (decide_eq_false_iff_not.1 hverify) (not_not_intro rfl)
    rw [List.foldl_cons, List.foldl_cons, hkeep.slips_iff]
    simp [Changes.Slips, isCommit, isInstalled, isNotInstalled, hne]
  | undone hback hundo | notUndone hback hundo =>
    rw [List.foldl_cons, List.foldl_cons]
    refine (hundo.slips_iff c more).trans ?_
    simp [Changes.Slips, isCommit, isInstalled, isNotInstalled]

end Attempts

/-- From any point of a run on, a package that does not pass is committed in the end if it slips. -/
theorem Legs.committed_iff {o : Options} {course last : Course} {attempts : List Attempt}
    {events : List Step} (h : Legs o course attempts events last) (c : Changes) {package : String}
    (hpassed : ∀ event ∈ events, isPassed package event = false) :
    package ∈ (events.foldl Changes.after c).committed ↔ c.Slips package events := by
  induction h generalizing c with
  | finished | stopped => simp [Changes.Slips]
  | @next m course last events more state note attempts dependencyType r time hconduct hrest ih =>
    -- the attempt makes no difference, and what follows starts with the changes it leaves
    obtain ⟨hpassed, hlater⟩ := List.forall_mem_append.1 hpassed
    rw [List.foldl_append, ih _ hlater, hconduct.slips_iff c hpassed]

theorem Processed.filter_isOfAttempt_eq_nil {o : Options} (hdry : o.dryRun = true)
    {dependencyType : String} {m : Manifest} {last : SectionResult × Course}
    {events : List Step} (h : Processed o dependencyType m last events) :
    events.filter (·.request.isOfAttempt) = [] := by
  cases h with
  | notReported | notRead => rfl
  | processed hselect hseries =>
    rw [List.filter_cons_of_neg (by simp [Call.isOfAttempt])]
    refine hseries.filter_eq_nil Call.isOfAttempt rfl fun hattempt => ?_
    cases hattempt with
    | planned => rfl
    | conducted hlive =>
      rw [hdry] at hlive
      cases hlive

/-- A run that only plans makes no calls for attempts. -/
theorem journal_of_dryRun (o : Options) (m : Manifest) (hdry : o.dryRun = true) {σ : Type}
    (serve : Collaborator interface σ) (s : σ) :
    (run o m).journal Call.isOfAttempt serve s = [] := by
  rw [← filter_journal Call.isNotable_of_isOfAttempt]
  exact (run_ensures o m serve s).filter_eq_nil Call.isOfAttempt rfl
    fun hpart => hpart.filter_isOfAttempt_eq_nil hdry

/-- Which packages are committed though they did not pass a verification in the run: those whose
former version could not be installed before a later commit came about. -/
theorem committed_without_passing_iff (o : Options) (m : Manifest) {σ : Type}
    (serve : Collaborator interface σ) (s : σ) (package : String) :
    package ∈ committedPackages ((run o m).journal Call.isOfAttempt serve s) ∧
        ¬ Passed package ((run o m).journal Call.isOfAttempt serve s) ↔
      CarriedAlong package ((run o m).journal Call.isOfAttempt serve s) ∧
        ¬ Passed package ((run o m).journal Call.isOfAttempt serve s) := by
  refine and_congr_left fun hnot => ?_
  rw [← isCarried_iff]
  cases hdry : o.dryRun with
  | true =>
    rw [journal_of_dryRun o m hdry]
    simp [committedPackages, Changes.none]
  | false =>
    have hpassed : ∀ event ∈ (run o m).journal Call.isOfAttempt serve s,
        isPassed package event = false := fun event hmem =>
      Bool.eq_false_iff.2 fun h => hnot ⟨event, hmem, h⟩
    rw [committedPackages, (run_legs o m hdry serve s).committed_iff Changes.none hpassed]
    simp [Changes.Slips, Changes.none]

/-- The package `left` fails its tests, its former version cannot be installed, and the commit of
`right` takes it along. -/
theorem left_committed_without_passing :
    "left" ∈ committedPackages ((run dependenciesOnly twoPackages).journal Call.isOfAttempt
        (leftFails (.error (.failed "pnpm add" "lockfile busy"))) ()) ∧
      ∀ event ∈ (run dependenciesOnly twoPackages).journal Call.isOfAttempt
        (leftFails (.error (.failed "pnpm add" "lockfile busy"))) (),
        isPassed "left" event = false := by
  decide +kernel

end Patchwise.Upgrade

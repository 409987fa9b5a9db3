import Patchwise.Proofs.Manifest.Regular
import Patchwise.Proofs.Upgrade.Course

/-!
# When upgrades are undone

An upgrade that is not verified is undone in steps, some of which are up to the collaborators. Even
if these all do their part an upgrade may stay where it is, because in between the manifest in
memory is edited, and an edit is refused where the editor finds no entry, or where what is declared
does not stand for itself in a string.

## Main definitions

- `Upgrade.Cooperates` — a collaborator does its part in undoing an upgrade
- `Upgrade.IsUndone` — an attempt's upgrade is undone, and the run goes on with the restored file

## Main results

- `Upgrade.isUndone_iff_restorable` — when an upgrade that is not verified is undone, given that all
  collaborators do their part
- `Upgrade.isUndone_of_isRegular` — on a regular manifest, it always is
-/

namespace Patchwise.Upgrade

open Session

/-- A collaborator does its part in undoing an upgrade: a former version is installed, the manifest's
file is restored, and what stands in it then is a manifest. -/
def Cooperates : Step → Prop
  | ⟨.add _ _ _, answer⟩ => answer = .ok ()
  | ⟨.checkout _, answer⟩ => answer = .ok ()
  | ⟨.contentOf path, found⟩ => ∃ m, Manifest.ofFile path found = .ok m
  | _ => True

/-- An attempt's upgrade is undone for a reason: the manifest's file is restored, and what stands in
it then is the manifest that the run goes on with. -/
structure IsUndone (m : Manifest) (reason : String) (last : Attempt × Course)
    (events : List Step) : Prop where
  state_eq : last.1.state = .reverted
  note_eq : last.1.note = some reason
  restored : ∃ found, [⟨.checkout m.path, .ok ()⟩, ⟨.contentOf m.path, found⟩] <:+ events ∧
    Manifest.ofFile m.path found = .ok last.2.manifest

section

variable {a : Attempt} {m : Manifest} {last : Except Failure Unit × Manifest}
  {events : List Step}

/-- If the collaborators do their part, then undoing an upgrade succeeds just if what was declared
can be declared again. -/
theorem Undoing.isOk_iff (h : Undoing a m last events)
    (hcooperates : ∀ event ∈ events, Cooperates event) :
    last.1 = .ok () ↔ ∃ m', putBack a m = .ok m' := by
  cases h with
  | notInstalled cause =>
    have hadded := hcooperates _ List.mem_cons_self
    cases hadded
  | notPutBack hback => simp [hback]
  | notRestored cause hback =>
    have hrestored := hcooperates _ (List.mem_cons_of_mem _ List.mem_cons_self)
    cases hrestored
  | notReadAgain hback hread =>
    obtain ⟨m'', hfound⟩ :=
      hcooperates _ (List.mem_cons_of_mem _ (List.mem_cons_of_mem _ List.mem_cons_self))
    rw [hread] at hfound
    cases hfound
  | undone hback hread => simp [hback]

theorem Undoing.restored (h : Undoing a m last events) (hok : last.1 = .ok ()) :
    ∃ found, [⟨.checkout m.path, .ok ()⟩, ⟨.contentOf m.path, found⟩] <:+ events ∧
      Manifest.ofFile m.path found = .ok last.2 := by
  cases h with
  | undone hback hread =>
    have hpath := path_of_putBack hback
    rw [hpath] at hread ⊢
    exact ⟨_, List.suffix_cons _ _, hread⟩
  | _ => cases hok

end

/-- An attempt whose upgrade is not verified is undone, or ends as one that could not be. -/
theorem Conduct.exists_undoing {a b : Attempt} {m : Manifest} {events : List Step}
    {state : Attempt.State} {note : Option String} {course : Course}
    (h : Conduct a m events state note course) {answer : Except VerifyError Verdict}
    {reason : String} (hverify : ⟨.verify b, answer⟩ ∈ events)
    (hback : setback? answer = some reason) :
    ∃ last more, Undoing a m last more ∧ more <:+ events ∧ course.manifest = last.2 ∧
      (last.1 = .ok () ∧ state = .reverted ∧ note = some reason ∨
        last.1 ≠ .ok () ∧ state = .revertFailed) := by
  cases h with
  | notApplied => simp at hverify
  | kept hkeep | notKept hkeep =>
    have hanswer := eq_of_verify_mem (hkeep.not_verify_mem b _) hverify
    exact absurd hanswer (ne_passed_of_setback hback)
  | undone hback' hundo =>
    obtain rfl := eq_of_verify_mem (hundo.not_verify_mem b _) hverify
    obtain rfl := Option.some.inj (hback.symm.trans hback')
    exact ⟨_, _, hundo, List.suffix_append [_, _] _, rfl, .inl ⟨rfl, rfl, rfl⟩⟩
  | notUndone hback' hundo =>
    exact ⟨_, _, hundo, List.suffix_append [_, _] _, rfl, .inr ⟨by simp, rfl⟩⟩

section IsUndone

variable (o : Options) (dependencyType : String) (r : Record) (m : Manifest) {spec : String}
  {σ : Type} (serve : Collaborator interface σ) (s : σ) {b : Attempt}
  {answer : Except VerifyError Verdict} {reason : String}

/-- An upgrade that is to be undone is undone just if what was declared can be declared again. -/
theorem isUndone_iff_exists_setSpec (hspec : m.specOf dependencyType r.name = some spec)
    (hverify : ⟨.verify b, answer⟩ ∈
      (attempt o dependencyType r ⟨m, none⟩).journal Call.isNotable serve s)
    (hback : setback? answer = some reason)
    (hcooperates : ∀ event ∈ (attempt o dependencyType r ⟨m, none⟩).journal Call.isNotable serve s,
      Cooperates event) :
    IsUndone m reason ((attempt o dependencyType r ⟨m, none⟩).exec serve s).1
        ((attempt o dependencyType r ⟨m, none⟩).journal Call.isNotable serve s) ↔
      ∃ m', m.setSpec dependencyType r.name spec = .ok m' := by
  have hputBack : putBack (selected o m dependencyType r) m =
      m.setSpec dependencyType r.name spec := by
    simp [putBack, selected, hspec, Attempt.start, Attempt.package]
  rw [← hputBack]
  have hways := attempt_ensures o dependencyType r m serve s
  generalize (attempt o dependencyType r ⟨m, none⟩).journal Call.isNotable serve s = events
    at hverify hcooperates hways ⊢
  generalize ((attempt o dependencyType r ⟨m, none⟩).exec serve s).1 = last at hways ⊢
  cases hways with
  | planned => cases hverify
  | conducted hdry hends =>
    -- the events of undoing are the last ones, so what holds of all events holds of them
    obtain ⟨state, note, time, hlast, hconduct⟩ := hends
    obtain ⟨undone, more, hundo, hsuffix, hmanifest, hend⟩ :=
      hconduct.exists_undoing hverify hback
    rw [← hundo.isOk_iff fun event hevent => hcooperates event (hsuffix.subset hevent)]
    obtain ⟨hok, rfl, rfl⟩ | ⟨hnot, rfl⟩ := hend
    · obtain ⟨found, hfound, hread⟩ := hundo.restored hok
      exact iff_of_true ⟨by rw [hlast]; rfl, by rw [hlast]; rfl,
        found, hfound.trans hsuffix, by rw [hmanifest]; exact hread⟩ hok
    · refine iff_of_false (fun h => ?_) hnot
      have hstate := h.state_eq
      rw [hlast] at hstate
      cases hstate

/-- In a project whose manifest is regular, an upgrade that is to be undone is undone, if the
collaborators do their part. -/
theorem isUndone_of_isRegular (hregular : m.IsRegular dependencyType)
    (hname : Manifest.IsBare r.name) (hspec : m.specOf dependencyType r.name = some spec)
    (hverify : ⟨.verify b, answer⟩ ∈
      (attempt o dependencyType r ⟨m, none⟩).journal Call.isNotable serve s)
    (hback : setback? answer = some reason)
    (hcooperates : ∀ event ∈ (attempt o dependencyType r ⟨m, none⟩).journal Call.isNotable serve s,
      Cooperates event) :
    IsUndone m reason ((attempt o dependencyType r ⟨m, none⟩).exec serve s).1
      ((attempt o dependencyType r ⟨m, none⟩).journal Call.isNotable serve s) :=
  (isUndone_iff_exists_setSpec o dependencyType r m serve s hspec hverify hback hcooperates).2
    ⟨m, hregular.setSpec_of_specOf hspec hname⟩

end IsUndone

/-- When an upgrade is undone. If the package is declared, the verification gives a reason to undo
its upgrade and all collaborators do their part, then it is undone just if the editor finds an entry
for the package and the text is still JSON with what is declared written in the entry's place. -/
theorem isUndone_iff_restorable (o : Options) (dependencyType : String) (r : Record) (m : Manifest)
    {spec : String} (hspec : m.specOf dependencyType r.name = some spec) {σ : Type}
    (serve : Collaborator interface σ) (s : σ) {b : Attempt}
    {answer : Except VerifyError Verdict} {reason : String}
    (hverify : ⟨.verify b, answer⟩ ∈
      (attempt o dependencyType r ⟨m, none⟩).journal Call.isNotable serve s)
    (hback : setback? answer = some reason)
    (hcooperates : ∀ event ∈ (attempt o dependencyType r ⟨m, none⟩).journal Call.isNotable serve s,
      Cooperates event) :
    IsUndone m reason ((attempt o dependencyType r ⟨m, none⟩).exec serve s).1
        ((attempt o dependencyType r ⟨m, none⟩).journal Call.isNotable serve s) ↔
      ∃ e, Manifest.Entry.find? dependencyType.toList r.name.toList m.content.toList = some e ∧
        (Json.read (.ofList (e.withSpec spec.toList))).isSome := by
  rw [← Manifest.exists_setSpec_iff]
  exact isUndone_iff_exists_setSpec o dependencyType r m serve s hspec hverify hback hcooperates

/-- Collaborators of a project with a manifest who find that every upgrade fails the tests. All else
goes well. -/
def testsFail (m : Manifest) : Collaborator interface Unit := fun request _ =>
  match request with
  | .outdated _ => (.ok ⟨[], []⟩, ())
  | .upgrade _ _ | .add _ _ _ | .addAll | .commit _ | .push | .checkout _ => (.ok (), ())
  | .store _ _ => (.ok (), ())
  | .verify _ => (.ok (.failed "1 test failed"), ())
  | .contentOf _ => (.holding m.content, ())
  | .isCancelled => (false, ())
  | .clock => (default, ())
  | .tell _ => ((), ())

theorem cooperates_testsFail (m : Manifest) (request : Call) (s : Unit) :
    Cooperates ⟨request, (testsFail m request s).1⟩ := by
  cases request with
  | add | checkout => rfl
  | contentOf path =>
    have hparse : Manifest.parse path m.content = .ok _ := Manifest.parse_of_read m.read_content
    exact ⟨_, (Manifest.ofFile_holding path m.content).trans hparse⟩
  | _ => trivial

def lodashPatch : Record :=
  { name := "lodash", current := "4.17.20", wanted := "4.17.21", latest := "4.17.21",
    wantedDelta := .patch, latestDelta := .patch, packageType := none }

theorem verify_mem_testsFail (m : Manifest) :
    ⟨.verify (selected .usual m "dependencies" lodashPatch).underTest,
        .ok (.failed "1 test failed")⟩ ∈
      (attempt .usual "dependencies" lodashPatch ⟨m, none⟩).journal Call.isNotable
        (testsFail m) () :=
  List.mem_of_getElem? (i := 1) rfl

/-- The upgrade is undone where the entry of the package is the one that the editor finds. -/
theorem isUndone_onePackage :
    Manifest.onePackage.specOf "dependencies" lodashPatch.name = some "^4.17.20" ∧
      IsUndone Manifest.onePackage "1 test failed"
        ((attempt .usual "dependencies" lodashPatch ⟨Manifest.onePackage, none⟩).exec
          (testsFail Manifest.onePackage) ()).1
        ((attempt .usual "dependencies" lodashPatch ⟨Manifest.onePackage, none⟩).journal
          Call.isNotable (testsFail Manifest.onePackage) ()) := by
  have hspec : Manifest.onePackage.specOf "dependencies" lodashPatch.name = some "^4.17.20" := by
    cbv
  refine ⟨hspec, (isUndone_iff_restorable .usual "dependencies" lodashPatch Manifest.onePackage
    hspec (testsFail Manifest.onePackage) () (verify_mem_testsFail _) rfl
    (forall_mem_journal (cooperates_testsFail _) _ _)).2
      ⟨⟨"\x7b\"dependencies\":\x7b\"lodash\":".toList, "^4.17.20".toList, "\x7d\x7d".toList⟩,
        by decide +kernel, ?_⟩⟩
  cbv

def Call.isCheckout : Call → Bool
  | checkout _ => true
  | _ => false

/-- The upgrade stays although every collaborator does its part: the package is declared, but the
editor looks for it where another section of the same name stands. -/
theorem not_undone_extendedPackage :
    Manifest.extendedPackage.specOf "dependencies" lodashPatch.name = some "^4.17.20" ∧
      (∀ event ∈ (attempt .usual "dependencies" lodashPatch
          ⟨Manifest.extendedPackage, none⟩).journal Call.isNotable
          (testsFail Manifest.extendedPackage) (), Cooperates event) ∧
      ((attempt .usual "dependencies" lodashPatch ⟨Manifest.extendedPackage, none⟩).exec
        (testsFail Manifest.extendedPackage) ()).1.1.state = .revertFailed ∧
      ∀ found, ⟨.checkout Manifest.extendedPackage.path, found⟩ ∉
        (attempt .usual "dependencies" lodashPatch ⟨Manifest.extendedPackage, none⟩).journal
          Call.isNotable (testsFail Manifest.extendedPackage) () := by
  refine ⟨by cbv, forall_mem_journal (cooperates_testsFail _) _ _, by decide +kernel, ?_⟩
  intro found hmem
  have hnone : ((attempt .usual "dependencies" lodashPatch
      ⟨Manifest.extendedPackage, none⟩).journal Call.isNotable
      (testsFail Manifest.extendedPackage) ()).all
        (!·.request.isCheckout) = true := by
    decide +kernel
  cases List.all_eq_true.1 hnone _ hmem

end Patchwise.Upgrade

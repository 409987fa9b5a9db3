import Mathlib.Data.List.Forall2
import Patchwise.Proofs.Upgrade.Conduct

/-!
# The course of runs

What a whole run does, said apart from the program: sections one after the other, in each of them
attempts one after the other, and a question before each part whether the user wants to stop.

## Main definitions

- `Upgrade.Series` — parts of a run, one after the other, until the run is to stop
- `Upgrade.Attempted`, `Upgrade.Processed` — the ways in which one attempt and one section can go
- `Upgrade.Legs` — the attempts of a run with their calls, whatever sections they belong to

## Main results

- `Upgrade.run_ensures` — a run goes through its sections in one of these ways
- `Upgrade.run_legs` — the attempts of a run and their calls, one attempt after the other
- `Upgrade.attempts_accord_with_calls` — how the calls of an attempt and its state go together

## Design notes

A course that is halted has no part after it: the constructors for a further part ask for a course
that goes on. What has to be the last thing of a run is therefore last in every relation here.
-/

namespace Patchwise.Upgrade

open Session

/-! ## Parts in a row -/

/-- Parts of a run, one after the other, until the run is to stop. Before each part the user is
asked, and a run that is halted asks no more. -/
inductive Series {α β : Type} (part : α → Manifest → β × Course → List Step → Prop) :
    List α → Course → List β × Course → List Step → Prop
  | finished (course : Course) : Series part [] course ([], course) []
  | halted {a : α} {rest : List α} (m : Manifest) (reason : String) :
      Series part (a :: rest) ⟨m, some reason⟩ ([], ⟨m, some reason⟩) []
  | cancelled {a : α} {rest : List α} (m : Manifest) :
      Series part (a :: rest) ⟨m, none⟩ ([], ⟨m, some "cancelled by user"⟩)
        [⟨.isCancelled, true⟩]
  | next {a : α} {rest : List α} {m : Manifest} {b : β} {bs : List β} {course last : Course}
      {events more : List Step} (hpart : part a m (b, course) events)
      (hrest : Series part rest course (bs, last) more) :
      Series part (a :: rest) ⟨m, none⟩ (b :: bs, last)
        (⟨.isCancelled, false⟩ :: (events ++ more))

/-- The answers to whether a run is to stop. -/
inductive Asked : Course → Bool × Course → List Step → Prop
  | halted (m : Manifest) (reason : String) :
      Asked ⟨m, some reason⟩ (true, ⟨m, some reason⟩) []
  | cancelled (m : Manifest) :
      Asked ⟨m, none⟩ (true, ⟨m, some "cancelled by user"⟩) [⟨.isCancelled, true⟩]
  | goesOn (m : Manifest) : Asked ⟨m, none⟩ (false, ⟨m, none⟩) [⟨.isCancelled, false⟩]

theorem shouldStop_ensures (course : Course) : Ensures (shouldStop course) (Asked course) := by
  obtain ⟨m, _ | reason⟩ := course
  · refine .call rfl fun (cancelled : Bool) => ?_
    cases cancelled with
    | true => exact .done (.cancelled m)
    | false => exact .done (.goesOn m)
  · exact .done (.halted m reason)

/-- What asks before each of its parts whether to stop goes through them as a series, if each part
goes in one of its ways. -/
theorem series_ensures {α β : Type} {part : α → Part β} {loop : List α → Part (List β)}
    {ways : α → Manifest → β × Course → List Step → Prop}
    (hnil : ∀ course, loop [] course = .done ([], course))
    (hcons : ∀ a rest course, loop (a :: rest) course =
      (shouldStop course).bind fun (stop, course) =>
        if stop then .done ([], course)
        else
          (part a course).bind fun (b, course) =>
            (loop rest course).bind fun (bs, course) => .done (b :: bs, course))
    (hpart : ∀ a m, Ensures (part a ⟨m, none⟩) (ways a m)) (inputs : List α) (course : Course) :
    Ensures (loop inputs course) (Series ways inputs course) := by
  induction inputs generalizing course with
  | nil =>
    rw [hnil]
    exact .done (.finished course)
  | cons a rest ih =>
    rw [hcons]
    refine (shouldStop_ensures course).bind fun (stop, course') asked hasked => ?_
    cases hasked with
    | halted m reason => exact .done (.halted m reason)
    | cancelled m => exact .done (.cancelled m)
    | goesOn m =>
      refine (hpart a m).bind fun (b, course) events hway => ?_
      refine (ih course).bind fun (bs, course) later hrest => .done ?_
      rw [List.append_nil, List.singleton_append]
      exact .next hway hrest

namespace Series

variable {α β : Type} {part part' : α → Manifest → β × Course → List Step → Prop}
  {inputs : List α} {course : Course} {last : List β × Course} {events : List Step}

/-- A series that does not leave the run halted did not begin so. -/
theorem halted_eq_none (h : Series part inputs course last events) (hlast : last.2.halted = none) :
    course.halted = none := by
  cases h with
  | finished => exact hlast
  | halted => exact hlast
  | cancelled | next => rfl

/-- The parts of a series go in other ways, too, if each of them does that leaves the run going
wherever the series leaves it going. -/
theorem mono (h : Series part inputs course last events)
    (hpart : ∀ {a m b course events}, part a m (b, course) events →
      (last.2.halted = none → course.halted = none) → part' a m (b, course) events) :
    Series part' inputs course last events := by
  induction h with
  | finished course => exact .finished course
  | halted m reason => exact .halted m reason
  | cancelled m => exact .cancelled m
  | next hfirst hrest ih => exact .next (hpart hfirst hrest.halted_eq_none) (ih hpart)

/-- A series goes through its inputs in order, and through all of them unless it leaves the run
halted. -/
theorem exists_done (h : Series part inputs course last events) :
    ∃ done left, inputs = done ++ left ∧ (last.2.halted = none → left = []) ∧
      List.Forall₂ (fun a b => ∃ m course events, part a m (b, course) events) done last.1 := by
  induction h with
  | finished course => exact ⟨[], [], rfl, fun _ => rfl, .nil⟩
  | halted m reason => exact ⟨[], _, rfl, by simp, .nil⟩
  | cancelled m => exact ⟨[], _, rfl, by simp, .nil⟩
  | @next a rest m b bs course last events more hfirst hrest ih =>
    obtain ⟨done, left, rfl, hleft, hall⟩ := ih
    exact ⟨a :: done, left, rfl, hleft, .cons ⟨m, course, events, hfirst⟩ hall⟩

/-- What each part of a series ends with holds of all that the series ends with. -/
theorem forall_mem {p : β → Prop} (h : Series part inputs course last events)
    (hpart : ∀ {a m b course events}, part a m (b, course) events → p b) : ∀ b ∈ last.1, p b := by
  induction h with
  | finished | halted | cancelled => simp
  | next hfirst hrest ih => exact List.forall_mem_cons.2 ⟨hpart hfirst, ih⟩

/-- A series leaves the manifest as it is if each of its parts does. -/
theorem manifest_eq (h : Series part inputs course last events)
    (hpart : ∀ {a m b course events}, part a m (b, course) events → course.manifest = m) :
    last.2.manifest = course.manifest := by
  induction h with
  | finished | halted | cancelled => rfl
  | next hfirst hrest ih => exact ih.trans (hpart hfirst)

/-- A series makes no calls of a kind if none of its parts does. -/
theorem filter_eq_nil (h : Series part inputs course last events) (keep : Call → Bool)
    (hasked : keep .isCancelled = false)
    (hpart : ∀ {a m last events}, part a m last events →
      events.filter (fun event => keep event.request) = []) :
    events.filter (fun event => keep event.request) = [] := by
  induction h with
  | finished | halted => rfl
  | cancelled => simp [hasked]
  | next hfirst hrest ih =>
    rw [List.filter_cons_of_neg (by simp [hasked]), List.filter_append, hpart hfirst, ih,
      List.append_nil]

end Series

/-! ## Attempts and sections -/

/-- The ways in which the attempt for a record can go. -/
inductive Attempted (o : Options) (dependencyType : String) (r : Record) (m : Manifest) :
    Attempt × Course → List Step → Prop
  | planned (time : Timestamp) (hdry : o.dryRun = true) :
      Attempted o dependencyType r m
        ((selected o m dependencyType r).ended .planned none time, ⟨m, none⟩) []
  | conducted {last : Attempt × Course} {events : List Step} (hdry : o.dryRun = false)
      (hends : Ends (selected o m dependencyType r) m last events) :
      Attempted o dependencyType r m last events

/-- The ways in which a section can go. -/
inductive Processed (o : Options) (dependencyType : String) (m : Manifest) :
    SectionResult × Course → List Step → Prop
  | notReported (cause : Failure) :
      Processed o dependencyType m (.failed dependencyType cause.message, ⟨m, none⟩)
        [⟨.outdated dependencyType, .error cause⟩]
  | notRead {report : Report} {cause : ReportError}
      (hselect : selection o m dependencyType report = .error cause) :
      Processed o dependencyType m
        (.failed dependencyType (Failure.report cause).message, ⟨m, none⟩)
        [⟨.outdated dependencyType, .ok report⟩]
  | processed {report : Report} {records : List Record} {attempts : List Attempt}
      {course : Course} {events : List Step}
      (hselect : selection o m dependencyType report = .ok records)
      (hseries : Series (Attempted o dependencyType)
        (Group.candidates (Group.partition records o.strategy.reach)) ⟨m, none⟩
        (attempts, course) events) :
      Processed o dependencyType m
        ({ dependencyType, outdated := records.length,
           groups := (Group.partition records o.strategy.reach).length, attempts,
           error := none }, course)
        (⟨.outdated dependencyType, .ok report⟩ :: events)

theorem attempt_ensures (o : Options) (dependencyType : String) (r : Record) (m : Manifest) :
    Ensures (attempt o dependencyType r ⟨m, none⟩) (Attempted o dependencyType r m) := by
  unfold attempt
  dsimp only
  split
  next hdry => exact ensures_tell (ensures_now fun time => .done (.planned time hdry))
  next hdry =>
    refine ensures_tell ((apply_ensures _ rfl rfl m).mono fun last events hends => ?_)
    exact .conducted (Bool.eq_false_iff.2 hdry) hends

theorem attempts_ensures (o : Options) (dependencyType : String) (records : List Record)
    (course : Course) :
    Ensures (attempts o dependencyType records course)
      (Series (Attempted o dependencyType) records course) :=
  series_ensures (fun _ => rfl) (fun _ _ _ => rfl) (attempt_ensures o dependencyType) records
    course

theorem processSection_ensures (o : Options) (dependencyType : String) (m : Manifest) :
    Ensures (processSection o dependencyType ⟨m, none⟩) (Processed o dependencyType m) := by
  refine ensures_tell (.call rfl fun answer => ?_)
  cases answer with
  | error cause => exact ensures_tell (.done (.notReported cause))
  | ok report =>
    dsimp only [done_bind]
    cases hselect : selection o m dependencyType report with
    | error cause => exact ensures_tell (.done (.notRead hselect))
    | ok records =>
      refine (attempts_ensures o dependencyType _ ⟨m, none⟩).bind
        fun (attempts, course) events hseries => .done ?_
      rw [List.append_nil]
      exact .processed hselect hseries

theorem processSections_ensures (o : Options) (dependencyTypes : List String)
    (course : Course) :
    Ensures (processSections o dependencyTypes course)
      (Series (Processed o) dependencyTypes course) :=
  series_ensures (fun _ => rfl) (fun _ _ _ => rfl) (processSection_ensures o) dependencyTypes
    course

/-- Whatever the collaborators do, a run goes through its sections one after the other. -/
theorem run_ensures (o : Options) (m : Manifest) :
    Ensures (run o m) fun ran events =>
      Series (Processed o) o.dependencyTypes ⟨m, none⟩ (ran.1.sections, ⟨ran.2, ran.1.halted⟩)
        events := by
  refine ensures_now fun started => ?_
  refine (processSections_ensures o o.dependencyTypes ⟨m, none⟩).bind
    fun (sections, course) events hseries => ?_
  refine ensures_now fun finished => .done ?_
  rw [List.append_nil]
  exact hseries

/-! ## Legs -/

/-- Whether a call is made in the course of an attempt. -/
def Call.isOfAttempt : Call → Bool
  | outdated _ | isCancelled | clock | tell _ => false
  | _ => true

theorem Call.isNotable_of_isOfAttempt (request : Call) (h : request.isOfAttempt = true) :
    request.isNotable = true := by
  cases request <;> first | rfl | cases h

/-- The attempts of a run that does not only plan, with their calls, whatever sections they belong
to. The user may stop the run between two of them. -/
inductive Legs (o : Options) : Course → List Attempt → List Step → Course → Prop
  | finished (course : Course) : Legs o course [] [] course
  | stopped (m : Manifest) (reason : String) : Legs o ⟨m, none⟩ [] [] ⟨m, some reason⟩
  | next {m : Manifest} {course last : Course} {events more : List Step}
      {state : Attempt.State} {note : Option String} {attempts : List Attempt}
      (dependencyType : String) (r : Record) (time : Timestamp)
      (hconduct : Conduct (selected o m dependencyType r) m events state note course)
      (hrest : Legs o course attempts more last) :
      Legs o ⟨m, none⟩ ((selected o m dependencyType r).ended state note time :: attempts)
        (events ++ more) last

namespace Legs

variable {o : Options} {course course' last : Course} {first second : List Attempt}
  {events more : List Step}

/-- A run that is halted makes no more attempts. -/
theorem of_halted {m : Manifest} {reason : String}
    (h : Legs o ⟨m, some reason⟩ first events last) :
    first = [] ∧ events = [] ∧ last = ⟨m, some reason⟩ := by
  cases h
  exact ⟨rfl, rfl, rfl⟩

theorem append (h : Legs o course first events course') (h' : Legs o course' second more last) :
    Legs o course (first ++ second) (events ++ more) last := by
  induction h with
  | finished => exact h'
  | stopped m reason =>
    obtain ⟨rfl, rfl, rfl⟩ := of_halted h'
    exact .stopped m reason
  | next dependencyType r time hconduct hrest ih =>
    rw [List.append_assoc]
    exact .next dependencyType r time hconduct (ih h')

end Legs

/-- Every call that an attempt's conduct tells of is made in the course of the attempt. -/
theorem Conduct.isOfAttempt {a : Attempt} {m : Manifest} {events : List Step}
    {state : Attempt.State} {note : Option String} {course : Course}
    (h : Conduct a m events state note course) :
    ∀ event ∈ events, event.request.isOfAttempt = true := by
  have hkeep : ∀ {last events}, Keeping a m last events →
      ∀ event ∈ events, event.request.isOfAttempt = true := by
    rintro last events (_ | _ | ⟨-, _ | _ | _ | _⟩) <;> simp [Call.isOfAttempt]
  have hundo : ∀ {last events}, Undoing a m last events →
      ∀ event ∈ events, event.request.isOfAttempt = true := by
    rintro last events (_ | _ | _ | _ | _) <;> simp [Call.isOfAttempt]
  cases h with
  | notApplied => simp [Call.isOfAttempt]
  | kept h => simpa [Call.isOfAttempt] using hkeep h
  | notKept h => simpa [Call.isOfAttempt] using hkeep h
  | undone _ h => simpa [Call.isOfAttempt] using hundo h
  | notUndone _ h => simpa [Call.isOfAttempt] using hundo h

/-- The attempts of a series are legs of the run, if those of each part are. -/
theorem Series.legs {o : Options} {α β : Type}
    {part : α → Manifest → β × Course → List Step → Prop} (attemptsOf : β → List Attempt)
    (hpart : ∀ {a m b course events}, part a m (b, course) events →
      Legs o ⟨m, none⟩ (attemptsOf b) (events.filter (·.request.isOfAttempt)) course)
    {inputs : List α} {course : Course} {last : List β × Course} {events : List Step}
    (h : Series part inputs course last events) :
    Legs o course (last.1.flatMap attemptsOf) (events.filter (·.request.isOfAttempt)) last.2 := by
  induction h with
  | finished course => exact .finished course
  | halted m reason => exact .finished _
  | cancelled m => exact .stopped m _
  | next hfirst hrest ih =>
    -- the question to the user is not part of an attempt
    rw [List.filter_cons_of_neg (by simp [Call.isOfAttempt]), List.filter_append,
      List.flatMap_cons]
    exact (hpart hfirst).append ih

theorem Attempted.legs {o : Options} (hdry : o.dryRun = false) {dependencyType : String}
    {r : Record} {m : Manifest} {a : Attempt} {course : Course} {events : List Step}
    (h : Attempted o dependencyType r m (a, course) events) :
    Legs o ⟨m, none⟩ [a] (events.filter (·.request.isOfAttempt)) course := by
  obtain ⟨time, hplan⟩ | ⟨-, state, note, time, hlast, hconduct⟩ := h
  · rw [hdry] at hplan
    cases hplan
  · dsimp only at hlast hconduct
    rw [hlast, List.filter_eq_self.2 hconduct.isOfAttempt, ← List.append_nil events]
    exact .next dependencyType r time hconduct (.finished course)

theorem Processed.legs {o : Options} (hdry : o.dryRun = false) {dependencyType : String}
    {m : Manifest} {result : SectionResult} {course : Course} {events : List Step}
    (h : Processed o dependencyType m (result, course) events) :
    Legs o ⟨m, none⟩ result.attempts (events.filter (·.request.isOfAttempt)) course := by
  cases h with
  | notReported | notRead => exact .finished _
  | processed hselect hseries =>
    have hlegs := hseries.legs (fun a => [a]) (Attempted.legs hdry)
    rw [List.flatMap_singleton'] at hlegs
    rwa [List.filter_cons_of_neg (by simp [Call.isOfAttempt])]

/-- Whatever the collaborators do, the attempts of a run that does not only plan are legs of it,
together with every call that is made in their course. -/
theorem run_legs (o : Options) (m : Manifest) (hdry : o.dryRun = false) {σ : Type}
    (serve : Collaborator interface σ) (s : σ) :
    Legs o ⟨m, none⟩ ((run o m).exec serve s).1.1.attempts
      ((run o m).journal Call.isOfAttempt serve s)
      ⟨((run o m).exec serve s).1.2, ((run o m).exec serve s).1.1.halted⟩ := by
  have hlegs := (run_ensures o m serve s).legs (·.attempts) (Processed.legs hdry)
  rwa [filter_journal Call.isNotable_of_isOfAttempt] at hlegs

/-- A manifest that declares two packages. -/
def twoPackages : Manifest :=
  ⟨"package.json", "\x7b\"dependencies\":\x7b\"left\":\"^1.0.0\",\"right\":\"2.0.0\"\x7d\x7d",
    .object [("dependencies", .object [("left", .text "^1.0.0"), ("right", .text "2.0.0")])],
    by cbv⟩

/-- A report in which both packages are a patch behind. -/
def twoPatches : Report :=
  ⟨["Package", "Current", "Wanted", "Latest"],
    [["left", "1.0.0", "1.0.1", "1.0.1"], ["right", "2.0.0", "2.0.1", "3.0.0"]]⟩

/-- Collaborators who report the two packages and find that `left` fails its tests. Installing a
former version is answered as given, and all else goes well. -/
def leftFails (added : Except ToolError Unit) : Collaborator interface Unit := fun request _ =>
  match request with
  | .outdated _ => (.ok twoPatches, ())
  | .upgrade _ _ | .addAll | .commit _ | .push | .checkout _ => (.ok (), ())
  | .store _ _ => (.ok (), ())
  | .add _ _ _ => (added, ())
  | .verify a => (.ok (if a.package = "left" then .failed "1 test failed" else .passed), ())
  | .contentOf _ => (.bytes (Text.Utf8.encode twoPackages.content), ())
  | .isCancelled => (false, ())
  | .clock => (default, ())
  | .tell _ => ((), ())

/-- The options of a run over the packages that a project depends on. -/
def dependenciesOnly : Options :=
  { Options.usual with dependencyTypes := ["dependencies"] }

end Patchwise.Upgrade

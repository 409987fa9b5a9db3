import Patchwise.Proofs.Upgrade.Approach
import Patchwise.Proofs.Upgrade.Selection

/-!
# Runs that are repeated

A run makes one attempt for each group of patch steps and leaves the other members to later runs. If
a package that was upgraded is not reported any more, then the next run comes to the next member of
its group, so the members of a group are worked off in the order of the report, one in each run. A
member whose attempt fails stays in front of those behind it.

## Main definitions

- `Upgrade.Remains` — what is left of a report once upgrades are committed
- `Upgrade.commits` — whether the attempt for a package comes to a commit
- `Upgrade.Reruns` — runs over one section, one after the other
- `Upgrade.WorksOff` — what such runs do for the members of a group

## Main results

- `Upgrade.Reruns.waiting_eq` — which members of a group are left to a run
- `Upgrade.reruns_work_off_groups` — how far groups are worked off by some number of runs
-/

namespace Patchwise

/-! ## Working off a list -/

/-- The list without its first member, if that one passes. -/
def workOff {α : Type} (passes : α → Bool) : List α → List α
  | [] => []
  | a :: rest => if passes a then rest else a :: rest

section WorkOff

variable {α : Type} (passes : α → Bool)

/-- Working off goes on up to the first member that does not pass. -/
theorem workOff_drop (members : List α) (k : ℕ) :
    workOff passes (members.drop (min k (members.takeWhile passes).length)) =
      members.drop (min (k + 1) (members.takeWhile passes).length) := by
  -- if the first member passes then a step on the whole list is the step before on the rest
  induction members generalizing k with
  | nil => simp [workOff]
  | cons a rest ih =>
    by_cases ha : passes a = true
    · rw [List.takeWhile_cons_of_pos ha, List.length_cons]
      cases k with
      | zero => simp [workOff, ha]
      | succ k =>
        have hmin : min (k + 1) ((rest.takeWhile passes).length + 1) =
            min k (rest.takeWhile passes).length + 1 := by omega
        have hmin' : min (k + 1 + 1) ((rest.takeWhile passes).length + 1) =
            min (k + 1) (rest.takeWhile passes).length + 1 := by omega
        rw [hmin, hmin', List.drop_succ_cons, List.drop_succ_cons, ih]
    · rw [List.takeWhile_cons_of_neg ha]
      simp [workOff, ha]

theorem filter_eq_workOff [DecidableEq α] {members : List α} (hnodup : members.Nodup) :
    members.filter (fun a => !(decide (members.head? = some a) && passes a)) =
      workOff passes members := by
  cases members with
  | nil => rfl
  | cons first rest =>
    obtain ⟨hfirst, -⟩ := List.nodup_cons.1 hnodup
    have hrest : rest.filter
        (fun a => !(decide ((first :: rest).head? = some a) && passes a)) = rest := by
      rw [List.filter_eq_self]
      intro a ha
      have hne : first ≠ a := fun heq => hfirst (heq ▸ ha)
      simp [hne]
    rw [List.filter_cons, hrest]
    cases hpasses : passes first <;> simp [workOff, hpasses]

theorem le_length_takeWhile_iff {members : List α} {j : ℕ} (hj : j ≤ members.length) :
    j ≤ (members.takeWhile passes).length ↔
      ∀ i < j, ∀ a, members[i]? = some a → passes a = true := by
  induction members generalizing j with
  | nil => simp_all
  | cons first rest ih =>
    cases j with
    | zero => simp
    | succ j =>
      have hj : j ≤ rest.length := Nat.le_of_succ_le_succ hj
      constructor
      · intro hle i hi a ha
        by_cases hfirst : passes first = true
        · rw [List.takeWhile_cons_of_pos hfirst, List.length_cons] at hle
          cases i with
          | zero =>
            obtain rfl : first = a := by simpa using ha
            exact hfirst
          | succ i => exact (ih hj).1 (by omega) i (by omega) a (by simpa using ha)
        · rw [List.takeWhile_cons_of_neg hfirst] at hle
          simp at hle
      · intro hall
        have hfirst : passes first = true := hall 0 (by omega) first (by simp)
        rw [List.takeWhile_cons_of_pos hfirst, List.length_cons]
        have hrest : j ≤ (rest.takeWhile passes).length := by
          apply (ih hj).2
          intro i hi a ha
          exact hall (i + 1) (by omega) a (by simpa using ha)
        omega

theorem lt_length_takeWhile {members : List α} {j : ℕ} {a : α} (ha : members[j]? = some a)
    (hpasses : passes a = true) (hle : j ≤ (members.takeWhile passes).length) :
    j < (members.takeWhile passes).length := by
  obtain ⟨hj, -⟩ := List.getElem?_eq_some_iff.1 ha
  apply (le_length_takeWhile_iff passes hj).2
  intro i hi b hb
  by_cases hij : i = j
  · subst hij
    rw [ha, Option.some.injEq] at hb
    exact hb ▸ hpasses
  · exact (le_length_takeWhile_iff passes hj.le).1 hle i (by omega) b hb

end WorkOff

namespace Upgrade

open Session

/-! ## Which attempts are committed -/

/-- Whether the attempt for a package comes to a commit: the package manager does its part, and so
does the verification. -/
def commits (upgraded : String → Except ToolError Unit)
    (verified : String → Except VerifyError Verdict) (package : String) : Bool :=
  match upgraded package, verified package with
  | .ok (), .ok .passed => true
  | _, _ => false

/-- An answer about an upgrade or a verification is the one for the package. -/
def IsByPackage (upgraded : String → Except ToolError Unit)
    (verified : String → Except VerifyError Verdict) : Step → Prop
  | ⟨.upgrade package _, answer⟩ => answer = upgraded package
  | ⟨.verify a, answer⟩ => answer = verified a.package
  | _ => True

section Commits

variable {upgraded : String → Except ToolError Unit}
  {verified : String → Except VerifyError Verdict}

theorem Conduct.isCommitted_eq {a : Attempt} {m : Manifest} {events : List Step}
    {state : Attempt.State} {note : Option String} {course : Course}
    (h : Conduct a m events state note course) (hgoesOn : course.halted = none)
    (hevents : ∀ event ∈ events, IsByPackage upgraded verified event) :
    decide (state = .committed) = commits upgraded verified a.package := by
  cases h with
  | notApplied cause =>
    have hupgrade : .error cause = upgraded a.package := hevents _ (.head _)
    simp [commits, ← hupgrade]
  | kept =>
    have hupgrade : .ok () = upgraded a.package := hevents _ (.head _)
    have hverify : .ok .passed = verified a.package := hevents _ (.tail _ (.head _))
    simp [commits, ← hupgrade, ← hverify]
  | notKept => cases hgoesOn
  | @undone _ _ answer _ hback | @notUndone _ _ answer _ _ hback =>
    have hverify : answer = verified a.package := hevents _ (.tail _ (.head _))
    unfold commits
    rw [← hverify]
    obtain cause | (_ | reason) := answer
    · simp
    · cases hback
    · simp

/-- If a run is not halted then its attempts are committed as the answers for their packages have
it. -/
theorem Legs.isCommitted_eq {o : Options} {course last : Course} {attempts : List Attempt}
    {events : List Step} (h : Legs o course attempts events last) (hlast : last.halted = none)
    (hevents : ∀ event ∈ events, IsByPackage upgraded verified event) :
    ∀ a ∈ attempts, a.isCommitted = commits upgraded verified a.package := by
  induction h with
  | finished | stopped => simp
  | @next m course last events more state note attempts dependencyType r time hconduct hrest ih =>
    have hgoesOn : course.halted = none := by
      obtain ⟨m', _ | reason⟩ := course
      · rfl
      · obtain ⟨-, -, rfl⟩ := Legs.of_halted hrest
        exact hlast
    obtain ⟨hfirst, hmore⟩ := List.forall_mem_append.1 hevents
    exact List.forall_mem_cons.2 ⟨hconduct.isCommitted_eq hgoesOn hfirst, ih hlast hmore⟩

end Commits

/-! ## Reports of later runs -/

def isCommittedIn (attempts : List Attempt) (r : Record) : Bool :=
  attempts.any fun a => a.record = r && a.isCommitted

/-- What is left of the records of a report: those that were committed are gone, or there is nothing
left to do for their packages, and the others are as before and in the same order. -/
inductive Remains (reach : Reach) (committed : Record → Bool) :
    List Record → List Record → Prop
  | nil : Remains reach committed [] []
  | kept {r : Record} {records left : List Record} (h : committed r = false)
      (hrest : Remains reach committed records left) :
      Remains reach committed (r :: records) (r :: left)
  | removed {r : Record} {records left : List Record} (h : committed r = true)
      (hrest : Remains reach committed records left) :
      Remains reach committed (r :: records) left
  | upToDate {r r' : Record} {records left : List Record} (h : committed r = true)
      (hname : r'.name = r.name) (hdelta : r'.delta reach = .unchanged)
      (hrest : Remains reach committed records left) :
      Remains reach committed (r :: records) (r' :: left)

theorem Remains.filter_eq {reach : Reach} {committed : Record → Bool} {records left : List Record}
    (h : Remains reach committed records left) {keep : Record → Bool}
    (hkeep : ∀ r, keep r = true → r.delta reach = .patch) :
    left.filter keep = (records.filter keep).filter fun r => !committed r := by
  rw [List.filter_filter]
  induction h with
  | nil => rfl
  | kept h hrest ih => rw [List.filter_cons, List.filter_cons, ih, h, Bool.not_false, Bool.true_and]
  | removed h hrest ih => rw [ih, List.filter_cons_of_neg (by simp [h])]
  | @upToDate r r' records left h hname hdelta hrest ih =>
    have hr' : keep r' ≠ true := by
      intro hpatch
      rw [hkeep r' hpatch] at hdelta
      cases hdelta
    rw [List.filter_cons_of_neg hr', ih, List.filter_cons_of_neg (by simp [h])]

/-- The records of patch steps that a run considers. -/
def patches (o : Options) (m : Manifest) (dependencyType : String) (records : List Record) :
    List Record :=
  (considered o m dependencyType records).filter (·.delta o.strategy.reach = .patch)

/-- The records of patch steps with a stem, of which a run comes to the first. -/
def waiting (o : Options) (m : Manifest) (dependencyType : String) (records : List Record)
    (stem : String) : List Record :=
  (patches o m dependencyType records).filter (·.stem = stem)

theorem exists_processed_of_run {o : Options} {dependencyType : String} {m : Manifest} {σ : Type}
    {serve : Collaborator interface σ} {s : σ} (ht : o.dependencyTypes = [dependencyType])
    (hgoesOn : ((run o m).exec serve s).1.1.halted = none) :
    ∃ result course events answer, Processed o dependencyType m (result, course) events ∧
      ((run o m).exec serve s).1.1.attempts = result.attempts ∧ course.halted = none ∧
      events.head? = some ⟨.outdated dependencyType, answer⟩ ∧
      (run o m).journal Call.isOutdated serve s = [⟨.outdated dependencyType, answer⟩] := by
  have hseries := run_ensures o m serve s
  rw [ht] at hseries
  rw [← filter_journal Call.isNotable_of_isOutdated]
  generalize (run o m).journal Call.isNotable serve s = events at hseries ⊢
  generalize (run o m).exec serve s = ran at hseries hgoesOn ⊢
  obtain ⟨⟨⟨strategy, dryRun, started, finished, sections, halted⟩, m'⟩, s'⟩ := ran
  cases hseries with
  | cancelled => cases hgoesOn
  | @next _ _ _ result _ course _ events more hprocessed hrest =>
    cases hrest
    obtain ⟨answer, hhead, hfilter⟩ := hprocessed.filter_isOutdated
    refine ⟨result, _, events, answer, hprocessed, ?_, hgoesOn, hhead, ?_⟩
    · simp [Summary.attempts]
    · rw [List.filter_cons_of_neg (by simp [Call.isOutdated]), List.append_nil, hfilter]

/-- A run over one section is told of the section's report what it is always told. -/
theorem reports_of_run {o : Options} {dependencyType : String} {m : Manifest} {σ : Type}
    {serve : Collaborator interface σ} {s : σ} {report : Report}
    (ht : o.dependencyTypes = [dependencyType])
    (hgoesOn : ((run o m).exec serve s).1.1.halted = none)
    (hserve : ∀ s, (serve (.outdated dependencyType) s).1 = .ok report) :
    (run o m).journal Call.isOutdated serve s = [⟨.outdated dependencyType, .ok report⟩] := by
  obtain ⟨-, -, -, answer, -, -, -, -, hjournal⟩ := exists_processed_of_run ht hgoesOn
  have hanswers : ∀ event ∈ (run o m).journal Call.isOutdated serve s,
      ∀ answer, event = ⟨.outdated dependencyType, answer⟩ → answer = .ok report := by
    apply forall_mem_journal
    rintro request s answer heq
    cases heq
    exact hserve s
  rw [hjournal] at hanswers ⊢
  rw [hanswers _ (List.mem_singleton_self _) answer rfl]

/-- A run over one section that is not halted makes an attempt for each record of a patch step that
leads. -/
theorem map_record_of_run {o : Options} {dependencyType : String} {m : Manifest} {σ : Type}
    {serve : Collaborator interface σ} {s : σ} {report : Report} {records : List Record}
    (ht : o.dependencyTypes = [dependencyType])
    (hgoesOn : ((run o m).exec serve s).1.1.halted = none)
    (hreport : (run o m).journal Call.isOutdated serve s =
      [⟨.outdated dependencyType, .ok report⟩])
    (hrecords : report.records = .ok records) :
    ((run o m).exec serve s).1.1.attempts.map (·.record) =
      Record.leaders (patches o m dependencyType records) := by
  obtain ⟨result, course, events, answer, hprocessed, hmade, hcourse, hhead, hjournal⟩ :=
    exists_processed_of_run ht hgoesOn
  rw [hjournal] at hreport
  rw [(List.cons.inj hreport).1] at hhead
  rw [hmade]
  exact (hprocessed.attempts hhead hrecords).records_eq hcourse

/-! ## Runs one after the other -/

/-- Runs over one section, one after the other. Each of them is told what the one before it left of
the report, finds the same packages declared, and goes on to its end. -/
structure Reruns {σ : Type} (o : Options) (dependencyType : String)
    (serve : ℕ → Collaborator interface σ) (m : ℕ → Manifest) (s : ℕ → σ)
    (records : ℕ → List Record) (n : ℕ) : Prop where
  report_eq : ∀ k < n, ∃ report : Report, report.records = .ok (records k) ∧
    (run o (m k)).journal Call.isOutdated (serve k) (s k) =
      [⟨.outdated dependencyType, .ok report⟩]
  declares_eq : ∀ k < n, ∀ package,
    (m k).declares dependencyType package = (m 0).declares dependencyType package
  halted_eq : ∀ k < n, ((run o (m k)).exec (serve k) (s k)).1.1.halted = none
  remains : ∀ k < n, Remains o.strategy.reach
    (isCommittedIn ((run o (m k)).exec (serve k) (s k)).1.1.attempts) (records k) (records (k + 1))

/-- The attempts of the first of some runs, in order. -/
def attemptsOf {σ : Type} (o : Options) (serve : ℕ → Collaborator interface σ)
    (m : ℕ → Manifest) (s : ℕ → σ) (n : ℕ) : List Attempt :=
  (List.range n).flatMap fun k => ((run o (m k)).exec (serve k) (s k)).1.1.attempts

namespace Reruns

variable {o : Options} {dependencyType : String} {σ : Type}
  {serve : ℕ → Collaborator interface σ} {m : ℕ → Manifest} {s : ℕ → σ}
  {records : ℕ → List Record} {n : ℕ}
  {upgraded : String → Except ToolError Unit} {verified : String → Except VerifyError Verdict}

theorem map_record_eq (h : Reruns o dependencyType serve m s records n)
    (ht : o.dependencyTypes = [dependencyType]) {k : ℕ} (hk : k < n) :
    ((run o (m k)).exec (serve k) (s k)).1.1.attempts.map (·.record) =
      Record.leaders (patches o (m 0) dependencyType (records k)) := by
  obtain ⟨report, hrecords, hreport⟩ := h.report_eq k hk
  have hrun := map_record_of_run ht (h.halted_eq k hk) hreport hrecords
  have hdeclares := h.declares_eq k hk
  simpa only [patches, considered, hdeclares] using hrun

theorem isCommitted_eq (h : Reruns o dependencyType serve m s records n) (hdry : o.dryRun = false)
    (hupgraded : ∀ k package version s,
      (serve k (.upgrade package version) s).1 = upgraded package)
    (hverified : ∀ k a s, (serve k (.verify a) s).1 = verified a.package) {k : ℕ} (hk : k < n) :
    ∀ a ∈ ((run o (m k)).exec (serve k) (s k)).1.1.attempts,
      a.isCommitted = commits upgraded verified a.package := by
  apply (run_legs o (m k) hdry (serve k) (s k)).isCommitted_eq (h.halted_eq k hk)
  apply forall_mem_journal
  intro request s
  cases request with
  | upgrade package version => exact hupgraded k package version s
  | verify a => exact hverified k a s
  | _ => trivial

/-- What a run commits is not left to the next one, and all else is. -/
theorem patches_succ (h : Reruns o dependencyType serve m s records n)
    (ht : o.dependencyTypes = [dependencyType]) {passes : String → Bool} {k : ℕ} (hk : k < n)
    (hpasses : ∀ a ∈ ((run o (m k)).exec (serve k) (s k)).1.1.attempts,
      a.isCommitted = passes a.package) :
    patches o (m 0) dependencyType (records (k + 1)) =
      (patches o (m 0) dependencyType (records k)).filter fun r =>
        !(decide (r ∈ Record.leaders (patches o (m 0) dependencyType (records k))) &&
          passes r.name) := by
  have hcommitted : ∀ r, isCommittedIn ((run o (m k)).exec (serve k) (s k)).1.1.attempts r =
      (decide (r ∈ Record.leaders (patches o (m 0) dependencyType (records k))) &&
        passes r.name) := by
    intro r
    rw [← h.map_record_eq ht hk, Bool.eq_iff_iff]
    simp only [isCommittedIn, List.any_eq_true, Bool.and_eq_true, decide_eq_true_eq, List.mem_map]
    constructor
    · rintro ⟨a, ha, rfl, hcommits⟩
      exact ⟨⟨a, ha, rfl⟩, by rw [← hcommits, hpasses a ha, Attempt.package]⟩
    · rintro ⟨⟨a, ha, rfl⟩, hcommits⟩
      exact ⟨a, ha, rfl, by rw [hpasses a ha, ← hcommits, Attempt.package]⟩
  simp only [patches, considered, List.filter_filter] at hcommitted ⊢
  rw [(h.remains k hk).filter_eq, List.filter_filter]
  · simp only [hcommitted, Bool.and_comm]
  · intro r hr
    simp only [Bool.and_eq_true, decide_eq_true_eq] at hr
    exact hr.1

variable (h : Reruns o dependencyType serve m s records n)
  (ht : o.dependencyTypes = [dependencyType]) {passes : String → Bool}
  (hpasses : ∀ k < n, ∀ a ∈ ((run o (m k)).exec (serve k) (s k)).1.1.attempts,
    a.isCommitted = passes a.package)
  (hnodup : ((records 0).map (·.name)).Nodup)

include h ht hpasses

/-- A run takes the first one of a stem away, if its attempt is committed. -/
theorem waiting_succ {stem : String} {k : ℕ} (hk : k < n)
    (hwaiting : (waiting o (m 0) dependencyType (records k) stem).Nodup) :
    waiting o (m 0) dependencyType (records (k + 1)) stem =
      workOff (fun r => passes r.name) (waiting o (m 0) dependencyType (records k) stem) := by
  -- of the records with the stem only the first one leads, so only that can be missing next
  rw [← filter_eq_workOff _ hwaiting, waiting, h.patches_succ ht hk (hpasses k hk), waiting,
    List.filter_filter, List.filter_filter]
  apply List.filter_congr
  intro r hr
  by_cases hstem : r.stem = stem
  · subst hstem
    simp only [Group.mem_leaders_iff, Bool.and_comm]
  · simp [hstem]

include hnodup

omit h ht hpasses in
theorem nodup_waiting (stem : String) :
    ((waiting o (m 0) dependencyType (records 0) stem).map (·.name)).Nodup := by
  apply List.Nodup.sublist _ hnodup
  apply List.Sublist.map
  exact List.filter_sublist.trans (List.filter_sublist.trans List.filter_sublist)

variable {stem : String} {members : List Record}
  (hmembers : waiting o (m 0) dependencyType (records 0) stem = members)

include hmembers

/-- The first runs work a stem off until one of its attempts is not committed. -/
theorem waiting_eq {k : ℕ} (hk : k ≤ n) :
    waiting o (m 0) dependencyType (records k) stem =
      members.drop (min k (members.takeWhile fun r => passes r.name).length) := by
  induction k with
  | zero => rw [hmembers, Nat.zero_min, List.drop_zero]
  | succ k ih =>
    have hwaiting := ih (Nat.le_of_succ_le hk)
    have hnodupMembers : members.Nodup := hmembers ▸ (nodup_waiting hnodup stem).of_map _
    have hleft : (members.drop (min k (members.takeWhile fun r => passes r.name).length)).Nodup :=
      List.Nodup.sublist (List.drop_sublist _ _) hnodupMembers
    rw [h.waiting_succ ht hpasses hk (hwaiting ▸ hleft), hwaiting]
    exact workOff_drop _ _ k

/-- A run comes to the member that the runs before it worked the stem off to. -/
theorem mem_leaders_iff {k j : ℕ} (hk : k < n) {r : Record} (hr : members[j]? = some r) :
    r ∈ Record.leaders (patches o (m 0) dependencyType (records k)) ↔
      min k (members.takeWhile fun r => passes r.name).length = j := by
  have hmem : r ∈ waiting o (m 0) dependencyType (records 0) stem :=
    hmembers ▸ List.mem_of_getElem? hr
  have hstem : r.stem = stem := of_decide_eq_true (List.mem_filter.1 hmem).2
  have hwaiting := h.waiting_eq ht hpasses hnodup hmembers hk.le
  have hnodupMembers : members.Nodup := hmembers ▸ (nodup_waiting hnodup stem).of_map _
  rw [Group.mem_leaders_iff, hstem]
  change (waiting o (m 0) dependencyType (records k) stem).head? = some r ↔ _
  rw [hwaiting, List.head?_drop]
  obtain ⟨hj, -⟩ := List.getElem?_eq_some_iff.1 hr
  constructor
  · intro hhead
    exact ((List.getElem?_inj hj hnodupMembers).1 (hr.trans hhead.symm)).symm
  · rintro rfl
    exact hr

theorem eq_of_name_eq {k : ℕ} (hk : k < n) {r r' : Record} (hr : r ∈ members)
    (hr' : r' ∈ patches o (m 0) dependencyType (records k)) (hname : r'.name = r.name) :
    r' = r := by
  have hstem : r'.stem = stem := by
    rw [← hmembers] at hr
    rw [← of_decide_eq_true (List.mem_filter.1 hr).2]
    exact congrArg Record.stemOf hname
  have hmem : r' ∈ members := by
    have hwaits : r' ∈ waiting o (m 0) dependencyType (records k) stem :=
      List.mem_filter.2 ⟨hr', decide_eq_true hstem⟩
    rw [h.waiting_eq ht hpasses hnodup hmembers hk.le] at hwaits
    exact List.mem_of_mem_drop hwaits
  exact List.inj_on_of_nodup_map (hmembers ▸ nodup_waiting hnodup stem) hmem hr hname

/-- A run attempts a member once if it comes to it, and otherwise not at all. -/
theorem count_run {k j : ℕ} (hk : k < n) {r : Record} (hr : members[j]? = some r) :
    (((run o (m k)).exec (serve k) (s k)).1.1.attempts.map (·.package)).count r.name =
      if min k (members.takeWhile fun r => passes r.name).length = j then 1 else 0 := by
  have hpackages : ((run o (m k)).exec (serve k) (s k)).1.1.attempts.map (·.package) =
      (Record.leaders (patches o (m 0) dependencyType (records k))).map (·.name) := by
    rw [← h.map_record_eq ht hk, List.map_map]
    rfl
  have hleads := h.mem_leaders_iff ht hpasses hnodup hmembers hk hr
  rw [hpackages]
  split
  next hcomes =>
    have hmem := List.mem_map_of_mem (f := (·.name)) (hleads.2 hcomes)
    exact List.count_eq_one_of_mem (Record.nodup_name_leaders _) hmem
  next hcomes =>
    apply List.count_eq_zero_of_not_mem
    intro hname
    obtain ⟨r', hr', hname⟩ := List.mem_map.1 hname
    obtain rfl : r' = r := h.eq_of_name_eq ht hpasses hnodup hmembers hk
      (List.mem_of_getElem? hr) (Record.mem_of_mem_leaders hr') hname
    exact hcomes (hleads.1 hr')

theorem count_eq {j : ℕ} {r : Record} (hr : members[j]? = some r) :
    ((attemptsOf o serve m s n).map (·.package)).count r.name =
      (List.range n).countP fun k =>
        min k (members.takeWhile fun r => passes r.name).length = j := by
  -- the induction is on a number of runs up to `n`, for which the hypotheses are given
  have hfirst : ∀ k ≤ n, ((attemptsOf o serve m s k).map (·.package)).count r.name =
      (List.range k).countP fun k =>
        min k (members.takeWhile fun r => passes r.name).length = j := by
    intro k hk
    induction k with
    | zero => rfl
    | succ k ih =>
      have hrun := h.count_run ht hpasses hnodup hmembers hk hr
      rw [attemptsOf, List.range_succ, List.flatMap_append, List.map_append, List.count_append,
        List.flatMap_singleton, hrun, List.countP_append, List.countP_singleton,
        ← ih (Nat.le_of_succ_le hk), attemptsOf]
      simp only [decide_eq_true_eq]
  exact hfirst n (Nat.le_refl n)

theorem mem_attempted_iff {j : ℕ} {r : Record} (hr : members[j]? = some r) :
    r.name ∈ (attemptsOf o serve m s n).map (·.package) ↔
      j < n ∧ ∀ i < j, ∀ r', members[i]? = some r' → passes r'.name = true := by
  have hj : j ≤ members.length := (List.getElem?_eq_some_iff.1 hr).1.le
  rw [← List.count_pos_iff, h.count_eq ht hpasses hnodup hmembers hr, List.countP_pos_iff,
    ← le_length_takeWhile_iff (fun r => passes r.name) hj]
  simp only [List.mem_range, decide_eq_true_eq]
  constructor
  · rintro ⟨k, hk, rfl⟩
    omega
  · rintro ⟨hjn, hle⟩
    exact ⟨j, hjn, Nat.min_eq_left hle⟩

/-- A member whose attempt is committed is not attempted again. -/
theorem count_eq_one {j : ℕ} {r : Record} (hr : members[j]? = some r) (hpasses' : passes r.name)
    (hattempted : r.name ∈ (attemptsOf o serve m s n).map (·.package)) :
    ((attemptsOf o serve m s n).map (·.package)).count r.name = 1 := by
  obtain ⟨hjn, hall⟩ := (h.mem_attempted_iff ht hpasses hnodup hmembers hr).1 hattempted
  have hj : j ≤ members.length := (List.getElem?_eq_some_iff.1 hr).1.le
  have hlt : j < (members.takeWhile fun r => passes r.name).length :=
    lt_length_takeWhile _ hr hpasses' ((le_length_takeWhile_iff _ hj).2 hall)
  have hruns : ∀ k, decide (min k (members.takeWhile fun r => passes r.name).length = j) =
      (k == j) := by
    intro k
    rw [Bool.eq_iff_iff, decide_eq_true_eq, beq_iff_eq]
    omega
  rw [h.count_eq ht hpasses hnodup hmembers hr]
  simp only [hruns]
  exact List.count_eq_one_of_mem List.nodup_range (List.mem_range.2 hjn)

/-- If every attempt is committed then as many runs as there are members leave none of them. -/
theorem waiting_eq_nil (hall : ∀ a ∈ attemptsOf o serve m s n, a.isCommitted = true)
    (hlength : members.length ≤ n) : waiting o (m 0) dependencyType (records n) stem = [] := by
  rw [h.waiting_eq ht hpasses hnodup hmembers (Nat.le_refl n), List.drop_eq_nil_iff]
  have hle : members.length ≤ (members.takeWhile fun r => passes r.name).length := by
    by_contra hshort
    have hlt := Nat.lt_of_not_le hshort
    generalize hc : (members.takeWhile fun r => passes r.name).length = c at hlt
    -- the member at which the stem would stay is attempted, and so its attempt is committed
    have hr : members[c]? = some members[c] := List.getElem?_eq_getElem hlt
    have hattempted : members[c].name ∈ (attemptsOf o serve m s n).map (·.package) := by
      rw [h.mem_attempted_iff ht hpasses hnodup hmembers hr]
      exact ⟨by omega, (le_length_takeWhile_iff _ hlt.le).1 hc.ge⟩
    obtain ⟨a, ha, hname⟩ := List.mem_map.1 hattempted
    obtain ⟨k, hk, hrun⟩ := List.mem_flatMap.1 ha
    have hcommitted : passes members[c].name = true := by
      rw [← hname, ← hpasses k (List.mem_range.1 hk) a hrun]
      exact hall a ha
    have hbeyond := lt_length_takeWhile (fun r : Record => passes r.name) hr hcommitted hc.ge
    omega
  omega

end Reruns

/-- What runs one after the other do for the members of a group. -/
structure WorksOff (passes : String → Bool) (members : List Record) (attempts : List Attempt)
    (n : ℕ) : Prop where
  /-- A member is attempted in time if all those in front of it are committed. -/
  attempted_iff : ∀ {j : ℕ} {r : Record}, members[j]? = some r →
    (r.name ∈ attempts.map (·.package) ↔
      j < n ∧ ∀ i < j, ∀ r', members[i]? = some r' → passes r'.name = true)
  attempted_once : ∀ r ∈ members, passes r.name = true → r.name ∈ attempts.map (·.package) →
    (attempts.map (·.package)).count r.name = 1
  /-- A member whose attempt fails keeps those behind it from being attempted. -/
  not_attempted : ∀ {i j : ℕ} {r r' : Record}, members[i]? = some r → members[j]? = some r' →
    i < j → passes r.name = false → r'.name ∉ attempts.map (·.package)

/-- How far groups are worked off by repeated runs, if the outcomes of applying and of verifying an
upgrade only depend on its package. Each run comes to one more member of every group of patch steps,
in the order of the report, as long as the attempts for those in front of it are committed. If all
attempts are, then no patch step is left after as many runs as the largest group has members. -/
theorem reruns_work_off_groups (o : Options) (hdry : o.dryRun = false) {dependencyType : String}
    (ht : o.dependencyTypes = [dependencyType]) {σ : Type}
    (serve : ℕ → Collaborator interface σ)
    {upgraded : String → Except ToolError Unit} {verified : String → Except VerifyError Verdict}
    (hupgraded : ∀ k package version s,
      (serve k (.upgrade package version) s).1 = upgraded package)
    (hverified : ∀ k a s, (serve k (.verify a) s).1 = verified a.package)
    (m : ℕ → Manifest) (s : ℕ → σ) (records : ℕ → List Record) (n : ℕ)
    (h : Reruns o dependencyType serve m s records n)
    (hnodup : ((records 0).map (·.name)).Nodup) :
    (∀ a ∈ attemptsOf o serve m s n, a.isCommitted = commits upgraded verified a.package) ∧
    (∀ g ∈ Group.partition (considered o (m 0) dependencyType (records 0)) o.strategy.reach,
      g.severity = .patch →
        WorksOff (commits upgraded verified) g.members (attemptsOf o serve m s n) n) ∧
    ((∀ a ∈ attemptsOf o serve m s n, a.isCommitted = true) →
      (∀ g ∈ Group.partition (considered o (m 0) dependencyType (records 0)) o.strategy.reach,
        g.severity = .patch → g.members.length ≤ n) →
      ∀ r ∈ considered o (m 0) dependencyType (records n), r.delta o.strategy.reach ≠ .patch) := by
  have hpasses : ∀ k < n, ∀ a ∈ ((run o (m k)).exec (serve k) (s k)).1.1.attempts,
      a.isCommitted = commits upgraded verified a.package :=
    fun k hk => h.isCommitted_eq hdry hupgraded hverified hk
  have hmembers : ∀ g ∈ Group.partition (considered o (m 0) dependencyType (records 0))
      o.strategy.reach, g.severity = .patch →
      waiting o (m 0) dependencyType (records 0) g.stem = g.members := by
    intro g hg hpatch
    obtain ⟨-, hmembers⟩ := Group.mem_partition_iff.1 hg
    rw [hmembers, hpatch]
    rfl
  refine ⟨?_, ?_, ?_⟩
  · intro a ha
    obtain ⟨k, hk, hrun⟩ := List.mem_flatMap.1 ha
    exact hpasses k (List.mem_range.1 hk) a hrun
  · intro g hg hpatch
    have hwaiting := hmembers g hg hpatch
    refine ⟨fun hr => h.mem_attempted_iff ht hpasses hnodup hwaiting hr, ?_, ?_⟩
    · intro r hmem hcommits hattempted
      obtain ⟨j, hr⟩ := List.mem_iff_getElem?.1 hmem
      exact h.count_eq_one ht hpasses hnodup hwaiting hr hcommits hattempted
    · intro i j r r' hr hr' hij hfails hattempted
      obtain ⟨-, hall⟩ := (h.mem_attempted_iff ht hpasses hnodup hwaiting hr').1 hattempted
      rw [hall i hij r hr] at hfails
      cases hfails
  · intro hall hlength r hr hpatch
    have hmem : r ∈ waiting o (m 0) dependencyType (records n) r.stem :=
      List.mem_filter.2
        ⟨List.mem_filter.2 ⟨hr, decide_eq_true hpatch⟩, decide_eq_true rfl⟩
    have hfirst : r ∈ waiting o (m 0) dependencyType (records 0) r.stem := by
      rw [h.waiting_eq ht hpasses hnodup rfl (Nat.le_refl n)] at hmem
      exact List.mem_of_mem_drop hmem
    have hgroup : (⟨.patch, r.stem, waiting o (m 0) dependencyType (records 0) r.stem⟩ : Group) ∈
        Group.partition (considered o (m 0) dependencyType (records 0)) o.strategy.reach :=
      Group.mem_partition_iff.2 ⟨List.mem_map_of_mem (List.mem_of_mem_filter hfirst), rfl⟩
    rw [h.waiting_eq_nil ht hpasses hnodup rfl hall (hlength _ hgroup rfl)] at hmem
    cases hmem

/-- A manifest that declares three packages of one stem. -/
def threeRelated : Manifest :=
  ⟨"package.json",
    "\x7b\"dependencies\":\x7b\"vue\":\"1.0.0\",\"vue-cli\":\"1.0.0\",\"vue-ui\":\"1.0.0\"\x7d\x7d",
    .object [("dependencies", .object
      [("vue", .text "1.0.0"), ("vue-cli", .text "1.0.0"), ("vue-ui", .text "1.0.0")])],
    by cbv⟩

/-- What is reported to the first run over them, and afterwards. -/
def relatedLeft : ℕ → List String
  | 0 => ["vue", "vue-cli", "vue-ui"]
  | _ => ["vue-cli", "vue-ui"]

def patchRecord (package : String) : Record :=
  ⟨package, "1.0.0", "1.0.1", "1.0.1", .patch, .patch, none⟩

def applicable (package : String) : Except ToolError Unit :=
  if package = "vue-cli" then .error (.failed "npm install" "conflict") else .ok ()

def wellTested (_ : String) : Except VerifyError Verdict :=
  .ok .passed

/-- Collaborators who report what is left and find fault with `vue-cli` alone. -/
def reporting (k : ℕ) : Collaborator interface Unit := fun request _ =>
  match request with
  | .outdated _ =>
    (.ok ⟨["Package", "Current", "Wanted", "Latest"],
      (relatedLeft k).map fun package => [package, "1.0.0", "1.0.1", "1.0.1"]⟩, ())
  | .upgrade package _ => (applicable package, ())
  | .verify a => (wellTested a.package, ())
  | request => leftFails (.ok ()) request ()

theorem reruns_related : Reruns dependenciesOnly "dependencies" reporting (fun _ => threeRelated)
    (fun _ => ()) (fun k => (relatedLeft k).map patchRecord) 2 := by
  have hgoesOn : ∀ k < 2,
      ((run dependenciesOnly threeRelated).exec (reporting k) ()).1.1.halted = none := by
    decide +kernel
  refine ⟨fun k hk => ⟨_, ?_, reports_of_run rfl (hgoesOn k hk) fun _ => rfl⟩,
    fun _ _ _ => rfl, hgoesOn, ?_⟩
  · match k, hk with
    | 0, _ | 1, _ => rfl
  · have hcommitted : ∀ k < 2, ((relatedLeft k).map patchRecord).map (isCommittedIn
        ((run dependenciesOnly threeRelated).exec (reporting k) ()).1.1.attempts) =
          (relatedLeft k).map (· == "vue") := by
      decide +kernel
    intro k hk
    have hk' := hcommitted k hk
    generalize isCommittedIn ((run dependenciesOnly threeRelated).exec (reporting k)
      ()).1.1.attempts = committed at hk' ⊢
    match k, hk with
    | 0, _ =>
      obtain ⟨hvue, hcli, hui, -⟩ := by
        simpa only [relatedLeft, List.map, List.cons.injEq] using hk'
      exact .removed hvue (.kept hcli (.kept hui .nil))
    | 1, _ =>
      obtain ⟨hcli, hui, -⟩ := by
        simpa only [relatedLeft, List.map, List.cons.injEq] using hk'
      exact .kept hcli (.kept hui .nil)

/-- The first of three packages of a stem is kept by the first run, the second one keeps failing,
and so the third one is not attempted. -/
theorem reruns_work_off_groups_related :
    dependenciesOnly.dryRun = false ∧ dependenciesOnly.dependencyTypes = ["dependencies"] ∧
      (∀ k package version s, (reporting k (.upgrade package version) s).1 = applicable package) ∧
      (∀ k a s, (reporting k (.verify a) s).1 = wellTested a.package) ∧
      Reruns dependenciesOnly "dependencies" reporting (fun _ => threeRelated) (fun _ => ())
        (fun k => (relatedLeft k).map patchRecord) 2 ∧
      (((relatedLeft 0).map patchRecord).map (·.name)).Nodup ∧
      ((attemptsOf dependenciesOnly reporting (fun _ => threeRelated) (fun _ => ()) 2).map
        (·.package)).count "vue" = 1 ∧
      "vue-cli" ∈ (attemptsOf dependenciesOnly reporting (fun _ => threeRelated) (fun _ => ())
        2).map (·.package) ∧
      "vue-ui" ∉ (attemptsOf dependenciesOnly reporting (fun _ => threeRelated) (fun _ => ())
        2).map (·.package) := by
  have hverified : ∀ k a s, (reporting k (.verify a) s).1 = wellTested a.package :=
    fun _ _ _ => rfl
  obtain ⟨-, hgroups, -⟩ := reruns_work_off_groups dependenciesOnly rfl rfl reporting
    (fun _ _ _ _ => rfl) hverified (fun _ => threeRelated) (fun _ => ())
    (fun k => (relatedLeft k).map patchRecord) 2 reruns_related (by decide)
  have hworks := hgroups ⟨.patch, "vue", (relatedLeft 0).map patchRecord⟩ (by decide +kernel) rfl
  have hvue : ((relatedLeft 0).map patchRecord)[0]? = some (patchRecord "vue") := rfl
  have hcli : ((relatedLeft 0).map patchRecord)[1]? = some (patchRecord "vue-cli") := rfl
  have hui : ((relatedLeft 0).map patchRecord)[2]? = some (patchRecord "vue-ui") := rfl
  refine ⟨rfl, rfl, fun _ _ _ _ => rfl, hverified, reruns_related, by decide, ?_, ?_, ?_⟩
  · have hattempted := (hworks.attempted_iff hvue).2 ⟨by decide, nofun⟩
    exact hworks.attempted_once (patchRecord "vue") (.head _) rfl hattempted
  · refine (hworks.attempted_iff hcli).2 ⟨by decide, fun i hi r hr => ?_⟩
    obtain rfl : i = 0 := by omega
    obtain rfl : patchRecord "vue" = r := Option.some.inj hr
    rfl
  · exact hworks.not_attempted hcli hui (by decide) rfl

end Upgrade

end Patchwise

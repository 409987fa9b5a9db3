import Patchwise.Pipeline

/-!
# The status of a pipeline

The statuses of its workflows add up to the status of a pipeline, whatever their order is and
however often one is told: one failure fails it, and it takes a workflow and the success of all to
succeed. The workflows can be gone through one by one, stopping at the first that failed, and the
statuses of two lists of workflows tell the status of both together.

## Main definitions

- `Pipeline.Status.Fails` — the statuses of a workflow that fail its pipeline
- `Pipeline.Status.Tally` — what is known after some workflows
- `Pipeline.Status.inOnePass` — the status that is found workflow by workflow
- `Pipeline.Status.both` — the status of two lists of workflows together
- `Pipeline.Status.AddsUp` — the laws of the status of a list of workflows

## Main results

- `Pipeline.Status.inOnePass_eq` — one pass finds the status of a pipeline
- `Pipeline.Status.ofWorkflows_addsUp` — the laws hold for all lists of workflows
-/

namespace Patchwise.Pipeline.Status

variable {statuses others : List String}

/-! ## When a pipeline fails and when it succeeds -/

/-- The statuses of a workflow that fail its pipeline. -/
def Fails (status : String) : Prop :=
  status = "failed" ∨ status = "error" ∨ status = "failing" ∨ status = "canceled" ∨
    status = "unauthorized" ∨ status = "not_run"

theorem fails_iff {status : String} : Fails status ↔ failing.contains status = true := by
  simp [Fails, failing]

theorem ofWorkflows_eq_failed_iff : ofWorkflows statuses = failed ↔ ∃ s ∈ statuses, Fails s := by
  simp only [fails_iff, ← List.any_eq_true, ofWorkflows]
  split
  next hfails => simp [hfails]
  next hfails => split <;> simp [hfails]

theorem not_fails_succeeded : ¬ Fails succeeded := by
  simp [Fails, succeeded]

theorem ofWorkflows_eq_success_iff :
    ofWorkflows statuses = success ↔ statuses ≠ [] ∧ ∀ s ∈ statuses, s = succeeded := by
  have hall : statuses.all (· == succeeded) = true ↔ ∀ s ∈ statuses, s = succeeded := by
    simp [List.all_eq_true]
  rw [ofWorkflows]
  split
  next hfails =>
    refine iff_of_false (by simp) fun ⟨_, hsucceeded⟩ => ?_
    obtain ⟨s, hs, hfail⟩ := List.any_eq_true.1 hfails
    rw [hsucceeded s hs] at hfail
    exact not_fails_succeeded (fails_iff.2 hfail)
  next =>
    rw [← hall]
    cases statuses <;> simp

theorem eq_of_iff {s t : Status} (hfailed : s = failed ↔ t = failed)
    (hsuccess : s = success ↔ t = success) : s = t := by
  cases s <;> cases t <;> simp_all

/-- Neither the order of the workflows counts nor how often a status is told. -/
theorem ofWorkflows_congr (h : ∀ s, s ∈ statuses ↔ s ∈ others) :
    ofWorkflows statuses = ofWorkflows others := by
  apply eq_of_iff
  · simp only [ofWorkflows_eq_failed_iff, h]
  · simp only [ofWorkflows_eq_success_iff, h, ne_eq, List.eq_nil_iff_forall_not_mem]

/-! ## One pass over the workflows -/

/-- What is known after some workflows none of which failed. -/
structure Tally where
  /-- Whether there was a workflow. -/
  seen : Bool
  allSucceeded : Bool

namespace Tally

/-- What is known before the first workflow. -/
def blank : Tally := ⟨false, true⟩

/-- Takes one workflow more into account. One that failed settles the status of the pipeline. -/
def add (tally : Tally) (status : String) : Except Status Tally :=
  if status = succeeded then .ok { tally with seen := true }
  else if failing.contains status then .error failed
  else .ok { seen := true, allSucceeded := false }

/-- The status of a pipeline that has no more workflows. -/
def total (tally : Tally) : Status :=
  if tally.seen && tally.allSucceeded then success else running

theorem add_eq (tally : Tally) (status : String) :
    tally.add status =
      if failing.contains status then .error failed
      else .ok ⟨true, tally.allSucceeded && status == succeeded⟩ := by
  by_cases hsuccess : status = succeeded
  · have hfails : failing.contains succeeded = false :=
      Bool.eq_false_iff.2 fun h => not_fails_succeeded (fails_iff.2 h)
    rw [add, if_pos hsuccess, hsuccess, hfails, beq_self_eq_true, Bool.and_true]
    rfl
  · rw [add, if_neg hsuccess, beq_false_of_ne hsuccess, Bool.and_false]

/-- After some workflows it is known whether there was one and whether all succeeded, unless one
failed. -/
theorem foldlM_add (tally : Tally) (statuses : List String) :
    statuses.foldlM add tally =
      if statuses.any failing.contains then .error failed
      else .ok ⟨tally.seen || !statuses.isEmpty,
        tally.allSucceeded && statuses.all (· == succeeded)⟩ := by
  induction statuses generalizing tally with
  | nil => simp [pure, Except.pure]
  | cons status rest ih =>
    rw [List.foldlM_cons, add_eq, List.any_cons]
    cases failing.contains status with
    -- the pass ends here, whatever workflows follow
    | true => rfl
    | false =>
      change rest.foldlM add _ = _
      rw [ih]
      simp [Bool.and_assoc]

end Tally

/-- The status that is found workflow by workflow. Those behind the first that failed are not looked
at. -/
def inOnePass (statuses : List String) : Status :=
  match statuses.foldlM Tally.add Tally.blank with
  | .ok tally => tally.total
  | .error status => status

theorem inOnePass_eq (statuses : List String) : inOnePass statuses = ofWorkflows statuses := by
  rw [inOnePass, Tally.foldlM_add, ofWorkflows]
  cases statuses.any failing.contains with
  | true => rfl
  | false => simp [Tally.total, Tally.blank]

/-! ## Two lists of workflows -/

/-- The status of two lists of workflows together, if both have any. -/
def both : Status → Status → Status
  | failed, _ | _, failed => failed
  | success, success => success
  | _, _ => running

theorem both_eq_failed_iff {s t : Status} : both s t = failed ↔ s = failed ∨ t = failed := by
  cases s <;> cases t <;> decide

theorem both_eq_success_iff {s t : Status} : both s t = success ↔ s = success ∧ t = success := by
  cases s <;> cases t <;> decide

theorem ofWorkflows_append (h : statuses ≠ []) (h' : others ≠ []) :
    ofWorkflows (statuses ++ others) = both (ofWorkflows statuses) (ofWorkflows others) := by
  apply eq_of_iff
  · simp only [both_eq_failed_iff, ofWorkflows_eq_failed_iff, List.mem_append]
    grind
  · simp only [both_eq_success_iff, ofWorkflows_eq_success_iff, List.forall_mem_append]
    simp [h, h']

/-- Without workflows in one of the lists, its status does not tell what there is to add. -/
example : ofWorkflows ([] ++ ["success"]) ≠ both (ofWorkflows []) (ofWorkflows ["success"]) := by
  decide

/-! ## More workflows -/

/-- A failure stays one. -/
theorem ofWorkflows_eq_failed_of_subset (h : statuses ⊆ others)
    (hfailed : ofWorkflows statuses = failed) : ofWorkflows others = failed := by
  rw [ofWorkflows_eq_failed_iff] at hfailed ⊢
  obtain ⟨s, hs, hfails⟩ := hfailed
  exact ⟨s, h hs, hfails⟩

/-- More workflows can succeed only if these have. -/
theorem ofWorkflows_eq_success_of_subset (h : statuses ⊆ others) (hsome : statuses ≠ [])
    (hsuccess : ofWorkflows others = success) : ofWorkflows statuses = success := by
  rw [ofWorkflows_eq_success_iff] at hsuccess ⊢
  exact ⟨hsome, fun s hs => hsuccess.2 s (h hs)⟩

/-! ## The laws -/

/-- The laws of the status of a list of workflows. -/
structure AddsUp (total : List String → Status) : Prop where
  failed_iff : ∀ statuses, total statuses = failed ↔ ∃ s ∈ statuses, Fails s
  success_iff : ∀ statuses, total statuses = success ↔
    statuses ≠ [] ∧ ∀ s ∈ statuses, s = "success"
  running_iff : ∀ statuses, total statuses = running ↔
    (¬ ∃ s ∈ statuses, Fails s) ∧ ¬ (statuses ≠ [] ∧ ∀ s ∈ statuses, s = "success")
  /-- The status is found in one pass that stops at the first failure. -/
  inOnePass_eq : ∀ statuses, inOnePass statuses = total statuses
  perm : ∀ statuses others, statuses.Perm others → total statuses = total others
  /-- It does not count how often a status is told. -/
  congr : ∀ statuses others, (∀ s, s ∈ statuses ↔ s ∈ others) → total statuses = total others
  /-- One workflow more, wherever it stands, leaves a failure a failure. -/
  failed_insert : ∀ before s after, total (before ++ after) = failed →
    total (before ++ s :: after) = failed
  /-- Workflows that are still running do not succeed by one workflow more. -/
  running_insert : ∀ before s after, before ++ after ≠ [] → total (before ++ after) = running →
    total (before ++ s :: after) ≠ success
  append : ∀ statuses others, statuses ≠ [] → others ≠ [] →
    total (statuses ++ others) = both (total statuses) (total others)

/-- The laws hold for all lists of workflows, whatever their statuses are. -/
theorem ofWorkflows_addsUp : AddsUp ofWorkflows where
  failed_iff _ := ofWorkflows_eq_failed_iff
  success_iff _ := ofWorkflows_eq_success_iff
  running_iff statuses := by
    rw [← ofWorkflows_eq_failed_iff, ← succeeded, ← ofWorkflows_eq_success_iff]
    cases ofWorkflows statuses <;> decide
  inOnePass_eq := inOnePass_eq
  perm _ _ h := ofWorkflows_congr fun _ => h.mem_iff
  congr _ _ := ofWorkflows_congr
  failed_insert before s after := ofWorkflows_eq_failed_of_subset (by simp)
  running_insert before s after hsome hrunning hsuccess := by
    have hbefore := ofWorkflows_eq_success_of_subset (by simp) hsome hsuccess
    rw [hrunning] at hbefore
    cases hbefore
  append _ _ := ofWorkflows_append

end Patchwise.Pipeline.Status

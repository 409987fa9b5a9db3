import Patchwise.Proofs.Group

/-!
# Groups in one pass

The groups of a list of records are collected by sorting the records by severity and placing them
one after the other: each record joins the group of its severity and stem, or begins a new one
behind all others. What comes of it depends on the sort being stable.

## Main results

- `Group.filter_sorted` — records of one severity stay in the order of the list
- `Group.sorted_eq_flatMap` — the sorted list is the records of one severity after another
- `Group.foldl_place` — what placing records of one severity adds to the groups
- `Group.inOnePass_eq_partition` — the groups are those of the partition
-/

namespace Patchwise.Group

variable {records : List Record} {reach : Reach}

/-! ## The sorted list -/

/-- If no record of a class stands behind one that is not of the class, those of the class are the
front of the list. -/
theorem filter_append_filter_not {p : Record → Bool}
    (h : records.Pairwise fun a b => p b = true → p a = true) :
    records.filter p ++ records.filter (fun r => !p r) = records := by
  induction records with
  | nil => rfl
  | cons a rest ih =>
    obtain ⟨ha, hrest⟩ := List.pairwise_cons.1 h
    cases hp : p a with
    | true =>
      rw [List.filter_cons_of_pos hp, List.filter_cons_of_neg (by simp [hp]), List.cons_append,
        ih hrest]
    | false =>
      have hnone : ∀ b ∈ a :: rest, p b = false :=
        List.forall_mem_cons.2 ⟨hp, fun b hb => Bool.eq_false_iff.2 fun hpb => by
          simp [ha b hb hpb] at hp⟩
      rw [List.filter_eq_nil_iff.2 fun b hb => by simp [hnone b hb], List.nil_append]
      exact List.filter_eq_self.2 fun b hb => by simp [hnone b hb]

/-- A list in the order of severities is what it has of the first one, followed by what it has of
the next one, and so on. -/
theorem flatMap_filter_eq_self {severities : List Severity}
    (hordered : severities.Pairwise fun s t => s.rank < t.rank)
    (hmem : ∀ r ∈ records, r.delta reach ∈ severities)
    (hsorted : records.Pairwise fun a b => (a.delta reach).rank ≤ (b.delta reach).rank) :
    (severities.flatMap fun severity => records.filter (·.delta reach = severity)) = records := by
  induction severities generalizing records with
  | nil =>
    cases records with
    | nil => rfl
    | cons r rest => exact absurd (hmem r List.mem_cons_self) List.not_mem_nil
  | cons first severities ih =>
    obtain ⟨hfirst, hrest⟩ := List.pairwise_cons.1 hordered
    have hlowest : ∀ r ∈ records, first.rank ≤ (r.delta reach).rank := by
      intro r hr
      obtain heq | hlater := List.mem_cons.1 (hmem r hr)
      · rw [heq]
      · exact (hfirst _ hlater).le
    have hfront : records.Pairwise fun a b =>
        decide (b.delta reach = first) = true → decide (a.delta reach = first) = true := by
      refine hsorted.imp_of_mem fun {a b} ha _ hle hb => ?_
      rw [of_decide_eq_true hb] at hle
      exact decide_eq_true (Severity.rank_injective (Nat.le_antisymm hle (hlowest a ha)))
    have hlater : ∀ severity ∈ severities,
        (records.filter fun r => !decide (r.delta reach = first)).filter
          (·.delta reach = severity) = records.filter (·.delta reach = severity) := by
      intro severity hseverity
      have hne : severity ≠ first := fun heq => (heq ▸ hfirst severity hseverity).false
      rw [List.filter_filter]
      exact List.filter_congr fun r _ => by grind
    have hothers : ∀ r ∈ records.filter fun r => !decide (r.delta reach = first),
        r.delta reach ∈ severities := by
      intro r hr
      obtain ⟨hr, hne⟩ := List.mem_filter.1 hr
      exact (List.mem_cons.1 (hmem r hr)).resolve_left (by simpa using hne)
    -- the rest of the list is in the order of the other severities
    have hback := ih hrest hothers (hsorted.filter _)
    rw [List.flatMap_congr hlater] at hback
    rw [List.flatMap_cons, hback, filter_append_filter_not hfront]

theorem delta_le_trans (reach : Reach) (a b c : Record)
    (hab : decide (a.delta reach ≤ b.delta reach) = true)
    (hbc : decide (b.delta reach ≤ c.delta reach) = true) :
    decide (a.delta reach ≤ c.delta reach) = true :=
  decide_eq_true (Nat.le_trans (of_decide_eq_true hab) (of_decide_eq_true hbc))

theorem delta_le_total (reach : Reach) (a b : Record) :
    (decide (a.delta reach ≤ b.delta reach) || decide (b.delta reach ≤ a.delta reach)) = true := by
  rw [Bool.or_eq_true, decide_eq_true_eq, decide_eq_true_eq]
  exact Nat.le_total _ _

theorem pairwise_sorted (records : List Record) (reach : Reach) :
    (sorted records reach).Pairwise fun a b => (a.delta reach).rank ≤ (b.delta reach).rank := by
  have hsorted := List.pairwise_mergeSort (delta_le_trans reach) (delta_le_total reach) records
  exact hsorted.imp of_decide_eq_true

/-- The sort is stable: records of one severity stay in the order of the list. -/
theorem filter_sorted (records : List Record) (reach : Reach) (severity : Severity) :
    (sorted records reach).filter (·.delta reach = severity) =
      records.filter (·.delta reach = severity) := by
  have hequal : (records.filter (·.delta reach = severity)).Pairwise fun a b =>
      decide (a.delta reach ≤ b.delta reach) = true := by
    apply List.pairwise_of_forall_mem_list
    intro a ha b hb
    have ha := of_decide_eq_true (List.mem_filter.1 ha).2
    have hb := of_decide_eq_true (List.mem_filter.1 hb).2
    rw [ha, hb]
    exact decide_eq_true (Nat.le_refl _)
  have hkept : (records.filter (·.delta reach = severity)).Sublist (sorted records reach) :=
    List.sublist_mergeSort (delta_le_trans reach) (delta_le_total reach) hequal List.filter_sublist
  have hsublist := hkept.filter (·.delta reach = severity)
  simp only [List.filter_filter, Bool.and_self] at hsublist
  have hperm : (sorted records reach).Perm records := List.mergeSort_perm records _
  exact (hsublist.eq_of_length (hperm.filter _).length_eq.symm).symm

theorem sorted_eq_flatMap (records : List Record) (reach : Reach) :
    sorted records reach =
      Severity.all.flatMap fun severity => records.filter (·.delta reach = severity) := by
  have hmem : ∀ r ∈ sorted records reach, r.delta reach ∈ Severity.all := by
    intro r _
    cases r.delta reach <;> decide
  rw [← flatMap_filter_eq_self (by decide) hmem (pairwise_sorted records reach)]
  exact List.flatMap_congr fun severity _ => filter_sorted records reach severity

/-! ## Placing records -/

variable {r : Record} {severity : Severity}

/-- A record goes by the groups that it does not belong to. -/
theorem place_append {front : List Group} (h : ∀ g ∈ front, g.key ≠ (r.delta reach, r.stem))
    (back : List Group) : place reach r (front ++ back) = front ++ place reach r back := by
  induction front with
  | nil => rfl
  | cons g front ih =>
    obtain ⟨hg, hfront⟩ := List.forall_mem_cons.1 h
    rw [List.cons_append, place, if_neg fun hkey => hg (Prod.ext hkey.1 hkey.2), ih hfront]
    rfl

theorem filter_stem_concat (records : List Record) (r : Record) (stem : String) :
    (records ++ [r]).filter (·.stem = stem) =
      records.filter (·.stem = stem) ++ if r.stem = stem then [r] else [] := by
  rw [List.filter_append]
  by_cases h : r.stem = stem <;> simp [h]

/-- A record joins the group of its stem, wherever that is. -/
theorem place_map_of_mem (hseverity : r.delta reach = severity) {stems : List String}
    (hnodup : stems.Nodup) (hmem : r.stem ∈ stems) :
    place reach r (stems.map fun stem => ⟨severity, stem, records.filter (·.stem = stem)⟩) =
      stems.map fun stem => ⟨severity, stem, (records ++ [r]).filter (·.stem = stem)⟩ := by
  induction stems with
  | nil => cases hmem
  | cons stem stems ih =>
    obtain ⟨hstem, hstems⟩ := List.nodup_cons.1 hnodup
    rw [List.map_cons, List.map_cons, filter_stem_concat, place]
    by_cases hown : stem = r.stem
    · have hothers : ∀ other ∈ stems, r.stem ≠ other := fun other hother heq =>
        hstem (hown.trans heq ▸ hother)
      rw [if_pos ⟨hseverity.symm, hown⟩, if_pos hown.symm]
      congr 1
      refine List.map_congr_left fun other hother => ?_
      rw [filter_stem_concat, if_neg (hothers other hother), List.append_nil]
    · rw [if_neg fun hkey => hown hkey.2, if_neg (Ne.symm hown), List.append_nil]
      rw [ih hstems ((List.mem_cons.1 hmem).resolve_left (Ne.symm hown))]

/-- A record of a stem that none of the groups has begins one of its own. -/
theorem place_map_of_notMem {stems : List String} (hnew : r.stem ∉ stems) :
    place reach r (stems.map fun stem => ⟨severity, stem, records.filter (·.stem = stem)⟩) =
      (stems.map fun stem => ⟨severity, stem, records.filter (·.stem = stem)⟩) ++
        [⟨r.delta reach, r.stem, [r]⟩] := by
  have hother : ∀ g ∈ stems.map fun stem =>
      (⟨severity, stem, records.filter (·.stem = stem)⟩ : Group),
      g.key ≠ (r.delta reach, r.stem) := by
    intro g hg heq
    obtain ⟨stem, hstem, rfl⟩ := List.mem_map.1 hg
    obtain rfl : stem = r.stem := congrArg Prod.snd heq
    exact hnew hstem
  have hbehind := place_append hother []
  rwa [List.append_nil] at hbehind

/-- Placing a record among the groups of its severity is grouping it behind the others. -/
theorem place_ofSeverity (hseverity : r.delta reach = severity) (records : List Record) :
    place reach r (ofSeverity severity records) = ofSeverity severity (records ++ [r]) := by
  rw [ofSeverity, ofSeverity, List.map_append, List.map_singleton, distinct_concat]
  by_cases hmem : r.stem ∈ records.map Record.stem
  · rw [if_pos hmem, List.append_nil]
    exact place_map_of_mem hseverity (nodup_distinct _) (mem_distinct.2 hmem)
  · have hnew : r.stem ∉ distinct (records.map Record.stem) := fun h => hmem (mem_distinct.1 h)
    have hnone : records.filter (·.stem = r.stem) = [] :=
      List.filter_eq_nil_iff.2 fun a ha hstem =>
        hmem (List.mem_map.2 ⟨a, ha, of_decide_eq_true hstem⟩)
    rw [if_neg hmem, place_map_of_notMem hnew, List.map_append, List.map_singleton,
      filter_stem_concat, hnone, if_pos rfl, List.nil_append, hseverity]
    congr 1
    refine List.map_congr_left fun stem hstem => ?_
    have hne : r.stem ≠ stem := fun heq => hnew (heq ▸ hstem)
    rw [filter_stem_concat, if_neg hne, List.append_nil]

/-- Placing records of one severity, of which there is no group yet, adds their groups. -/
theorem foldl_place {front : List Group} (hfront : ∀ g ∈ front, g.severity ≠ severity)
    (hrecords : ∀ r ∈ records, r.delta reach = severity) :
    records.foldl (fun groups r => place reach r groups) front =
      front ++ ofSeverity severity records := by
  induction records using List.reverseRecOn with
  | nil => exact (List.append_nil front).symm
  | append_singleton records r ih =>
    obtain ⟨hrecords, hr⟩ := List.forall_mem_append.1 hrecords
    have hseverity := hr r (List.mem_singleton_self r)
    have hother : ∀ g ∈ front, g.key ≠ (r.delta reach, r.stem) := fun g hg heq =>
      hfront g hg ((congrArg Prod.fst heq).trans hseverity)
    rw [List.foldl_concat, ih hrecords, place_append hother, place_ofSeverity hseverity]

/-- Placing records of one severity after another adds the groups of one severity after another. -/
theorem foldl_place_flatMap {severities : List Severity} (hnodup : severities.Nodup)
    {front : List Group} (hfront : ∀ g ∈ front, g.severity ∉ severities)
    {part : Severity → List Record}
    (hpart : ∀ severity, ∀ r ∈ part severity, r.delta reach = severity) :
    (severities.flatMap part).foldl (fun groups r => place reach r groups) front =
      front ++ severities.flatMap fun severity => ofSeverity severity (part severity) := by
  induction severities generalizing front with
  | nil => exact (List.append_nil front).symm
  | cons severity severities ih =>
    obtain ⟨hseverity, hseverities⟩ := List.nodup_cons.1 hnodup
    have hnew : ∀ g ∈ front, g.severity ≠ severity := fun g hg heq =>
      hfront g hg (heq ▸ List.mem_cons_self)
    have hrest : ∀ g ∈ front ++ ofSeverity severity (part severity), g.severity ∉ severities := by
      rw [List.forall_mem_append]
      refine ⟨fun g hg hmem => hfront g hg (List.mem_cons_of_mem _ hmem), fun g hg => ?_⟩
      obtain ⟨stem, -, rfl⟩ := List.mem_map.1 hg
      exact hseverity
    rw [List.flatMap_cons, List.foldl_append, foldl_place hnew (hpart severity),
      ih hseverities hrest, List.flatMap_cons, List.append_assoc]

/-- Sorting the records and placing them one after the other makes the partition. -/
theorem inOnePass_eq_partition (records : List Record) (reach : Reach) :
    inOnePass records reach = partition records reach := by
  have hpart : ∀ severity, ∀ r ∈ records.filter (·.delta reach = severity),
      r.delta reach = severity := fun _ _ hr => of_decide_eq_true (List.mem_filter.1 hr).2
  rw [inOnePass, sorted_eq_flatMap, foldl_place_flatMap (by decide) (by simp) hpart]
  rfl

end Patchwise.Group

import Mathlib.Data.Finset.Card
import Mathlib.Data.List.Induction
import Mathlib.Data.List.Nodup
import Patchwise.Group

/-!
# The groups of a list of records

A run acts on the first member of each group of patch steps. Said without groups, these are the
records of patch steps whose stem no such record in front of them has.

## Main definitions

- `Record.leaders` — the records whose stem no record in front of them has

## Main results

- `Group.candidates_partition` — the records that a run acts on are leaders
- `Group.length_partition` — there is a group for each severity and stem that records have
-/

namespace Patchwise

/-! ## Leaders -/

namespace Record

/-- Whether no record in front of the one at an index has its stem. -/
def leads (records : List Record) (entry : Record × Nat) : Bool :=
  (records.take entry.2).all (·.stem ≠ entry.1.stem)

/-- The records whose stem no record in front of them has. -/
def leaders (records : List Record) : List Record :=
  (records.zipIdx.filter (leads records)).map Prod.fst

/-- Whether a record leads does not depend on what is behind it. -/
theorem leaders_concat (records : List Record) (r : Record) :
    leaders (records ++ [r]) =
      leaders records ++ if r.stem ∈ records.map stem then [] else [r] := by
  have hfront : ∀ entry ∈ records.zipIdx, leads (records ++ [r]) entry = leads records entry := by
    intro entry hmem
    have hi : entry.2 < records.length := by simpa using List.snd_lt_of_mem_zipIdx hmem
    rw [leads, leads, List.take_append_of_le_length hi.le]
  have hlast : leads (records ++ [r]) (r, 0 + records.length) = true ↔
      r.stem ∉ records.map stem := by
    rw [leads, List.take_left' (Nat.zero_add _).symm]
    simp [List.all_eq_true]
  rw [leaders, List.zipIdx_append, List.filter_append, List.map_append, leaders,
    List.filter_congr hfront, List.zipIdx_singleton]
  congr 1
  by_cases hmem : r.stem ∈ records.map stem
  · rw [List.filter_cons_of_neg fun h => hlast.1 h hmem, if_pos hmem]
    rfl
  · rw [List.filter_cons_of_pos (hlast.2 hmem), if_neg hmem]
    rfl

theorem mem_of_mem_leaders {records : List Record} {r : Record} (h : r ∈ leaders records) :
    r ∈ records := by
  obtain ⟨entry, hentry, rfl⟩ := List.mem_map.1 h
  exact List.fst_mem_of_mem_zipIdx (List.mem_of_mem_filter hentry)

theorem pairwise_leaders (records : List Record) :
    (leaders records).Pairwise fun a b => a.stem ≠ b.stem := by
  induction records using List.reverseRecOn with
  | nil => exact .nil
  | append_singleton records r ih =>
    rw [leaders_concat]
    split
    · rwa [List.append_nil]
    · next hnew =>
      refine List.pairwise_append.2 ⟨ih, List.pairwise_singleton _ _, fun a ha b hb => ?_⟩
      obtain rfl := List.mem_singleton.1 hb
      exact fun hstem => hnew (List.mem_map.2 ⟨a, mem_of_mem_leaders ha, hstem⟩)

/-- Leaders are in the order of the list. -/
theorem pairwise_idxOf_leaders (records : List Record) :
    (leaders records).Pairwise fun a b => records.idxOf a < records.idxOf b := by
  induction records using List.reverseRecOn with
  | nil => exact .nil
  | append_singleton records r ih =>
    have hfront : (leaders records).Pairwise fun a b =>
        (records ++ [r]).idxOf a < (records ++ [r]).idxOf b := by
      refine ih.imp_of_mem fun ha hb hlt => ?_
      rwa [List.idxOf_append_of_mem (mem_of_mem_leaders ha),
        List.idxOf_append_of_mem (mem_of_mem_leaders hb)]
    rw [leaders_concat]
    split
    · rwa [List.append_nil]
    · next hnew =>
      have hr : r ∉ records := fun hmem => hnew (List.mem_map_of_mem hmem)
      refine List.pairwise_append.2 ⟨hfront, List.pairwise_singleton _ _, fun a ha b hb => ?_⟩
      obtain rfl := List.mem_singleton.1 hb
      have ha := mem_of_mem_leaders ha
      rw [List.idxOf_append_of_mem ha, List.idxOf_append_of_notMem hr]
      exact Nat.lt_add_right _ (List.idxOf_lt_length_of_mem ha)

theorem nodup_name_leaders (records : List Record) : ((leaders records).map (·.name)).Nodup := by
  apply List.pairwise_map.2
  exact (pairwise_leaders records).imp fun hne hname => hne (congrArg stemOf hname)

end Record

/-! ## Groups -/

namespace Group

theorem distinct_concat (stems : List String) (a : String) :
    distinct (stems ++ [a]) = distinct stems ++ if a ∈ stems then [] else [a] := by
  induction stems with
  | nil => rfl
  | cons first rest ih =>
    rw [List.cons_append, distinct, distinct, ih, List.filter_append, List.cons_append]
    congr 2
    by_cases hfirst : a = first
    · subst hfirst
      split <;> simp
    · by_cases hrest : a ∈ rest <;> simp [hfirst, hrest]

theorem mem_distinct {stems : List String} {a : String} : a ∈ distinct stems ↔ a ∈ stems := by
  induction stems with
  | nil => rfl
  | cons first rest ih =>
    by_cases ha : a = first
    · simp [distinct, ha]
    · simp [distinct, ha, ih]

theorem nodup_distinct (stems : List String) : (distinct stems).Nodup := by
  induction stems with
  | nil => exact .nil
  | cons first rest ih =>
    exact List.nodup_cons.2 ⟨by simp, ih.filter _⟩

/-- The first members of the groups of one severity are the leaders. -/
theorem representatives_ofSeverity (severity : Severity) (records : List Record) :
    (ofSeverity severity records).filterMap representative = Record.leaders records := by
  have hfirsts : (ofSeverity severity records).filterMap representative =
      (distinct (records.map Record.stem)).filterMap
        fun stem => (records.filter (·.stem = stem)).head? := by
    rw [ofSeverity, List.filterMap_map]
    rfl
  rw [hfirsts]
  clear hfirsts
  induction records using List.reverseRecOn with
  | nil => rfl
  | append_singleton records r ih =>
    -- a stem that was there before keeps its first member
    have hold : ∀ stem ∈ distinct (records.map Record.stem),
        ((records ++ [r]).filter (·.stem = stem)).head? =
          (records.filter (·.stem = stem)).head? := by
      intro stem hstem
      obtain ⟨a, ha, rfl⟩ := List.mem_map.1 (mem_distinct.1 hstem)
      have hmem : a ∈ records.filter (·.stem = a.stem) :=
        List.mem_filter.2 ⟨ha, decide_eq_true rfl⟩
      rw [List.filter_append, List.head?_append_of_ne_nil _ (List.ne_nil_of_mem hmem)]
    rw [List.map_append, List.map_singleton, distinct_concat, List.filterMap_append,
      List.filterMap_congr hold, ih, Record.leaders_concat]
    congr 1
    by_cases hmem : r.stem ∈ records.map Record.stem
    · simp [hmem]
    · have hnone : records.filter (·.stem = r.stem) = [] :=
        List.filter_eq_nil_iff.2 fun a ha hstem =>
          hmem (List.mem_map.2 ⟨a, ha, of_decide_eq_true hstem⟩)
      have hhead : ((records ++ [r]).filter (·.stem = r.stem)).head? = some r := by
        rw [List.filter_append, hnone, List.nil_append, List.filter_cons_of_pos (by simp)]
        rfl
      simp only [if_neg hmem, List.filterMap_cons, hhead, List.filterMap_nil]

/-- The records that a run acts on are those of patch steps that lead. -/
theorem candidates_partition (records : List Record) (reach : Reach) :
    candidates (partition records reach) =
      Record.leaders (records.filter (·.delta reach = .patch)) := by
  have hkept : ∀ (severity : Severity) (records : List Record),
      (ofSeverity severity records).filter (·.severity = .patch) =
        if severity = .patch then ofSeverity severity records else [] := by
    intro severity records
    rw [ofSeverity, List.filter_map]
    split <;> simp_all [Function.comp_def]
  simp only [candidates, partition, Severity.all, List.flatMap_cons, List.flatMap_nil,
    List.filter_append, hkept]
  simp [representatives_ofSeverity]

/-- A record leads if it is the first one with its stem. -/
theorem mem_leaders_iff {records : List Record} {r : Record} :
    r ∈ Record.leaders records ↔ (records.filter (·.stem = r.stem)).head? = some r := by
  rw [← representatives_ofSeverity .patch, List.mem_filterMap]
  constructor
  · rintro ⟨g, hg, hrepresents⟩
    obtain ⟨stem, -, rfl⟩ := List.mem_map.1 hg
    have hstem : r.stem = stem :=
      of_decide_eq_true (List.mem_filter.1 (List.mem_of_mem_head? hrepresents)).2
    rwa [hstem]
  · intro hhead
    have hmem : r ∈ records := List.mem_of_mem_filter (List.mem_of_mem_head? hhead)
    exact ⟨_, List.mem_map_of_mem (mem_distinct.2 (List.mem_map_of_mem hmem)), hhead⟩

/-- The groups are those of the severities and stems that records have, and the members of each are
all records of its severity and stem, in order. -/
theorem mem_partition_iff {records : List Record} {reach : Reach} {g : Group} :
    g ∈ partition records reach ↔
      g.stem ∈ (records.filter (·.delta reach = g.severity)).map Record.stem ∧
        g.members =
          (records.filter (·.delta reach = g.severity)).filter (·.stem = g.stem) := by
  simp only [partition, ofSeverity, List.mem_flatMap, List.mem_map (b := g), mem_distinct]
  constructor
  · rintro ⟨severity, -, stem, hstem, rfl⟩
    exact ⟨hstem, rfl⟩
  · rintro ⟨hstem, hmembers⟩
    have hseverity : g.severity ∈ Severity.all := by cases g.severity <;> decide
    exact ⟨g.severity, hseverity, g.stem, hstem, by rw [← hmembers]⟩

/-- What tells a group from the others. -/
def key (g : Group) : Severity × String :=
  (g.severity, g.stem)

theorem map_key_partition (records : List Record) (reach : Reach) :
    (partition records reach).map key =
      Severity.all.flatMap fun severity =>
        (distinct ((records.filter (·.delta reach = severity)).map Record.stem)).map
          (severity, ·) := by
  rw [partition, List.map_flatMap]
  simp only [ofSeverity, List.map_map, Function.comp_def, key]

theorem nodup_key_partition (records : List Record) (reach : Reach) :
    ((partition records reach).map key).Nodup := by
  rw [map_key_partition, List.nodup_flatMap]
  refine ⟨fun severity _ => (nodup_distinct _).map (Prod.mk_right_injective severity), ?_⟩
  have hall : Severity.all.Nodup := by decide
  refine hall.imp fun hne => List.disjoint_left.2 fun key ha hb => ?_
  obtain ⟨_, -, rfl⟩ := List.mem_map.1 ha
  obtain ⟨_, -, heq⟩ := List.mem_map.1 hb
  exact hne (congrArg Prod.fst heq).symm

theorem length_partition (records : List Record) (reach : Reach) :
    (partition records reach).length =
      (records.map fun r => (r.delta reach, r.stem)).toFinset.card := by
  rw [← List.length_map key, ← List.toFinset_card_of_nodup (nodup_key_partition records reach)]
  congr 1
  ext ⟨severity, stem⟩
  have hseverity : severity ∈ Severity.all := by cases severity <;> decide
  simp only [map_key_partition, List.mem_toFinset, List.mem_flatMap, List.mem_map, mem_distinct,
    List.mem_filter, decide_eq_true_eq]
  grind

end Group

end Patchwise

import Patchwise.Proofs.Group.OnePass

/-!
# The partition into groups

The groups of a list of records are a partition of it that is ordered twice: the groups by severity
and by the place of their first member, and the members of a group as they are in the list. There is
only one such partition, so the groups of a list that is already in groups are those groups.

## Main definitions

- `Group.Precedes` — the order of groups
- `Group.IsPartition` — groups are the ordered partition of a list of records

## Main results

- `Group.IsPartition.eq` — a list has only one ordered partition
- `Group.partition_is_ordered` — `Group.partition` makes it, regrouping leaves it as it is, and so
  does collecting the groups in one pass
-/

namespace Patchwise.Group

/-! ## What a partition is -/

/-- A group comes before another one of a higher severity, and before one of its own severity whose
first member stands behind its own in the list. -/
def Precedes (records : List Record) (g g' : Group) : Prop :=
  g.severity.rank < g'.severity.rank ∨
    g.severity = g'.severity ∧ ∃ first first', g.representative = some first ∧
      g'.representative = some first' ∧ records.idxOf first < records.idxOf first'

/-- Groups are the ordered partition of a list of records. -/
structure IsPartition (records : List Record) (reach : Reach) (groups : List Group) : Prop where
  /-- Every record is in the groups as often as in the list. -/
  perm : (groups.flatMap members).Perm records
  members_ne_nil : ∀ g ∈ groups, g.members ≠ []
  key_of_mem : ∀ g ∈ groups, ∀ r ∈ g.members, r.delta reach = g.severity ∧ r.stem = g.stem
  nodup_key : (groups.map key).Nodup
  /-- The members of a group are in the order of the list. -/
  sublist : ∀ g ∈ groups, g.members.Sublist records
  pairwise_precedes : groups.Pairwise (Precedes records)

/-! ## The groups are one -/

section Partition

variable (records : List Record) (reach : Reach)

/-- Cut by the values of a function, a list keeps all of its members that have one of the values. -/
theorem perm_flatMap_filter {κ : Type} [DecidableEq κ] (f : Record → κ) {keys : List κ}
    (h : keys.Nodup) :
    (keys.flatMap fun k => records.filter (f · = k)).Perm (records.filter (f · ∈ keys)) := by
  induction keys with
  | nil => simp
  | cons k keys ih =>
    obtain ⟨hk, hkeys⟩ := List.nodup_cons.1 h
    have hcut := List.filter_append_perm (f · = k) (records.filter (f · ∈ k :: keys))
    have hfront :
        (records.filter (f · ∈ k :: keys)).filter (f · = k) = records.filter (f · = k) := by
      rw [List.filter_filter]
      exact List.filter_congr fun r _ => by grind
    have hback : (records.filter (f · ∈ k :: keys)).filter (fun r => !decide (f r = k)) =
        records.filter (f · ∈ keys) := by
      rw [List.filter_filter]
      exact List.filter_congr fun r _ => by grind
    rw [hfront, hback] at hcut
    rw [List.flatMap_cons]
    exact ((ih hkeys).append_left _).trans hcut

theorem perm_members_ofSeverity (severity : Severity) :
    ((ofSeverity severity records).flatMap members).Perm records := by
  have hperm := perm_flatMap_filter records Record.stem (nodup_distinct (records.map Record.stem))
  have hall : records.filter (fun r => r.stem ∈ distinct (records.map Record.stem)) = records := by
    apply List.filter_eq_self.2
    intro r hr
    simpa using mem_distinct.2 (List.mem_map_of_mem hr)
  rw [hall] at hperm
  rwa [ofSeverity, List.flatMap_map]

theorem perm_members_partition : ((partition records reach).flatMap members).Perm records := by
  have hperm := perm_flatMap_filter records (·.delta reach) (show Severity.all.Nodup by decide)
  have hall : records.filter (fun r => r.delta reach ∈ Severity.all) = records := by
    apply List.filter_eq_self.2
    intro r _
    cases r.delta reach <;> decide
  rw [hall] at hperm
  rw [partition, List.flatMap_assoc]
  exact (List.Perm.flatMap_left _ fun severity _ => perm_members_ofSeverity _ severity).trans hperm

/-- A member that stands in front of another one among some members does so in the whole list. -/
theorem idxOf_lt_of_filter {p : Record → Bool} {a b : Record} (ha : a ∈ records.filter p)
    (hb : b ∈ records.filter p)
    (h : (records.filter p).idxOf a < (records.filter p).idxOf b) :
    records.idxOf a < records.idxOf b := by
  induction records with
  | nil => cases ha
  | cons r rest ih =>
    by_cases hr : p r = true
    · rw [List.filter_cons_of_pos hr] at ha hb h
      have hbr : r ≠ b := by
        rintro rfl
        simp at h
      rw [List.idxOf_cons_ne _ hbr] at h ⊢
      by_cases har : r = a
      · rw [har, List.idxOf_cons_self]
        exact Nat.succ_pos _
      · rw [List.idxOf_cons_ne _ har] at h ⊢
        have ha := (List.mem_cons.1 ha).resolve_left (Ne.symm har)
        have hb := (List.mem_cons.1 hb).resolve_left (Ne.symm hbr)
        exact Nat.succ_lt_succ (ih ha hb (Nat.lt_of_succ_lt_succ h))
    · rw [List.filter_cons_of_neg hr] at ha hb h
      have hne : ∀ {c : Record}, c ∈ rest.filter p → r ≠ c := by
        rintro c hc rfl
        exact hr (List.mem_filter.1 hc).2
      rw [List.idxOf_cons_ne _ (hne ha), List.idxOf_cons_ne _ (hne hb)]
      exact Nat.succ_lt_succ (ih ha hb h)

/-- Groups of one severity are in the order of their first members. -/
theorem pairwise_ofSeverity (severity : Severity) :
    (ofSeverity severity records).Pairwise fun g g' =>
      ∀ first, g.representative = some first → ∀ first', g'.representative = some first' →
        records.idxOf first < records.idxOf first' := by
  rw [← List.pairwise_filterMap, representatives_ofSeverity]
  exact Record.pairwise_idxOf_leaders records

theorem exists_of_mem_ofSeverity {severity : Severity} {g : Group}
    (h : g ∈ ofSeverity severity records) :
    g.severity = severity ∧ ∃ first ∈ records, g.representative = some first := by
  obtain ⟨stem, hstem, rfl⟩ := List.mem_map.1 h
  obtain ⟨r, hr, hrstem⟩ := List.mem_map.1 (mem_distinct.1 hstem)
  have hmem : r ∈ records.filter (·.stem = stem) :=
    List.mem_filter.2 ⟨hr, decide_eq_true hrstem⟩
  obtain ⟨first, hfirst⟩ :=
    Option.isSome_iff_exists.1 (List.isSome_head?.2 (List.ne_nil_of_mem hmem))
  exact ⟨rfl, first, List.mem_of_mem_filter (List.mem_of_mem_head? hfirst), hfirst⟩

theorem pairwise_precedes_partition :
    (partition records reach).Pairwise (Precedes records) := by
  rw [partition, List.pairwise_flatMap]
  constructor
  · intro severity _
    refine (pairwise_ofSeverity _ severity).imp_of_mem fun hg hg' hlt => .inr ?_
    obtain ⟨hseverity, first, hmem, hfirst⟩ := exists_of_mem_ofSeverity _ hg
    obtain ⟨hseverity', first', hmem', hfirst'⟩ := exists_of_mem_ofSeverity _ hg'
    exact ⟨hseverity.trans hseverity'.symm, first, first', hfirst, hfirst',
      idxOf_lt_of_filter records hmem hmem' (hlt first hfirst first' hfirst')⟩
  · have hall : Severity.all.Pairwise fun a b => a.rank < b.rank := by decide
    refine hall.imp fun hlt g hg g' hg' => .inl ?_
    rwa [(exists_of_mem_ofSeverity _ hg).1, (exists_of_mem_ofSeverity _ hg').1]

end Partition

/-- The groups of a list of records are its ordered partition. -/
theorem isPartition_partition (records : List Record) (reach : Reach) :
    IsPartition records reach (partition records reach) where
  perm := perm_members_partition records reach
  members_ne_nil := by
    intro g hg
    obtain ⟨hstem, hmembers⟩ := mem_partition_iff.1 hg
    obtain ⟨r, hr, hrstem⟩ := List.mem_map.1 hstem
    rw [hmembers]
    exact List.ne_nil_of_mem (List.mem_filter.2 ⟨hr, decide_eq_true hrstem⟩)
  key_of_mem := by
    intro g hg r hr
    rw [(mem_partition_iff.1 hg).2] at hr
    obtain ⟨hr, hstem⟩ := List.mem_filter.1 hr
    exact ⟨of_decide_eq_true (List.mem_filter.1 hr).2, of_decide_eq_true hstem⟩
  nodup_key := nodup_key_partition records reach
  sublist := by
    intro g hg
    rw [(mem_partition_iff.1 hg).2]
    exact List.filter_sublist.trans List.filter_sublist
  pairwise_precedes := pairwise_precedes_partition records reach

/-! ## There is only one -/

theorem Precedes.asymm {records : List Record} {g g' : Group} (h : Precedes records g g') :
    ¬ Precedes records g' g := by
  rintro (hlt | ⟨heq, first', first, hfirst', hfirst, hlt⟩)
  · obtain hlt' | ⟨heq, -⟩ := h
    · omega
    · rw [heq] at hlt
      omega
  · obtain hlt' | ⟨-, a, b, ha, hb, hlt'⟩ := h
    · rw [heq] at hlt'
      omega
    · rw [hfirst, Option.some.injEq] at ha
      rw [hfirst', Option.some.injEq] at hb
      subst ha hb
      omega

namespace IsPartition

variable {records : List Record} {reach : Reach} {groups groups' : List Group}

theorem key_eq (h : IsPartition records reach groups) {g : Group} (hg : g ∈ groups) {r : Record}
    (hr : r ∈ g.members) : (r.delta reach, r.stem) = g.key := by
  obtain ⟨hseverity, hstem⟩ := h.key_of_mem g hg r hr
  rw [hseverity, hstem, key]

theorem filter_members (h : IsPartition records reach groups) {g : Group} (hg : g ∈ groups) :
    g.members.filter (fun r => (r.delta reach, r.stem) = g.key) = g.members := by
  apply List.filter_eq_self.2
  intro r hr
  exact decide_eq_true (h.key_eq hg hr)

theorem filter_members_of_ne (h : IsPartition records reach groups) {g g' : Group}
    (hg' : g' ∈ groups) (hne : g'.key ≠ g.key) :
    g'.members.filter (fun r => (r.delta reach, r.stem) = g.key) = [] := by
  apply List.filter_eq_nil_iff.2
  intro r hr hkey
  exact hne ((h.key_eq hg' hr).symm.trans (of_decide_eq_true hkey))

/-- Of the members of all groups, those that have the key of a group are its own. -/
theorem filter_flatMap_members (h : IsPartition records reach groups) {g : Group}
    (hg : g ∈ groups) :
    (groups.flatMap members).filter (fun r => (r.delta reach, r.stem) = g.key) = g.members := by
  obtain ⟨front, back, rfl⟩ := List.append_of_mem hg
  have hnodup := h.nodup_key
  rw [List.map_append, List.map_cons, List.nodup_middle, List.nodup_cons, ← List.map_append]
    at hnodup
  have hrest : ∀ g' ∈ front ++ back,
      g'.members.filter (fun r => (r.delta reach, r.stem) = g.key) = [] := by
    intro g' hg'
    have hne : g'.key ≠ g.key := fun heq => hnodup.1 (heq ▸ List.mem_map_of_mem hg')
    have hgroups : g' ∈ front ++ g :: back :=
      ((List.sublist_cons_self g back).append_left front).subset hg'
    exact h.filter_members_of_ne hgroups hne
  rw [List.filter_flatMap, List.flatMap_append, List.flatMap_cons, h.filter_members hg,
    List.flatMap_eq_nil_iff.2 fun g' hg' => hrest g' (List.mem_append_left _ hg'),
    List.flatMap_eq_nil_iff.2 fun g' hg' => hrest g' (List.mem_append_right _ hg'),
    List.nil_append, List.append_nil]

/-- The members of a group are all records that have its key. -/
theorem members_eq (h : IsPartition records reach groups) {g : Group} (hg : g ∈ groups) :
    g.members = records.filter fun r => (r.delta reach, r.stem) = g.key := by
  have hperm := h.perm.filter fun r => (r.delta reach, r.stem) = g.key
  have hsublist := (h.sublist g hg).filter fun r => (r.delta reach, r.stem) = g.key
  rw [h.filter_flatMap_members hg] at hperm
  rw [h.filter_members hg] at hsublist
  exact hsublist.eq_of_length hperm.length_eq

theorem mem_of_mem (h : IsPartition records reach groups) (h' : IsPartition records reach groups')
    {g : Group} (hg : g ∈ groups) : g ∈ groups' := by
  obtain ⟨r, hr⟩ := List.exists_mem_of_ne_nil _ (h.members_ne_nil g hg)
  have hrecord : r ∈ records := h.perm.mem_iff.1 (List.mem_flatMap.2 ⟨g, hg, hr⟩)
  obtain ⟨g', hg', hr'⟩ := List.mem_flatMap.1 (h'.perm.mem_iff.2 hrecord)
  have hkey : g.key = g'.key := (h.key_eq hg hr).symm.trans (h'.key_eq hg' hr')
  have hmembers : g.members = g'.members := by
    rw [h.members_eq hg, h'.members_eq hg', hkey]
  obtain ⟨hseverity, hstem⟩ := Prod.mk.inj hkey
  have heq : g = g' := by
    cases g
    congr
  rwa [heq]

/-- A list has only one ordered partition. -/
theorem eq (h : IsPartition records reach groups) (h' : IsPartition records reach groups') :
    groups = groups' := by
  have hperm : groups.Perm groups' :=
    (List.perm_ext_iff_of_nodup h.nodup_key.of_map h'.nodup_key.of_map).2 fun g =>
      ⟨h.mem_of_mem h', h'.mem_of_mem h⟩
  refine List.Perm.eq_of_pairwise ?_ h.pairwise_precedes h'.pairwise_precedes hperm
  intro g g' _ _ hprecedes hprecedes'
  exact absurd hprecedes' hprecedes.asymm

end IsPartition

/-! ## Regrouping -/

/-- Groups that have no members in common stand one behind the other in the list of all members. -/
theorem pairwise_idxOf_members {groups : List Group}
    (h : groups.Pairwise fun g g' => ∀ r ∈ g'.members, r ∉ g.members) :
    groups.Pairwise fun g g' =>
      ∀ first, g.representative = some first → ∀ first', g'.representative = some first' →
        (groups.flatMap members).idxOf first < (groups.flatMap members).idxOf first' := by
  induction groups with
  | nil => exact .nil
  | cons g groups ih =>
    obtain ⟨hapart, hrest⟩ := List.pairwise_cons.1 h
    have hbehind : ∀ g' ∈ groups, ∀ first', g'.representative = some first' →
        ((g :: groups).flatMap members).idxOf first' =
          g.members.length + (groups.flatMap members).idxOf first' := by
      intro g' hg' first' hfirst'
      rw [List.flatMap_cons, List.idxOf_append_of_notMem]
      exact hapart g' hg' first' (List.mem_of_mem_head? hfirst')
    refine List.pairwise_cons.2 ⟨?_, ?_⟩
    · intro g' hg' first hfirst first' hfirst'
      rw [hbehind g' hg' first' hfirst', List.flatMap_cons]
      obtain ⟨rest, hmembers⟩ := List.head?_eq_some_iff.1 hfirst
      rw [hmembers, List.cons_append, List.idxOf_cons_self]
      simp only [List.length_cons]
      omega
    · refine (ih hrest).imp_of_mem fun {a b} ha hb hlt first hfirst first' hfirst' => ?_
      rw [hbehind a ha first hfirst, hbehind b hb first' hfirst']
      exact Nat.add_lt_add_left (hlt first hfirst first' hfirst') _

/-- Groups are the ordered partition of the list of all their members. -/
theorem IsPartition.of_members {records : List Record} {reach : Reach} {groups : List Group}
    (h : IsPartition records reach groups) :
    IsPartition (groups.flatMap members) reach groups where
  perm := .refl _
  members_ne_nil := h.members_ne_nil
  key_of_mem := h.key_of_mem
  nodup_key := h.nodup_key
  sublist := by
    intro g hg
    rw [List.flatMap_def]
    exact List.sublist_flatten_of_mem (List.mem_map_of_mem hg)
  pairwise_precedes := by
    have hapart : groups.Pairwise fun g g' => ∀ r ∈ g'.members, r ∉ g.members := by
      refine (List.pairwise_map.1 h.nodup_key).imp_of_mem fun hg hg' hne r hr' hr => ?_
      exact hne ((h.key_eq hg hr).symm.trans (h.key_eq hg' hr'))
    refine (h.pairwise_precedes.and (pairwise_idxOf_members hapart)).imp ?_
    rintro g g' ⟨hlt | ⟨heq, first, first', hfirst, hfirst', -⟩, hidx⟩
    · exact .inl hlt
    · exact .inr ⟨heq, first, first', hfirst, hfirst', hidx first hfirst first' hfirst'⟩

/-- The groups of a list of records are its ordered partition, which is the only one: every record
is in one of them, with those of its severity and stem and in the order of the list, and the groups
are ordered by severity and by their first members. The list of all members, group by group, has the
same groups. They are also what comes of sorting the records by severity and placing them one after
the other. -/
theorem partition_is_ordered (records : List Record) (reach : Reach) :
    (∀ groups, IsPartition records reach groups ↔ groups = partition records reach) ∧
      partition ((partition records reach).flatMap members) reach = partition records reach ∧
      inOnePass records reach = partition records reach := by
  have hpartition := isPartition_partition records reach
  refine ⟨fun groups => ⟨fun h => h.eq hpartition, ?_⟩, ?_, inOnePass_eq_partition records reach⟩
  · rintro rfl
    exact hpartition
  · exact (isPartition_partition _ reach).eq hpartition.of_members

end Patchwise.Group

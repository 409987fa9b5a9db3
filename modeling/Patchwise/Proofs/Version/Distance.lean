import Mathlib.Logic.Relation
import Patchwise.Proofs.Text.Pieces
import Patchwise.Proofs.Version

/-!
# How far versions are apart

The size of the step between two versions is a distance of which only the larger one of two counts:
versions that are within a size of each other share the components in front of the one that the size
is named for, and what is shared with a third version is shared all round. So steps that are patches
each add up to a patch.

## Main definitions

- `Severity.common` — what versions share that are within a size of each other
- `Version.Extends` — a version with a suffix behind one of its later components
- `Severity.IsUltrametric` — the laws of the distance

## Main results

- `Severity.exists_between_le_iff` — which versions are within a size of each other
- `Severity.between_isUltrametric` — the laws hold for all texts
-/

namespace Patchwise

namespace Version

theorem isShort_iff_count {version : String} : IsShort version ↔ version.toList.count '.' < 2 := by
  rw [IsShort, components, Text.length_split, List.count]
  omega

/-- A version with a suffix of any kind behind its third component or a later one: behind two dots,
and in front of another dot or at the end. -/
def Extends (version version' : String) : Prop :=
  ∃ front suffix back : List Char, 2 ≤ front.count '.' ∧ (back = [] ∨ back.head? = some '.') ∧
    version.toList = front ++ back ∧ version'.toList = front ++ suffix ++ back

/-- The first two components of a version stand in front of its second dot. -/
theorem exists_leading_of_front {front : List Char} (h : 2 ≤ front.count '.') :
    ∃ parts, ∀ (back : List Char) (version : String), version.toList = front ++ back →
      leading version = .ok parts := by
  have hfirst : '.' ∈ front := List.count_pos_iff.1 (by omega)
  obtain ⟨major, behind, rfl, hmajor⟩ := List.eq_append_cons_of_mem hfirst
  have hsecond : '.' ∈ behind := by
    rw [List.count_append, List.count_eq_zero.2 hmajor, List.count_cons_self] at h
    exact List.count_pos_iff.1 (by omega)
  obtain ⟨minor, rest, rfl, hminor⟩ := List.eq_append_cons_of_mem hsecond
  refine ⟨(major, minor), fun back version hversion => ?_⟩
  have hdot : ∀ {piece : List Char}, '.' ∉ piece → ∀ c ∈ piece, (c == '.') = false :=
    fun hpiece c hc => beq_false_of_ne (ne_of_mem_of_not_mem hc hpiece)
  have hcomponents : components version =
      major :: minor :: Text.split (· == '.') (rest ++ back) := by
    rw [components, hversion, List.append_assoc, List.cons_append, List.append_assoc,
      List.cons_append, Text.split_append (hdot hmajor) (by decide),
      Text.split_append (hdot hminor) (by decide)]
  rw [leading, hcomponents]
  cases hsplit : Text.split (· == '.') (rest ++ back) with
  | nil => exact absurd hsplit (Text.split_ne_nil _ _)
  | cons => rfl

theorem Extends.exists_leading {version version' : String} (h : Extends version version') :
    ∃ parts, leading version = .ok parts ∧ leading version' = .ok parts := by
  obtain ⟨front, suffix, back, hdots, -, hversion, hversion'⟩ := h
  obtain ⟨parts, hparts⟩ := exists_leading_of_front hdots
  exact ⟨parts, hparts back version hversion,
    hparts (suffix ++ back) version' (by rw [hversion', List.append_assoc])⟩

/-- Suffixes change neither of the first two components. -/
theorem leading_of_extends {version version' : String} {parts : List Char × List Char}
    (h : Relation.ReflTransGen Extends version version') (hparts : leading version = .ok parts) :
    leading version' = .ok parts := by
  induction h with
  | refl => exact hparts
  | tail _ hstep ih =>
    obtain ⟨parts', hbefore, hafter⟩ := hstep.exists_leading
    rw [hbefore] at ih
    cases ih
    exact hafter

end Version

open Version

namespace Severity

/-! ## The order of sizes -/

theorem le_iff_rank_le {s t : Severity} : s ≤ t ↔ s.rank ≤ t.rank :=
  Iff.rfl

theorem le_antisymm {s t : Severity} (h : s ≤ t) (h' : t ≤ s) : s = t :=
  rank_injective (Nat.le_antisymm h h')

theorem le_max_left (s t : Severity) : s ≤ max s t := by
  cases s <;> cases t <;> decide

theorem le_max_right (s t : Severity) : t ≤ max s t := by
  cases s <;> cases t <;> decide

/-! ## The size of a step -/

/-- The size of the step between two different versions, by their first two components. -/
def ofLeading (here there : List Char × List Char) : Severity :=
  if here.1 ≠ there.1 then major else if here.2 ≠ there.2 then minor else patch

theorem between_eq_ofLeading {a b : String} {here there : List Char × List Char} (hne : a ≠ b)
    (hhere : leading a = .ok here) (hthere : leading b = .ok there) :
    between a b = .ok (ofLeading here there) := by
  rw [between, if_neg hne, hhere, hthere]
  change (if here.1 ≠ there.1 then _ else _) = _
  unfold ofLeading
  split
  · rfl
  · split <;> rfl

/-- What two different versions have in common that are within a size of each other. -/
def common : Severity → List Char × List Char → List (List Char)
  | major, _ => []
  | minor, parts => [parts.1]
  | _, parts => [parts.1, parts.2]

theorem ofLeading_le_iff {here there : List Char × List Char} {s : Severity} :
    ofLeading here there ≤ s ↔ s ≠ unchanged ∧ common s here = common s there := by
  unfold ofLeading
  rw [le_iff_rank_le]
  by_cases hmajor : here.1 = there.1
  · by_cases hminor : here.2 = there.2
    · cases s <;> simp [common, rank, hmajor, hminor]
    · cases s <;> simp [common, rank, hmajor, hminor]
  · cases s <;> simp [common, rank, hmajor]

/-- Two versions are within a size of each other if they are the same text or share the components
in front of the one that the size is named for. -/
theorem exists_between_le_iff {a b : String} {s : Severity} :
    (∃ t, between a b = .ok t ∧ t ≤ s) ↔
      a = b ∨ s ≠ unchanged ∧ ∃ here there, leading a = .ok here ∧ leading b = .ok there ∧
        common s here = common s there := by
  by_cases heq : a = b
  · have hunchanged : between a b = .ok unchanged := if_pos heq
    exact iff_of_true ⟨unchanged, hunchanged, Nat.zero_le _⟩ (.inl heq)
  · constructor
    · rintro ⟨t, hbetween, hle⟩
      obtain ⟨here, hhere⟩ : ∃ here, leading a = .ok here := by
        refine exists_leading_iff.2 fun hshort => ?_
        rw [between_of_offends (.current heq hshort)] at hbetween
        cases hbetween
      obtain ⟨there, hthere⟩ : ∃ there, leading b = .ok there := by
        refine exists_leading_iff.2 fun hshort => ?_
        rw [between_of_offends (.target heq (exists_leading_iff.1 ⟨here, hhere⟩) hshort)] at hbetween
        cases hbetween
      rw [between_eq_ofLeading heq hhere hthere] at hbetween
      cases hbetween
      obtain ⟨hsome, hcommon⟩ := ofLeading_le_iff.1 hle
      exact .inr ⟨hsome, here, there, hhere, hthere, hcommon⟩
    · rintro (h | ⟨hsome, here, there, hhere, hthere, hcommon⟩)
      · exact absurd h heq
      · exact ⟨_, between_eq_ofLeading heq hhere hthere, ofLeading_le_iff.2 ⟨hsome, hcommon⟩⟩

/-! ## The laws of the distance -/

variable {a b c : String} {s t : Severity}

theorem between_eq_unchanged_iff : between a b = .ok unchanged ↔ a = b := by
  constructor
  · intro h
    obtain heq | ⟨hsome, -⟩ := exists_between_le_iff.1 ⟨unchanged, h, Nat.le_refl _⟩
    · exact heq
    · exact absurd rfl hsome
  · intro heq
    exact if_pos heq

theorem exists_le_of_between (h : between a b = .ok s) : ∃ t, between b a = .ok t ∧ t ≤ s := by
  have hwithin := exists_between_le_iff.1 ⟨s, h, Nat.le_refl _⟩
  refine exists_between_le_iff.2 ?_
  obtain rfl | ⟨hsome, here, there, hhere, hthere, hcommon⟩ := hwithin
  · exact .inl rfl
  · exact .inr ⟨hsome, there, here, hthere, hhere, hcommon.symm⟩

theorem between_comm (h : between a b = .ok s) : between b a = .ok s := by
  obtain ⟨t, hback, hle⟩ := exists_le_of_between h
  obtain ⟨u, hforth, hle'⟩ := exists_le_of_between hback
  rw [h] at hforth
  cases hforth
  rwa [le_antisymm hle hle'] at hback

/-- What two versions share with a third one, they share with each other. -/
theorem exists_between_le_of_le {u : Severity} (h : ∃ s, between a b = .ok s ∧ s ≤ u)
    (h' : ∃ t, between b c = .ok t ∧ t ≤ u) : ∃ v, between a c = .ok v ∧ v ≤ u := by
  rw [exists_between_le_iff] at h h' ⊢
  obtain rfl | ⟨hsome, here, middle, hhere, hmiddle, hcommon⟩ := h
  · exact h'
  obtain rfl | ⟨-, middle', there, hmiddle', hthere, hcommon'⟩ := h'
  · exact .inr ⟨hsome, here, middle, hhere, hmiddle, hcommon⟩
  rw [hmiddle] at hmiddle'
  cases hmiddle'
  exact .inr ⟨hsome, here, there, hhere, hthere, hcommon.trans hcommon'⟩

theorem exists_error_iff :
    (∃ e, between a b = .error e) ↔ a ≠ b ∧ (IsShort a ∨ IsShort b) := by
  simp only [between_eq_error_iff]
  constructor
  · rintro ⟨e, hoffends⟩
    generalize e.version = version at hoffends
    cases hoffends with
    | current hne hshort => exact ⟨hne, .inl hshort⟩
    | target hne _ hshort => exact ⟨hne, .inr hshort⟩
  · rintro ⟨hne, hshort⟩
    by_cases hcurrent : IsShort a
    · exact ⟨⟨a⟩, .current hne hcurrent⟩
    · exact ⟨⟨b⟩, .target hne hcurrent (hshort.resolve_left hcurrent)⟩

/-- A step that is larger than a patch is sized by components that no suffix changes. -/
theorem between_of_extends {a' b' : String} (h : between a b = .ok s) (hs : s = major ∨ s = minor)
    (ha : Relation.ReflTransGen Extends a a') (hb : Relation.ReflTransGen Extends b b') :
    between a' b' = .ok s := by
  have hlarge : ¬ s ≤ patch := by
    obtain rfl | rfl := hs <;> decide
  have hne : a ≠ b := by
    intro heq
    rw [between_eq_unchanged_iff.2 heq] at h
    cases h
    exact hlarge (by decide)
  obtain heq | ⟨-, here, there, hhere, hthere, -⟩ := exists_between_le_iff.1 ⟨s, h, Nat.le_refl _⟩
  · exact absurd heq hne
  rw [between_eq_ofLeading hne hhere hthere] at h
  have hhere' := leading_of_extends ha hhere
  have hthere' := leading_of_extends hb hthere
  have hne' : a' ≠ b' := by
    rintro rfl
    rw [hhere'] at hthere'
    cases hthere'
    cases h
    exact hlarge (ofLeading_le_iff.2 ⟨by decide, rfl⟩)
  rw [between_eq_ofLeading hne' hhere' hthere', h]

/-- The laws of a distance between texts of which only the larger one of two counts, where some
distances cannot be told. -/
structure IsUltrametric (size : String → String → Except MalformedVersion Severity) : Prop where
  unchanged_iff : ∀ a b, size a b = .ok unchanged ↔ a = b
  /-- The distance of two different texts cannot be told if one of them has too few dots to have three
  components. -/
  fails_iff : ∀ a b, (∃ e, size a b = .error e) ↔
    a ≠ b ∧ (a.toList.count '.' < 2 ∨ b.toList.count '.' < 2)
  /-- The first of them that lacks a component is complained of. -/
  names_iff : ∀ a b e, size a b = .error e ↔ Offends a b e.version
  comm : ∀ a b s, size a b = .ok s ↔ size b a = .ok s
  triangle : ∀ a b c s t, size a b = .ok s → size b c = .ok t →
    ∃ u, size a c = .ok u ∧ u ≤ max s t
  /-- Suffixes behind the third component or a later one, of either text, do not change a distance
  that is larger than a patch. -/
  suffix : ∀ a b s, size a b = .ok s → s = major ∨ s = minor →
    ∀ a' b', Relation.ReflTransGen Extends a a' → Relation.ReflTransGen Extends b b' →
      size a' b' = .ok s

/-- The size of a step is such a distance, whatever the two texts are. -/
theorem between_isUltrametric : IsUltrametric between where
  unchanged_iff _ _ := between_eq_unchanged_iff
  fails_iff _ _ := by rw [exists_error_iff, isShort_iff_count, isShort_iff_count]
  names_iff _ _ _ := between_eq_error_iff
  comm _ _ _ := ⟨between_comm, between_comm⟩
  triangle _ _ _ s t h h' :=
    exists_between_le_of_le ⟨s, h, le_max_left s t⟩ ⟨t, h', le_max_right s t⟩
  suffix _ _ _ h hs _ _ ha hb := between_of_extends h hs ha hb

end Severity

end Patchwise

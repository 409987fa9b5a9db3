import Mathlib.Data.List.DropRight
import Patchwise.Path
import Patchwise.Proofs.Text.Pieces

/-!
# Paths seen from a directory

A path that leads through a directory may be named by what is left of it behind the directory. From
the directory that name leads to the same place again: joined to the directory it has the components
of the path.

## Main definitions

- `Path.parts`, `Path.lead` — the components of segments, and those of the first one

## Main results

- `Path.components_join` — the components of a relative path behind those of a directory
- `Path.components_of_relativeTo?` — what is left of a path behind a directory
- `Path.components_joined_seenFrom` — a path as it is seen from a directory, joined to it again
-/

namespace Patchwise.Path

/-! ## Components of segments -/

/-- The components of segments in front of which there are others. -/
def parts (segments : List (List Char)) : List Component :=
  (segments.filter (!isSilent ·)).map ofSegment

/-- The components of the first segment of a path. -/
def lead (absolute : Bool) (first : List Char) : List Component :=
  if absolute then [.root] else if first = ['.'] then [.current] else parts [first]

theorem parts_append (front rest : List (List Char)) :
    parts (front ++ rest) = parts front ++ parts rest := by
  rw [parts, List.filter_append, List.map_append, parts, parts]

theorem parts_cons_of_isSilent {segment : List Char} (h : isSilent segment = true)
    (rest : List (List Char)) : parts (segment :: rest) = parts rest := by
  rw [parts, List.filter_cons_of_neg (by simp [h]), parts]

theorem parts_cons_of_not_isSilent {segment : List Char} (h : isSilent segment = false)
    (rest : List (List Char)) : parts (segment :: rest) = ofSegment segment :: parts rest := by
  rw [parts, List.filter_cons_of_pos (by simp [h]), List.map_cons, parts]

/-- Only the first segment of a path is its root or the directory itself. -/
theorem ne_of_mem_parts {segments : List (List Char)} {c : Component} (h : c ∈ parts segments) :
    c ≠ .root ∧ c ≠ .current := by
  obtain ⟨segment, -, rfl⟩ := List.mem_map.1 h
  unfold ofSegment
  split <;> exact ⟨nofun, nofun⟩

theorem components_eq {path first : List Char} {more : List (List Char)}
    (h : segments path = first :: more) :
    components path = lead (isAbsolute path) first ++ parts more := by
  have hcons : parts (first :: more) = parts [first] ++ parts more := parts_append [first] more
  unfold components lead
  rw [h]
  dsimp only
  split
  · rfl
  · split
    · rfl
    · exact hcons

theorem exists_segments (path : List Char) : ∃ first more, segments path = first :: more :=
  List.exists_cons_of_ne_nil (Text.split_ne_nil _ path)

theorem not_mem_of_mem_segments {path segment : List Char} (h : segment ∈ segments path) :
    '/' ∉ segment := by
  intro hmem
  have hslash := Text.not_of_mem_split h '/' hmem
  cases hslash

theorem segments_append_cons (front rest : List Char) :
    segments (front ++ '/' :: rest) = segments front ++ segments rest :=
  Text.split_append_cons rfl front rest

theorem segments_of_not_mem {segment : List Char} (h : '/' ∉ segment) :
    segments segment = [segment] :=
  Text.split_eq_singleton fun c hc => by simpa using ne_of_mem_of_not_mem hc h

theorem isAbsolute_append {front : List Char} (h : front ≠ []) (rest : List Char) :
    isAbsolute (front ++ rest) = isAbsolute front := by
  cases front with
  | nil => exact absurd rfl h
  | cons => rfl

/-- A path that is not absolute has a character in front of its first slash, if it has any. -/
theorem first_ne_nil {path first : List Char} {more : List (List Char)} (hpath : path ≠ [])
    (habsolute : isAbsolute path = false) (h : segments path = first :: more) : first ≠ [] := by
  rintro rfl
  cases path with
  | nil => exact hpath rfl
  | cons c rest =>
    have hc : (c == '/') = false := by simpa [isAbsolute] using habsolute
    rw [segments, Text.split, if_neg (by simp [hc])] at h
    split at h <;> cases h

theorem components_ne_nil {path : List Char} (h : path ≠ []) : components path ≠ [] := by
  obtain ⟨first, more, hsegments⟩ := exists_segments path
  rw [components_eq hsegments, lead]
  cases habsolute : isAbsolute path with
  | true => simp
  | false =>
    by_cases hdot : first = ['.']
    · simp [hdot]
    · have hsome := first_ne_nil h habsolute hsegments
      have hfirst : isSilent first = false := by simp [isSilent, hsome, hdot]
      simp [hdot, parts_cons_of_not_isSilent hfirst]

/-! ## Silent segments -/

theorem parts_dropSilent (segments : List (List Char)) :
    parts (dropSilent segments) = parts segments := by
  induction segments with
  | nil => rfl
  | cons segment rest ih =>
    cases h : isSilent segment with
    | true =>
      rw [parts_cons_of_isSilent h, ← ih, dropSilent, List.dropWhile_cons_of_pos h, dropSilent]
    | false => rw [dropSilent, List.dropWhile_cons_of_neg (by simp [h])]

theorem parts_reverse (segments : List (List Char)) :
    parts segments.reverse = (parts segments).reverse := by
  rw [parts, List.filter_reverse, List.map_reverse, parts]

theorem parts_dropSilentEnd (segments : List (List Char)) :
    parts (dropSilentEnd segments) = parts segments := by
  rw [dropSilentEnd, parts_reverse, parts_dropSilent, parts_reverse, List.reverse_reverse]

theorem not_isSilent_of_mem_head?_dropSilent (segments : List (List Char)) :
    ∀ segment ∈ (dropSilent segments).head?, isSilent segment = false :=
  List.not_of_mem_head?_dropWhile

/-- Without as many parts at its start a path has as many components less. -/
theorem parts_dropParts (count : Nat) (segments : List (List Char)) :
    parts (dropParts count segments) = (parts segments).drop count := by
  induction count generalizing segments with
  | zero => exact parts_dropSilent segments
  | succ count ih =>
    rw [dropParts, ih, ← parts_dropSilent segments]
    have hhead := not_isSilent_of_mem_head?_dropSilent segments
    cases hdrop : dropSilent segments with
    | nil => simp [parts]
    | cons segment rest =>
      have hsegment : isSilent segment = false := hhead segment (by simp [hdrop])
      rw [parts_cons_of_not_isSilent hsegment]
      rfl

theorem not_isSilent_of_mem_head?_dropParts (count : Nat) (segments : List (List Char)) :
    ∀ segment ∈ (dropParts count segments).head?, isSilent segment = false := by
  induction count generalizing segments with
  | zero => exact not_isSilent_of_mem_head?_dropSilent segments
  | succ count ih => exact ih _

theorem dropParts_isSuffix (count : Nat) (segments : List (List Char)) :
    dropParts count segments <:+ segments := by
  induction count generalizing segments with
  | zero => exact List.dropWhile_suffix _
  | succ count ih =>
    exact (ih _).trans ((List.drop_suffix 1 _).trans (List.dropWhile_suffix _))

theorem dropSilentEnd_isPrefix (segments : List (List Char)) :
    dropSilentEnd segments <+: segments :=
  List.rdropWhile_prefix isSilent segments

/-! ## Segments with slashes between them -/

theorem segments_unsplit {pieces : List (List Char)} (hsome : pieces ≠ [])
    (h : ∀ piece ∈ pieces, '/' ∉ piece) : segments (unsplit pieces) = pieces := by
  induction pieces with
  | nil => exact absurd rfl hsome
  | cons piece rest ih =>
    obtain ⟨hpiece, hrest⟩ := List.forall_mem_cons.1 h
    cases rest with
    | nil => rw [unsplit, List.intercalate_singleton, segments_of_not_mem hpiece]
    | cons next rest =>
      rw [unsplit, List.intercalate_cons_cons, List.append_assoc, List.singleton_append,
        segments_append_cons, segments_of_not_mem hpiece, ← unsplit, ih (by simp) hrest,
        List.singleton_append]

theorem parts_segments_unsplit {pieces : List (List Char)} (h : ∀ piece ∈ pieces, '/' ∉ piece) :
    parts (segments (unsplit pieces)) = parts pieces := by
  by_cases hsome : pieces = []
  · subst hsome
    rfl
  · rw [segments_unsplit hsome h]

/-- Segments of which the first has a character are no absolute path. -/
theorem isAbsolute_unsplit {pieces : List (List Char)} (h : ∀ piece ∈ pieces, '/' ∉ piece)
    (hhead : ∀ piece ∈ pieces.head?, piece ≠ []) : isAbsolute (unsplit pieces) = false := by
  cases pieces with
  | nil => rfl
  | cons piece rest =>
    obtain ⟨c, cs, rfl⟩ := List.exists_cons_of_ne_nil (hhead piece rfl)
    have hc : c ≠ '/' := fun hc => h _ List.mem_cons_self (by simp [hc])
    cases rest <;> simp [unsplit, isAbsolute, hc, List.intercalate_cons_cons]

/-! ## Joining -/

/-- A relative path that is joined to a directory has its components behind those of the
directory. -/
theorem components_join {directory path : List Char} (hdirectory : directory ≠ [])
    (hpath : isAbsolute path = false) :
    components (join directory path) = components directory ++ parts (segments path) := by
  have hjoin : join directory path =
      if directory.getLast? = some '/' then directory ++ path else directory ++ '/' :: path := by
    simp [join, hpath, hdirectory]
  by_cases hlast : directory.getLast? = some '/'
  · -- the slash at the directory's end is the one that comes in between
    rw [hjoin, if_pos hlast]
    have habsolute := isAbsolute_append hdirectory path
    obtain ⟨front, rfl⟩ := List.getLast?_eq_some_iff.1 hlast
    obtain ⟨first, more, hfront⟩ := exists_segments front
    have hsegments : segments (front ++ ['/']) = first :: (more ++ [[]]) := by
      rw [segments_append_cons, hfront]
      rfl
    have hjoined : segments (front ++ ['/'] ++ path) = first :: (more ++ segments path) := by
      rw [List.append_assoc, List.singleton_append, segments_append_cons, hfront]
      rfl
    have hempty : parts [[]] = [] := rfl
    rw [components_eq hsegments, components_eq hjoined, habsolute, parts_append, parts_append,
      hempty, List.append_nil, List.append_assoc]
  · rw [hjoin, if_neg hlast]
    have habsolute := isAbsolute_append hdirectory ('/' :: path)
    obtain ⟨first, more, hsegments⟩ := exists_segments directory
    have hjoined : segments (directory ++ '/' :: path) = first :: (more ++ segments path) := by
      rw [segments_append_cons, hsegments]
      rfl
    rw [components_eq hsegments, components_eq hjoined, habsolute, parts_append, List.append_assoc]

theorem join_of_isAbsolute {path : List Char} (h : isAbsolute path = true)
    (directory : List Char) : join directory path = path := by
  simp [join, h]

theorem join_nil (path : List Char) : join [] path = path := by
  simp [join]

/-! ## What is left behind a directory -/

theorem mem_lead {absolute : Bool} {first : List Char} {c : Component}
    (h : c ∈ lead absolute first) (hc : c = .root ∨ c = .current) : lead absolute first = [c] := by
  unfold lead at h ⊢
  split at h
  next habsolute => rw [if_pos habsolute, List.mem_singleton.1 h]
  next habsolute =>
    rw [if_neg habsolute]
    split at h
    next hdot => rw [if_pos hdot, List.mem_singleton.1 h]
    next hdot =>
      obtain ⟨hroot, hcurrent⟩ := ne_of_mem_parts h
      exact absurd hc (not_or.2 ⟨hroot, hcurrent⟩)

/-- A path that begins at the root, or with the directory itself, has its other components from the
segments behind the first one. -/
theorem components_of_anchored {path : List Char} {c : Component} {rest : List Component}
    (h : components path = c :: rest) (hc : c = .root ∨ c = .current) :
    rest = parts ((segments path).drop 1) := by
  obtain ⟨first, more, hsegments⟩ := exists_segments path
  rw [components_eq hsegments] at h
  rw [hsegments, List.drop_one, List.tail_cons]
  have hlead : lead (isAbsolute path) first = [c] := by
    refine mem_lead ?_ hc
    have hmem : c ∈ lead (isAbsolute path) first ++ parts more := by simp [h]
    obtain hmem | hmem := List.mem_append.1 hmem
    · exact hmem
    · obtain ⟨hroot, hcurrent⟩ := ne_of_mem_parts hmem
      exact absurd hc (not_or.2 ⟨hroot, hcurrent⟩)
  rw [hlead] at h
  exact (List.cons.inj h).2.symm

theorem components_of_not_anchored {path : List Char} {c : Component} {rest : List Component}
    (h : components path = c :: rest) (hc : ¬ (c = .root ∨ c = .current)) :
    components path = parts (segments path) := by
  obtain ⟨first, more, hsegments⟩ := exists_segments path
  rw [components_eq hsegments] at h ⊢
  have hcons : parts (first :: more) = parts [first] ++ parts more := parts_append [first] more
  rw [hsegments, hcons]
  unfold lead at h ⊢
  split at h
  · exact absurd (.inl (List.cons.inj h).1.symm) hc
  · split at h
    · exact absurd (.inr (List.cons.inj h).1.symm) hc
    next habsolute hdot => rw [if_neg habsolute, if_neg hdot]

/-- A path is left behind a directory if it begins with the directory's components. -/
theorem isSome_relativeTo? {directory path : List Char} {tail : List Component}
    (h : components path = components directory ++ tail) : (relativeTo? directory path).isSome := by
  have hprefix : (components directory).isPrefixOf (components path) = true := by
    rw [List.isPrefixOf_iff_prefix, h]
    exact List.prefix_append _ _
  unfold relativeTo?
  dsimp only
  rw [if_pos hprefix]
  split <;> rfl

/-- What is left of a path behind a directory is a relative path, and it has the components that the
path has behind those of the directory. -/
theorem components_of_relativeTo? {directory path rest : List Char} (hdirectory : directory ≠ [])
    (h : relativeTo? directory path = some rest) :
    isAbsolute rest = false ∧ components path = components directory ++ parts (segments rest) := by
  -- it is enough that the rest is made of what is behind some parts, those of the directory
  have hmade : ∀ count pieces, (∀ piece ∈ pieces, '/' ∉ piece) →
      rest = unsplit (dropSilentEnd (dropParts count pieces)) →
      isAbsolute rest = false ∧ parts (segments rest) = (parts pieces).drop count := by
    intro count pieces hpieces hrest
    have hslash : ∀ piece ∈ dropSilentEnd (dropParts count pieces), '/' ∉ piece :=
      fun piece hpiece => hpieces piece
        ((dropParts_isSuffix count pieces).subset ((dropSilentEnd_isPrefix _).subset hpiece))
    subst hrest
    refine ⟨isAbsolute_unsplit hslash fun piece hpiece => ?_, ?_⟩
    · obtain ⟨more, hmore⟩ := dropSilentEnd_isPrefix (dropParts count pieces)
      have hhead : piece ∈ (dropParts count pieces).head? := by
        rw [← hmore, List.head?_append, Option.mem_def.1 hpiece]
        rfl
      rintro rfl
      cases not_isSilent_of_mem_head?_dropParts count pieces [] hhead
    · rw [parts_segments_unsplit hslash, parts_dropSilentEnd, parts_dropParts]
  have hslash : ∀ piece ∈ segments path, '/' ∉ piece := fun piece => not_mem_of_mem_segments
  obtain ⟨c, others, hparts⟩ := List.exists_cons_of_ne_nil (components_ne_nil hdirectory)
  unfold relativeTo? at h
  dsimp only at h
  split at h
  next hprefix =>
    obtain ⟨tail, htail⟩ := List.isPrefixOf_iff_prefix.1 hprefix
    rw [hparts] at h htail
    rw [List.cons_append] at htail
    rw [hparts, List.cons_append, ← htail]
    rw [if_neg (by simp)] at h
    obtain rfl := Option.some.inj h
    by_cases hc : c = .root ∨ c = .current
    · obtain ⟨habsolute, hrest⟩ := hmade others.length ((segments path).drop 1)
        (fun piece hpiece => hslash piece (List.mem_of_mem_drop hpiece)) (by simp [hc])
      refine ⟨habsolute, ?_⟩
      rw [hrest, ← components_of_anchored htail.symm hc, List.drop_left]
    · obtain ⟨habsolute, hrest⟩ := hmade (others.length + 1) (segments path) hslash
        (by simp [not_or.1 hc])
      refine ⟨habsolute, ?_⟩
      rw [hrest, ← components_of_not_anchored htail.symm hc, ← htail, List.drop_succ_cons,
        List.drop_left]
  next => cases h

theorem components_trimEnd (path : List Char) : components (trimEnd path) = components path := by
  obtain ⟨first, more, hsegments⟩ := exists_segments path
  have hslash : ∀ piece ∈ first :: more, '/' ∉ piece := by
    rw [← hsegments]
    exact fun piece => not_mem_of_mem_segments
  obtain ⟨hfirst, hmore⟩ := List.forall_mem_cons.1 hslash
  have hend : ∀ piece ∈ dropSilentEnd more, '/' ∉ piece := fun piece hpiece =>
    hmore piece ((dropSilentEnd_isPrefix more).subset hpiece)
  unfold trimEnd
  rw [hsegments]
  dsimp only
  split
  next habsolute =>
    have htrimmed : segments ('/' :: unsplit (dropSilentEnd more)) =
        [] :: segments (unsplit (dropSilentEnd more)) :=
      segments_append_cons [] _
    rw [components_eq hsegments, components_eq htrimmed, habsolute, parts_segments_unsplit hend,
      parts_dropSilentEnd]
    rfl
  next habsolute =>
    have habsolute : isAbsolute path = false := by simpa using habsolute
    by_cases hpath : path = []
    · subst hpath
      obtain ⟨rfl, rfl⟩ := List.cons.inj hsegments
      rfl
    · have hpieces : ∀ piece ∈ first :: dropSilentEnd more, '/' ∉ piece :=
        List.forall_mem_cons.2 ⟨hfirst, hend⟩
      have htrimmed := segments_unsplit (List.cons_ne_nil _ _) hpieces
      have hfirst := first_ne_nil hpath habsolute hsegments
      have hrelative := isAbsolute_unsplit hpieces (by simpa using hfirst)
      rw [components_eq hsegments, components_eq htrimmed, habsolute, hrelative,
        parts_dropSilentEnd]

/-- What is left of a path behind a directory leads from the directory to the same place. -/
theorem components_join_of_relativeTo? {directory path rest : List Char}
    (h : relativeTo? directory path = some rest) :
    components (join directory rest) = components path := by
  by_cases hdirectory : directory = []
  · subst hdirectory
    obtain rfl : trimEnd path = rest := Option.some.inj h
    rw [join_nil, components_trimEnd]
  · obtain ⟨habsolute, hcomponents⟩ := components_of_relativeTo? hdirectory h
    rw [components_join hdirectory habsolute, hcomponents]

/-! ## On strings -/

/-- A path that is meant as seen from a directory is named, as it is seen from there, by a path that
leads from there to the same place. -/
theorem components_joined_seenFrom (directory path : String) :
    components (joined directory (seenFrom directory (joined directory path))).toList =
      components (joined directory path).toList := by
  simp only [joined, seenFrom, String.toList_ofList]
  generalize directory.toList = d
  generalize path.toList = p
  cases hrelative : relativeTo? d (join d p) with
  | some rest =>
    rw [String.toList_ofList]
    exact components_join_of_relativeTo? hrelative
  | none =>
    rw [String.toList_ofList]
    by_cases hd : d = []
    · rw [hd, join_nil]
    · cases hp : isAbsolute p with
      | true => rw [join_of_isAbsolute hp, join_of_isAbsolute hp]
      | false =>
        have hsome := isSome_relativeTo? (components_join hd hp)
        rw [hrelative] at hsome
        cases hsome

example : seenFrom "./app/" (joined "./app/" "./web//package.json") = "web//package.json" := by
  decide +kernel

end Patchwise.Path

import Patchwise.File.Tree
import Patchwise.Proofs.Manifest.Parsing

/-!
# Files that are written and read

What is written at a path is what is found there afterwards. In a tree of files that is so because a
file is never put in the place of a directory: every path still leads where it led before.

## Main definitions

- `File.Disk` — where texts are written and files are read
- `File.Tree.disk` — a tree of files as a disk

## Main results

- `File.Tree.content_write` — what is found where bytes were written
-/

namespace Patchwise.File

namespace Tree

variable {t t' : Tree} {place stand here : Place} {path : List Char} {bytes : List UInt8}

/-! ## Directories around a file -/

theorem lookup_put (h : stand ≠ place) :
    (t.put place bytes).nodes.lookup stand = t.nodes.lookup stand := by
  have hne : (stand == place) = false := by simpa using h
  have hkept (nodes : List (Place × Node)) :
      (nodes.filter (·.1 != place)).lookup stand = nodes.lookup stand := by
    induction nodes with
    | nil => rfl
    | cons entry nodes ih =>
      obtain ⟨found, node⟩ := entry
      by_cases hfound : found = place
      · subst hfound
        simp [List.lookup_cons, hne, ih]
      · simp [List.lookup_cons, hfound, ih]
  rw [put, List.lookup_cons, hne, hkept]

/-- A place that is no root is a directory if it is entered as one, or if nothing is entered for it
and something is below it. -/
theorem node?_eq_directory_iff (h : stand ≠ []) :
    t.node? stand = some .directory ↔
      t.nodes.lookup stand = some .directory ∨
        t.nodes.lookup stand = none ∧ ∃ entry ∈ t.nodes, stand.isPrefixOf entry.1 = true := by
  have hroot : stand.isEmpty = false := by simpa using h
  rw [node?, hroot, if_neg Bool.false_ne_true]
  cases hlookup : t.nodes.lookup stand with
  | some node => simp
  | none => simp [List.find?_isSome, ← Option.isSome_iff_exists]

/-- A file that is put somewhere else leaves a directory a directory. -/
theorem node?_put_of_directory (h : t.node? stand = some .directory) (hne : stand ≠ place) :
    (t.put place bytes).node? stand = some .directory := by
  by_cases hroot : stand = []
  · rw [hroot]
    rfl
  rw [node?_eq_directory_iff hroot] at h ⊢
  rw [lookup_put hne]
  refine h.imp_right fun ⟨hnone, entry, hmem, hbelow⟩ => ⟨hnone, ?_⟩
  -- the file may have taken the place of what was below the directory
  by_cases hentry : entry.1 = place
  · exact ⟨(place, .file bytes), List.mem_cons_self, hentry ▸ hbelow⟩
  · have hkept : entry ∈ t.nodes.filter (·.1 != place) :=
      List.mem_filter.2 ⟨hmem, by simpa using hentry⟩
    exact ⟨entry, List.mem_cons_of_mem _ hkept, hbelow⟩

/-! ## Reading after writing -/

/-- A file that is put in no directory's place leaves every way what it was. -/
theorem walk_put (hplace : t.node? place ≠ some .directory) {start end_ : Place}
    {segments : List (List Char)} (h : t.walk start segments = .ok end_) :
    (t.put place bytes).walk start segments = .ok end_ := by
  induction segments generalizing start with
  | nil => exact h
  | cons segment rest ih =>
    rw [walk] at h ⊢
    split at h
    next => cases h
    next => cases h
    next hnode =>
      have hne : start ≠ place := by
        rintro rfl
        exact hplace hnode
      rw [node?_put_of_directory hnode hne]
      simp only []
      split at h
      next hsilent => rw [if_pos hsilent, ih h]
      next hsilent =>
        rw [if_neg hsilent]
        split at h
        next hparent => rw [if_pos hparent, ih h]
        next hparent =>
          rw [if_neg hparent]
          split at h
          next => cases h
          next hlength => rw [if_neg hlength, ih h]

theorem locate_eq_ok_iff :
    t.locate here path = .ok place ↔
      ∃ segments, segments? path = .ok segments ∧
        t.walk (startOf here path) segments = .ok place := by
  unfold locate
  cases segments? path <;> simp [bind, Except.bind]

/-- What writing comes to: the path leads to a place that is no directory's, and the file is put
there. -/
theorem write_eq_ok (h : t.write here path bytes = .ok t') :
    ∃ place, t.locate here path = .ok place ∧ t.node? place ≠ some .directory ∧
      t' = t.put place bytes := by
  unfold write at h
  cases hsegments : segments? path with
  | error fault => simp [hsegments, bind, Except.bind] at h
  | ok segments =>
    simp only [hsegments, bind, Except.bind] at h
    split at h
    next =>
      -- the path ends with a slash
      split at h <;> cases h
    next =>
      split at h
      next => cases h
      next place hwalk =>
        have hlocate := locate_eq_ok_iff.2 ⟨segments, hsegments, hwalk⟩
        split at h
        next => cases h
        next hplace =>
          cases h
          exact ⟨place, hlocate, hplace, rfl⟩

/-- What is found where bytes were written. -/
theorem content_write (h : t.write here path bytes = .ok t') :
    t'.content here path = .bytes bytes := by
  obtain ⟨place, hlocate, hplace, rfl⟩ := write_eq_ok h
  have hroot : place ≠ [] := by
    rintro rfl
    exact hplace rfl
  obtain ⟨segments, hsegments, hwalk⟩ := locate_eq_ok_iff.1 hlocate
  have hlocate' : (t.put place bytes).locate here path = .ok place :=
    locate_eq_ok_iff.2 ⟨segments, hsegments, walk_put hplace hwalk⟩
  have hfind : (t.put place bytes).find here path = .ok (.file bytes) := by
    simp only [find, hlocate', bind, Except.bind, node?_put t place bytes hroot]
    rfl
  rw [content, hfind]

end Tree

/-! ## Disks -/

/-- Where texts are written and files are read. Writing fails for any reason, and a text that was
written is found. -/
structure Disk (σ : Type) where
  content : String → σ → Content
  store : String → String → σ → Except String Unit × σ
  content_of_stored : ∀ {path text : String} {s : σ},
    (store path text s).1 = .ok () → content path (store path text s).2 = .holding text

/-- A tree of files as a disk, with paths that are seen from a place. -/
def Tree.disk (here : Place) : Disk Tree where
  content path t := t.content here path.toList
  store path text t :=
    match t.write here path.toList (Text.Utf8.encode text) with
    | .ok t => (.ok (), t)
    | .error fault => (.error fault.reason, t)
  content_of_stored := by
    intro path text t h
    cases hwrite : t.write here path.toList (Text.Utf8.encode text) with
    | error fault => simp [hwrite] at h
    | ok t' => exact content_write hwrite

end Patchwise.File

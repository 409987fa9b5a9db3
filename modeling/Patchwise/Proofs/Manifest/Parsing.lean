import Patchwise.Manifest
import Patchwise.Proofs.Text.Utf8

/-!
# What a manifest is determined by

A manifest's value is what its text tells, so a manifest is its path and its text. Reading a text,
reading a file and editing are all the same function of these two.

## Main results

- `Manifest.parse_eq_ok_iff` — the manifest that a text holds
- `Manifest.ofFile_holding` — the manifest in a file that a text was written to
- `Manifest.path_of_setVersion`, `Manifest.path_of_setSpec` — edits keep the path
-/

namespace Patchwise

/-- What is found where a text was written. -/
def File.Content.holding (text : String) : File.Content :=
  .bytes (Text.Utf8.encode text)

namespace Manifest

theorem parse_of_read {path content : String} {value : Json}
    (hread : Json.read content = some value) :
    parse path content = .ok ⟨path, content, value, hread⟩ := by
  unfold parse
  split
  next value' hread' =>
    obtain rfl : value' = value := Option.some.inj (hread'.symm.trans hread)
    rfl
  next hread' =>
    rw [hread] at hread'
    cases hread'

theorem parse_of_not_read {path content : String} (hread : Json.read content = none) :
    parse path content = .error (.notJson path Json.syntaxMessage) := by
  unfold parse
  split
  next value hread' =>
    rw [hread] at hread'
    cases hread'
  next => rfl

/-- A text holds the manifests that have it as their text. -/
theorem parse_eq_ok_iff {path content : String} {m : Manifest} :
    parse path content = .ok m ↔ m.path = path ∧ m.content = content := by
  constructor
  · intro h
    cases hread : Json.read content with
    | none =>
      rw [parse_of_not_read hread] at h
      cases h
    | some value =>
      rw [parse_of_read hread] at h
      cases h
      exact ⟨rfl, rfl⟩
  · rintro ⟨rfl, rfl⟩
    rw [parse_of_read m.read_content]

/-- A file that a text was written to holds the manifest that the text holds. -/
theorem ofFile_holding (path text : String) :
    ofFile path (.holding text) = parse path text := by
  rw [File.Content.holding, ofFile, File.text_encode]

theorem path_of_edited {m m' : Manifest} {dependencyType package : String}
    {text : Option (List Char)} (h : m.edited dependencyType package text = .ok m') :
    m'.path = m.path := by
  cases text with
  | none => cases h
  | some content => exact (parse_eq_ok_iff.1 h).1

theorem path_of_setVersion {m m' : Manifest} {dependencyType package version : String}
    (h : m.setVersion dependencyType package version = .ok m') : m'.path = m.path :=
  path_of_edited h

theorem path_of_setSpec {m m' : Manifest} {dependencyType package spec : String}
    (h : m.setSpec dependencyType package spec = .ok m') : m'.path = m.path :=
  path_of_edited h

end Manifest

end Patchwise

import Patchwise.Version

/-!
# Steps that cannot be sized

A step between two versions is sized unless one of them lacks a component. The version that is
complained of is then the first of the two that does.

## Main definitions

- `Version.IsShort` — a version that lacks a component
- `Version.Offends` — the version because of which a step cannot be sized

## Main results

- `Severity.between_eq_error_iff` — it is the one that is complained of
-/

namespace Patchwise

namespace Version

/-- A version that lacks one of its three components. -/
def IsShort (version : String) : Prop :=
  (components version).length < 3

/-- The version because of which a step cannot be sized: of two different ones the first that is
short. -/
inductive Offends (current target : String) : String → Prop
  | current (hne : current ≠ target) (h : IsShort current) : Offends current target current
  | target (hne : current ≠ target) (hcurrent : ¬ IsShort current) (h : IsShort target) :
      Offends current target target

theorem leading_eq_error_iff {version : String} {e : MalformedVersion} :
    leading version = .error e ↔ IsShort version ∧ e = ⟨version⟩ := by
  unfold leading IsShort
  split
  next hcomponents =>
    refine iff_of_false nofun ?_
    rintro ⟨h, -⟩
    rw [hcomponents] at h
    simp only [List.length_cons] at h
    omega
  next hfew =>
    have hshort : (components version).length < 3 := by
      match hcomponents : components version with
      | [] | [_] | [_, _] => simp
      | major :: minor :: patch :: rest => exact absurd hcomponents (hfew major minor patch rest)
    simp [hshort, eq_comm]

theorem exists_leading_iff {version : String} :
    (∃ parts, leading version = .ok parts) ↔ ¬ IsShort version := by
  cases hleading : leading version with
  | ok parts =>
    have hnot : ¬ IsShort version := by
      intro h
      rw [leading_eq_error_iff.2 ⟨h, rfl⟩] at hleading
      cases hleading
    simpa using hnot
  | error e => simpa using (leading_eq_error_iff.1 hleading).1

end Version

open Version

theorem Severity.exists_between_of_not_isShort {current target : String}
    (hcurrent : ¬ IsShort current) (htarget : ¬ IsShort target) :
    ∃ severity, between current target = .ok severity := by
  obtain ⟨here, hhere⟩ := exists_leading_iff.2 hcurrent
  obtain ⟨there, hthere⟩ := exists_leading_iff.2 htarget
  unfold between
  rw [hhere, hthere]
  by_cases heq : current = target
  · exact ⟨_, if_pos heq⟩
  · rw [if_neg heq]
    by_cases hmajor : here.1 ≠ there.1
    · exact ⟨.major, if_pos hmajor⟩
    · by_cases hminor : here.2 ≠ there.2
      · exact ⟨.minor, (if_neg hmajor).trans (if_pos hminor)⟩
      · exact ⟨.patch, (if_neg hmajor).trans (if_neg hminor)⟩

theorem Severity.between_of_offends {current target version : String}
    (h : Offends current target version) : between current target = .error ⟨version⟩ := by
  unfold between
  cases h with
  | current hne hshort =>
    rw [if_neg hne, leading_eq_error_iff.2 ⟨hshort, rfl⟩]
    rfl
  | target hne hcurrent hshort =>
    obtain ⟨here, hhere⟩ := exists_leading_iff.2 hcurrent
    rw [if_neg hne, hhere, leading_eq_error_iff.2 ⟨hshort, rfl⟩]
    rfl

/-- The version that is complained of is the one that offends. -/
theorem Severity.between_eq_error_iff {current target : String} {e : MalformedVersion} :
    between current target = .error e ↔ Offends current target e.version := by
  refine ⟨fun h => ?_, between_of_offends⟩
  by_cases heq : current = target
  · rw [between, if_pos heq] at h
    cases h
  · by_cases hcurrent : IsShort current
    · have hoffends := Offends.current heq hcurrent
      rw [between_of_offends hoffends] at h
      cases h
      exact hoffends
    · by_cases htarget : IsShort target
      · have hoffends := Offends.target heq hcurrent htarget
        rw [between_of_offends hoffends] at h
        cases h
        exact hoffends
      · obtain ⟨severity, hok⟩ := exists_between_of_not_isShort hcurrent htarget
        rw [hok] at h
        cases h

end Patchwise

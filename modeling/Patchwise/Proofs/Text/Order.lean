import Mathlib.Tactic.SplitIfs
import Patchwise.Proofs.Text.Utf8

/-!
# The order of texts and of their bytes

Texts are ordered by their characters, the first difference deciding. Comparing their bytes instead
makes no difference: of two characters the one with the larger code has the larger bytes.

## Main results

- `Text.Utf8.encode_lt_encode_iff` — the order of bytes is the order of texts
-/

namespace Patchwise.Text.Utf8

theorem byte_lt_iff {m n : Nat} (hm : m < 256) (hn : n < 256) :
    UInt8.ofNat m < UInt8.ofNat n ↔ m < n := by
  rw [UInt8.lt_iff_toNat_lt, UInt8.toNat_ofNat', UInt8.toNat_ofNat']
  omega

theorem byte_eq_iff {m n : Nat} (hm : m < 256) (hn : n < 256) :
    UInt8.ofNat m = UInt8.ofNat n ↔ m = n := by
  rw [← UInt8.toNat_inj, UInt8.toNat_ofNat', UInt8.toNat_ofNat']
  omega

/-- A code has six bits in each byte after its first. -/
theorem lt_digits {m n : Nat} (h : m < n) :
    m / 64 < n / 64 ∨ m / 64 = n / 64 ∧ m % 64 < n % 64 := by
  omega

theorem fourBytes_append_lt {m n : Nat} (h : m < n) (hn : n < 0x110000)
    (bytes bytes' : List UInt8) :
    [UInt8.ofNat (m / 262144 % 8 + 240), UInt8.ofNat (m / 4096 % 64 + 128),
        UInt8.ofNat (m / 64 % 64 + 128), UInt8.ofNat (m % 64 + 128)] ++ bytes <
      [UInt8.ofNat (n / 262144 % 8 + 240), UInt8.ofNat (n / 4096 % 64 + 128),
        UInt8.ofNat (n / 64 % 64 + 128), UInt8.ofNat (n % 64 + 128)] ++ bytes' := by
  simp (disch := omega) only [List.cons_append, List.nil_append, List.cons_lt_cons_iff,
    byte_lt_iff, byte_eq_iff]
  have hm : m / 4096 = m / 64 / 64 ∧ m / 262144 = m / 64 / 64 / 64 := by omega
  have hn' : n / 4096 = n / 64 / 64 ∧ n / 262144 = n / 64 / 64 / 64 := by omega
  rw [hm.1, hm.2, hn'.1, hn'.2]
  obtain h₁ | ⟨h₁, hlast⟩ := lt_digits h
  · obtain h₂ | ⟨h₂, hlast⟩ := lt_digits h₁
    · obtain h₃ | ⟨h₃, hlast⟩ := lt_digits h₂
      · exact .inl (by omega)
      · exact .inr ⟨by omega, .inl (by omega)⟩
    · exact .inr ⟨by omega, .inr ⟨by omega, .inl (by omega)⟩⟩
  · exact .inr ⟨by omega, .inr ⟨by omega, .inr ⟨by omega, .inl (by omega)⟩⟩⟩

/-- The bytes of a character are larger than those of one with a smaller code, whatever is behind
them. -/
theorem encodeChar_append_lt {c d : Char} (h : c < d) (bytes bytes' : List UInt8) :
    String.utf8EncodeChar c ++ bytes < String.utf8EncodeChar d ++ bytes' := by
  have hd : d.val.toNat < 0x110000 := by
    have hvalid : d.toNat < 0xD800 ∨ 0xDFFF < d.toNat ∧ d.toNat < 0x110000 := d.valid
    change d.toNat < 0x110000
    omega
  have hcode : c.val.toNat < d.val.toNat := h
  unfold String.utf8EncodeChar
  dsimp only
  generalize c.val.toNat = m at hcode ⊢
  generalize d.val.toNat = n at hcode hd ⊢
  -- the larger code has no fewer bytes, and where it has more its first byte says so
  split_ifs
  all_goals first
    | exact fourBytes_append_lt hcode hd bytes bytes'
    | simp (disch := omega) only [List.cons_append, List.nil_append, List.cons_lt_cons_iff,
        byte_lt_iff, byte_eq_iff]
      omega

theorem encodeChar_ne_nil (c : Char) : String.utf8EncodeChar c ≠ [] := by
  unfold String.utf8EncodeChar
  dsimp only
  split_ifs <;> exact List.cons_ne_nil _ _

theorem flatMap_encodeChar_lt {cs ds : List Char} (h : cs < ds) :
    cs.flatMap String.utf8EncodeChar < ds.flatMap String.utf8EncodeChar := by
  induction h with
  | @nil d ds =>
    obtain ⟨byte, bytes, hd⟩ := List.exists_cons_of_ne_nil (encodeChar_ne_nil d)
    rw [List.flatMap_cons, hd]
    exact List.nil_lt_cons byte _
  | rel hcd => exact encodeChar_append_lt hcd _ _
  | cons _ ih => exact List.append_left_lt ih

/-- The bytes of a text are smaller than those of another just if the text is. -/
theorem encode_lt_encode_iff {a b : String} : encode a < encode b ↔ a < b := by
  have hmono : ∀ {a b : String}, a < b → encode a < encode b := by
    intro a b h
    rw [encode_eq_flatMap, encode_eq_flatMap]
    exact flatMap_encodeChar_lt h
  refine ⟨fun h => ?_, hmono⟩
  apply Decidable.byContradiction
  intro hab
  obtain hba | heq := List.le_iff_lt_or_eq.1 (List.not_lt.1 hab)
  · exact List.lt_asymm h (hmono hba)
  · rw [String.toList_inj.1 heq] at h
    exact List.lt_irrefl _ h

end Patchwise.Text.Utf8

import Patchwise.File

/-!
# Reading what was written

The bytes of a text are read as that text again, so a file that a text was written to holds the
text.

## Main results

- `Text.Utf8.decode?_encode` — decoding undoes encoding
- `File.text_encode` — the text of a file that a text was written to
-/

namespace Patchwise

namespace Text.Utf8

/-- A byte that is in its range adds its six bits to the character's code. -/
theorem finish_cons {code low high : Nat} {owed : List (Nat × Nat)} {byte : Nat}
    {bytes : List UInt8} (hbyte : byte < 256) (hlow : low ≤ byte) (hhigh : byte ≤ high) :
    finish code ((low, high) :: owed) (UInt8.ofNat byte :: bytes) =
      finish (code * 0x40 + byte % 0x40) owed bytes := by
  have hnat : (UInt8.ofNat byte).toNat = byte := by
    rw [UInt8.toNat_ofNat']
    omega
  rw [finish, hnat, if_pos (by simp [hlow, hhigh])]

/-- A byte that begins a character is read together with the bytes that it asks for. -/
theorem chunks_lead {lead : Nat} {bytes rest : List UInt8} {c : Char} (hbyte : lead < 256)
    (hlead : isLead lead = true)
    (hfinish : finish (leadBits lead) (continuations lead) bytes = (some c, rest)) :
    chunks (UInt8.ofNat lead :: bytes) = some c :: chunks rest := by
  have hnat : (UInt8.ofNat lead).toNat = lead := by
    rw [UInt8.toNat_ofNat']
    omega
  rw [chunks, hnat, if_pos hlead, hfinish]

theorem continuations_of_two {lead : Nat} (hlow : 0xC2 ≤ lead) (hhigh : lead ≤ 0xDF) :
    continuations lead = [(0x80, 0xBF)] := by
  simp [continuations, hlow, hhigh]

theorem continuations_of_three {lead : Nat} (hlow : 0xE0 ≤ lead) (hhigh : lead ≤ 0xEF) :
    continuations lead =
      [(if lead = 0xE0 then 0xA0 else 0x80, if lead = 0xED then 0x9F else 0xBF),
        (0x80, 0xBF)] := by
  grind [continuations]

theorem continuations_of_four {lead : Nat} (hlow : 0xF0 ≤ lead) (hhigh : lead ≤ 0xF4) :
    continuations lead =
      [(if lead = 0xF0 then 0x90 else 0x80, if lead = 0xF4 then 0x8F else 0xBF),
        (0x80, 0xBF), (0x80, 0xBF)] := by
  grind [continuations]

/-- The bytes of a character are one chunk. -/
theorem chunks_encodeChar (c : Char) (bytes : List UInt8) :
    chunks (String.utf8EncodeChar c ++ bytes) = some c :: chunks bytes := by
  have hvalid : c.toNat < 0xD800 ∨ 0xDFFF < c.toNat ∧ c.toNat < 0x110000 := c.valid
  have hcode : Char.ofNat c.toNat = c := Char.ofNat_toNat c
  unfold String.utf8EncodeChar
  simp only [show c.val.toNat = c.toNat from rfl]
  generalize c.toNat = code at hvalid hcode ⊢
  split
  next h =>
    -- a character in ASCII is its own byte, and the other three cases add a byte each
    refine chunks_lead (by omega) (by simp [isLead]; omega) ?_
    have howed : continuations code = [] := by grind [continuations]
    rw [howed, finish, leadBits, if_pos (by omega), hcode]
    rfl
  next h =>
    split
    next h' =>
      refine chunks_lead (by omega) (by simp [isLead]; omega) ?_
      have hbits : leadBits (code / 64 % 0x20 + 0xc0) = code / 64 := by
        rw [leadBits, if_neg (by omega), if_pos (by omega)]
        omega
      simp only [List.append_eq, List.cons_append, List.nil_append]
      rw [continuations_of_two (by omega) (by omega),
        finish_cons (by omega) (by omega) (by omega), finish, hbits, ← hcode]
      congr 3
      omega
    next h' =>
      split
      next h'' =>
        refine chunks_lead (by omega) (by simp [isLead]; omega) ?_
        have hbits : leadBits (code / 4096 % 0x10 + 0xe0) = code / 4096 := by
          rw [leadBits, if_neg (by omega), if_neg (by omega), if_pos (by omega)]
          omega
        simp only [List.append_eq, List.cons_append, List.nil_append]
        rw [continuations_of_three (by omega) (by omega),
          finish_cons (by omega) (by split <;> omega) (by split <;> omega),
          finish_cons (by omega) (by omega) (by omega), finish, hbits, ← hcode]
        congr 3
        omega
      next h'' =>
        refine chunks_lead (by omega) (by simp [isLead]; omega) ?_
        have hbits : leadBits (code / 262144 % 0x08 + 0xf0) = code / 262144 := by
          rw [leadBits, if_neg (by omega), if_neg (by omega), if_neg (by omega)]
          omega
        simp only [List.append_eq, List.cons_append, List.nil_append]
        rw [continuations_of_four (by omega) (by omega),
          finish_cons (by omega) (by split <;> omega) (by split <;> omega),
          finish_cons (by omega) (by omega) (by omega),
          finish_cons (by omega) (by omega) (by omega), finish, hbits, ← hcode]
        congr 3
        omega

/-- Taking the bytes of an array one by one takes all that are left. -/
theorem toList_loop (bytes : ByteArray) (n i : Nat) (taken : List UInt8)
    (hleft : bytes.size - i = n) :
    ByteArray.toList.loop bytes i taken = taken.reverse ++ bytes.data.toList.drop i := by
  induction n generalizing i taken with
  | zero =>
    have hsize : bytes.data.toList.length = bytes.size := rfl
    rw [ByteArray.toList.loop, if_neg (by omega), List.drop_of_length_le (by omega),
      List.append_nil]
  | succ n ih =>
    have hi : i < bytes.size := by omega
    have hget : bytes.get! i = bytes.data[i] := getElem!_pos bytes.data i hi
    rw [ByteArray.toList.loop, if_pos hi, ih (i + 1) _ (by omega), hget,
      List.drop_eq_getElem_cons (show i < bytes.data.toList.length from hi),
      Array.getElem_toList, List.reverse_cons, List.append_assoc, List.singleton_append]

/-- A text's bytes are those of its characters. -/
theorem encode_eq_flatMap (s : String) :
    encode s = s.toList.flatMap String.utf8EncodeChar := by
  rw [encode, String.toUTF8_eq_toByteArray, ← String.utf8Encode_toList, List.utf8Encode,
    ByteArray.toList, toList_loop _ _ 0 [] rfl, List.toList_data_toByteArray]
  rfl

/-- The characters of a text's bytes are those of the text. -/
theorem chunks_encode (s : String) : chunks (encode s) = s.toList.map some := by
  rw [encode_eq_flatMap]
  induction s.toList with
  | nil => simp [chunks]
  | cons c cs ih => rw [List.flatMap_cons, chunks_encodeChar, ih, List.map_cons]

theorem decode?_encode (s : String) : decode? (encode s) = some s := by
  have hmapM : ∀ cs : List Char, (cs.map some).mapM id = some cs := by
    intro cs
    induction cs with
    | nil => rfl
    | cons c cs ih => simp [ih]
  rw [decode?, chunks_encode, hmapM, Option.map_some, String.ofList_toList]

end Text.Utf8

/-- A file that a text was written to holds the text. -/
theorem File.text_encode (s : String) : File.text (Text.Utf8.encode s) = .ok s := by
  rw [File.text, Text.Utf8.decode?_encode]

end Patchwise

import Mathlib.Algebra.Group.Nat.Defs
import Patchwise.Timestamp

/-!
# Times that are written and read

The text of a point in time is read back as that point in time. Every field is read by itself: it
has a width, or it ends in front of a character that is no digit.

## Main results

- `Timestamp.fixed?_padded` — a number in a field that is wide enough is read back
- `Timestamp.ofText?_toText` — so is a point in time
-/

namespace Patchwise.Timestamp

/-! ## Numbers in fields -/

theorem ofDigits_eq (digits : List Char) : ofDigits digits = Nat.ofDigitChars 10 digits 0 := by
  simp only [ofDigits, Nat.ofDigitChars, Nat.mul_comm]

theorem toList_padded (width n : Nat) :
    (padded width n).toList =
      List.replicate (width - (Nat.toDigits 10 n).length) '0' ++ Nat.toDigits 10 n := by
  simp only [padded, Nat.toString_eq_repr, String.toList_append, String.toList_ofList,
    Nat.toList_repr, ← String.length_toList]

theorem isDigit_padded (width n : Nat) : ∀ c ∈ (padded width n).toList, c.isDigit = true := by
  intro c hmem
  rw [toList_padded, List.mem_append] at hmem
  obtain hzero | hdigit := hmem
  · rw [List.eq_of_mem_replicate hzero]
    rfl
  · exact Nat.isDigit_of_mem_toDigits (by decide) (by decide) hdigit

theorem ofDigits_padded (width n : Nat) : ofDigits (padded width n).toList = n := by
  rw [ofDigits_eq, toList_padded, Nat.ofDigitChars_append, Nat.ofDigitChars_replicate_zero,
    Nat.mul_zero, Nat.ofDigitChars_ten_toDigits]

theorem length_padded {width n : Nat} (hwidth : 0 < width) (h : n < 10 ^ width) :
    (padded width n).toList.length = width := by
  have hle : (Nat.toDigits 10 n).length ≤ width :=
    (Nat.length_toDigits_le_iff (by decide) hwidth).2 h
  rw [toList_padded, List.length_append, List.length_replicate]
  omega

theorem le_length_padded (width n : Nat) : width ≤ (padded width n).toList.length := by
  rw [toList_padded, List.length_append, List.length_replicate]
  omega

/-- A number in a field that is wide enough for it is read back. -/
theorem fixed?_padded {width n : Nat} (hwidth : 0 < width) (h : n < 10 ^ width)
    (rest : List Char) : fixed? width ((padded width n).toList ++ rest) = some (n, rest) := by
  have hlength := length_padded hwidth h
  have htake : ((padded width n).toList ++ rest).take width = (padded width n).toList :=
    List.take_left' hlength
  have hdrop : ((padded width n).toList ++ rest).drop width = rest := List.drop_left' hlength
  have hall : (padded width n).toList.all Char.isDigit = true :=
    List.all_eq_true.2 (isDigit_padded width n)
  simp only [fixed?, htake, hdrop, hlength, hall, ofDigits_padded, decide_true, Bool.and_self,
    if_true]

/-- Digits end in front of a character that is none. -/
theorem takeWhile_digits {digits : List Char} (hdigits : ∀ c ∈ digits, c.isDigit = true) {c : Char}
    (hc : c.isDigit = false) (rest : List Char) :
    (digits ++ c :: rest).takeWhile Char.isDigit = digits ∧
      (digits ++ c :: rest).dropWhile Char.isDigit = c :: rest := by
  rw [List.takeWhile_append_of_pos hdigits, List.dropWhile_append_of_pos hdigits]
  simp [hc]

/-! ## Parts of a time -/

theorem signed_padded (sign : Int) (n : Nat) (rest : List Char) :
    year?.signed sign ((padded 4 n).toList ++ '-' :: rest) = some (sign * n, '-' :: rest) := by
  obtain ⟨htake, hdrop⟩ := takeWhile_digits (isDigit_padded 4 n) (c := '-') rfl rest
  have hlength : ¬ (padded 4 n).toList.length < 4 := by
    have := le_length_padded 4 n
    omega
  simp only [year?.signed, htake, hdrop, if_neg hlength, ofDigits_padded]

theorem exists_padded_cons {width : Nat} (hwidth : 0 < width) (n : Nat) :
    ∃ c cs, (padded width n).toList = c :: cs ∧ c.isDigit = true := by
  cases hdigits : (padded width n).toList with
  | nil =>
    have := le_length_padded width n
    rw [hdigits, List.length_nil] at this
    omega
  | cons c cs => exact ⟨c, cs, rfl, isDigit_padded width n c (hdigits ▸ List.mem_cons_self)⟩

theorem year?_yearText (year : Int) (rest : List Char) :
    year? ((yearText year).toList ++ '-' :: rest) = some (year, '-' :: rest) := by
  unfold yearText
  split
  next hshort =>
    simp only [Bool.and_eq_true, decide_eq_true_eq] at hshort
    have hfixed : fixed? 4 ((padded 4 year.toNat).toList ++ '-' :: rest) =
        some (year.toNat, '-' :: rest) := fixed?_padded (by decide) (by omega) _
    obtain ⟨c, cs, hdigits, hc⟩ := exists_padded_cons (show 0 < 4 by decide) year.toNat
    rw [hdigits, List.cons_append] at hfixed ⊢
    unfold year?
    split
    next heq => cases heq; cases hc
    next heq => cases heq; cases hc
    next =>
      rw [hfixed, Option.map_some]
      dsimp only
      rw [Int.toNat_of_nonneg hshort.1]
  next hlong =>
    simp only [Bool.and_eq_true, decide_eq_true_eq, not_and] at hlong
    by_cases hnegative : year < 0
    · have hsign : ("-" ++ padded 4 year.natAbs).toList = '-' :: (padded 4 year.natAbs).toList := by
        simp
      rw [if_pos hnegative, hsign, List.cons_append, year?, signed_padded,
        show (-1 * year.natAbs : Int) = year by omega]
    · have hsign : ("+" ++ padded 4 year.natAbs).toList = '+' :: (padded 4 year.natAbs).toList := by
        simp
      rw [if_neg hnegative, hsign, List.cons_append, year?, signed_padded,
        show (1 * year.natAbs : Int) = year by omega]

/-- Digits behind the point count as many billionths as their places say. -/
theorem fraction?_padded {width n : Nat} (hwidth : 0 < width) (hle : width ≤ 9)
    (h : n < 10 ^ width) (rest : List Char) :
    fraction? ('.' :: ((padded width n).toList ++ 'Z' :: rest)) =
      some (10 ^ (9 - width) * n, 'Z' :: rest) := by
  obtain ⟨htake, hdrop⟩ := takeWhile_digits (isDigit_padded width n) (c := 'Z') rfl rest
  have hlength := length_padded hwidth h
  have hsome : (padded width n).toList.isEmpty = false := by
    rw [List.isEmpty_eq_false_iff]
    intro hnil
    rw [hnil, List.length_nil] at hlength
    omega
  have hnine : ((padded width n).toList ++ List.replicate 9 '0').take 9 =
      (padded width n).toList ++ List.replicate (9 - width) '0' := by
    rw [List.take_append, hlength, List.take_of_length_le (by omega), List.take_replicate,
      Nat.min_eq_left (by omega)]
  have hvalue : ofDigits ((padded width n).toList ++ List.replicate (9 - width) '0') =
      10 ^ (9 - width) * n := by
    rw [ofDigits_eq, Nat.ofDigitChars_append, ← ofDigits_eq, ofDigits_padded,
      Nat.ofDigitChars_replicate_zero]
  simp only [fraction?, htake, hdrop, hsome, hnine, hvalue, Bool.false_eq_true, if_false]

theorem fraction?_fractionText {nanosecond : Nat} (h : nanosecond < 1000000000)
    (rest : List Char) :
    fraction? ((fractionText nanosecond).toList ++ 'Z' :: rest) =
      some (nanosecond, 'Z' :: rest) := by
  have hpoint : ∀ text : String, ("." ++ text).toList = '.' :: text.toList := by simp
  unfold fractionText
  split
  next hzero =>
    rw [hzero]
    rfl
  next =>
    split
    next hmilli =>
      rw [hpoint, List.cons_append, fraction?_padded (by decide) (by decide) (by omega),
        show 10 ^ (9 - 3) * (nanosecond / 1000000) = nanosecond by omega]
    next =>
      split
      next hmicro =>
        rw [hpoint, List.cons_append, fraction?_padded (by decide) (by decide) (by omega),
          show 10 ^ (9 - 6) * (nanosecond / 1000) = nanosecond by omega]
      next =>
        rw [hpoint, List.cons_append, fraction?_padded (by decide) (by decide) (by omega),
          show 10 ^ (9 - 9) * nanosecond = nanosecond by omega]

/-! ## Times -/

/-- What the fields of a valid time are less than. -/
theorem bounds_of_isValid {t : Timestamp} (h : t.isValid = true) :
    t.month < 100 ∧ t.day < 100 ∧ t.hour < 24 ∧ t.minute < 60 ∧ t.second < 100 ∧
      t.nanosecond < 1000000000 := by
  simp only [isValid, Bool.and_eq_true, decide_eq_true_eq] at h
  have hday : daysIn t.year t.month ≤ 31 := by
    unfold daysIn
    split
    · split <;> omega
    · split <;> omega
  omega

theorem minutesBefore_zero {t : Timestamp} (hhour : t.hour < 24) (hminute : t.minute < 60) :
    t.minutesBefore 0 = t := by
  have htotal : ((t.hour * 60 + t.minute : Int) - 0) = ((t.hour * 60 + t.minute : Nat) : Int) := by
    push_cast
    omega
  have hhours : ((t.hour * 60 + t.minute : Nat) % 1440 : Int).toNat / 60 = t.hour := by omega
  have hminutes : ((t.hour * 60 + t.minute : Nat) % 1440 : Int).toNat % 60 = t.minute := by omega
  simp only [minutesBefore, htotal, hhours, hminutes]
  rw [if_neg (by omega), if_pos (by omega)]

theorem toList_toText (t : Timestamp) :
    t.toText.toList =
      (yearText t.year).toList ++ '-' :: ((padded 2 t.month).toList ++ '-' ::
        ((padded 2 t.day).toList ++ 'T' :: ((padded 2 t.hour).toList ++ ':' ::
          ((padded 2 t.minute).toList ++ ':' :: ((padded 2 t.second).toList ++
            ((fractionText t.nanosecond).toList ++ ['Z'])))))) := by
  simp [toText]

theorem bind_eq_some_of {α β : Type} {found : Option α} {a : α} {rest : α → Option β} {b : β}
    (hfound : found = some a) (hrest : rest a = some b) : found >>= rest = some b := by
  rw [hfound]
  exact hrest

/-- The text of a point in time is read back. -/
theorem ofText?_toText {t : Timestamp} (h : t.isValid = true) : ofText? t.toText = some t := by
  obtain ⟨hmonth, hday, hhour, hminute, hsecond, hnano⟩ := bounds_of_isValid h
  have hfield : ∀ n rest, n < 100 → fixed? 2 ((padded 2 n).toList ++ rest) = some (n, rest) :=
    fun n rest hn => fixed?_padded (by decide) hn rest
  rw [ofText?, toList_toText]
  -- field by field: a mark is read by evaluation, and a number by its width
  apply bind_eq_some_of (year?_yearText _ _)
  apply bind_eq_some_of rfl
  apply bind_eq_some_of (hfield _ _ hmonth)
  apply bind_eq_some_of rfl
  apply bind_eq_some_of (hfield _ _ hday)
  apply bind_eq_some_of rfl
  apply bind_eq_some_of (hfield _ _ (Nat.lt_trans hhour (by decide)))
  apply bind_eq_some_of rfl
  apply bind_eq_some_of (hfield _ _ (Nat.lt_trans hminute (by decide)))
  apply bind_eq_some_of rfl
  apply bind_eq_some_of (hfield _ _ hsecond)
  apply bind_eq_some_of (fraction?_fractionText hnano _)
  apply bind_eq_some_of rfl
  have hzero := minutesBefore_zero hhour hminute
  exact (if_pos h).trans (congrArg some hzero)

end Patchwise.Timestamp

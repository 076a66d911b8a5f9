import Mathlib
import ServiceLinker.Timestamp

/-!
# Printed timestamps are read back

Every part of a canonical timestamp is a row of digits of known length or ends at a mark that is no
digit, so the reader takes it apart where the printer put it together.
-/

namespace ServiceLinker.Proofs

open Text (digitsValue padded isBlank)
open Timestamp

/-! ### Rows of digits -/

lemma digitsValue_eq_ofDigitChars (ds : List Char) :
    digitsValue ds = Nat.ofDigitChars 10 ds 0 := rfl

lemma digitsValue_padded (width n : Nat) : digitsValue (padded width n) = n := by
  rw [digitsValue_eq_ofDigitChars, padded, Text.padZeros, Nat.ofDigitChars_append,
    Nat.ofDigitChars_replicate_zero, Nat.mul_zero, Nat.ofDigitChars_ten_toDigits]

lemma length_padded {width n : Nat} (hw : 0 < width) (hn : n < 10 ^ width) :
    (padded width n).length = width := by
  have hlen : (Nat.toDigits 10 n).length ≤ width :=
    (Nat.length_toDigits_le_iff (by decide) hw).mpr hn
  rw [padded, Text.padZeros, List.length_append, List.length_replicate]
  omega

lemma isDigit_of_mem_padded {width n : Nat} {c : Char} (h : c ∈ padded width n) :
    c.isDigit = true := by
  rw [padded, Text.padZeros, List.mem_append] at h
  rcases h with h | h
  · rw [List.eq_of_mem_replicate h]
    decide
  · exact Nat.isDigit_of_mem_toDigits (by decide) (by decide) h

lemma padded_ne_nil (width n : Nat) : padded width n ≠ [] := by
  rw [padded, Text.padZeros]
  exact List.append_ne_nil_of_right_ne_nil _ Nat.toDigits_ne_nil

lemma isBlank_of_isDigit {c : Char} (h : c.isDigit = true) : isBlank c = false := by
  have hc : 48 ≤ c.toNat ∧ c.toNat ≤ 57 := by
    simpa [Char.isDigit, Char.le_def, UInt32.le_iff_toNat_le] using h
  simp [isBlank]
  omega

lemma trimStart_cons_of_not_blank {c : Char} (h : isBlank c = false) (cs : List Char) :
    Text.trimStart (c :: cs) = c :: cs := by
  rw [Text.trimStart, List.dropWhile_cons_of_neg (by simp [h])]

lemma trimStart_padded (width n : Nat) (rest : List Char) :
    Text.trimStart (padded width n ++ rest) = padded width n ++ rest := by
  obtain ⟨d, ds, hd⟩ := List.exists_cons_of_ne_nil (padded_ne_nil width n)
  have hdigit : d.isDigit = true := isDigit_of_mem_padded (by rw [hd]; exact List.mem_cons_self)
  rw [hd, List.cons_append]
  exact trimStart_cons_of_not_blank (isBlank_of_isDigit hdigit) _

/-! ### Numbers -/

/-- A row of digits is read whole if it fills the width or something else follows it. -/
lemma number?_append {width : Nat} {ds rest : List Char} (hd : ∀ c ∈ ds, c.isDigit = true)
    (hne : ds ≠ []) (hlen : ds.length ≤ width)
    (hstop : ds.length = width ∨ ∃ c cs, rest = c :: cs ∧ c.isDigit = false) :
    number? width (ds ++ rest) = some (digitsValue ds, rest) := by
  have htake : ((ds ++ rest).take width).takeWhile Char.isDigit = ds := by
    rw [List.take_append, List.take_of_length_le hlen, List.takeWhile_append_of_pos hd]
    rcases hstop with h | ⟨c, cs, rfl, hc⟩
    · rw [h, Nat.sub_self, List.take_zero, List.takeWhile_nil, List.append_nil]
    · cases hw : width - ds.length with
      | zero => rw [List.take_zero, List.takeWhile_nil, List.append_nil]
      | succ m =>
        rw [List.take_succ_cons, List.takeWhile_cons_of_neg (by simp [hc]), List.append_nil]
  simp only [number?, htake, List.isEmpty_iff, hne, if_false, List.drop_left]

lemma number?_padded {width n : Nat} (hw : 0 < width) (hn : n < 10 ^ width) (rest : List Char) :
    number? width (padded width n ++ rest) = some (n, rest) := by
  have hlen := length_padded hw hn
  rw [number?_append (fun c hc => isDigit_of_mem_padded hc) (padded_ne_nil width n) hlen.le
    (Or.inl hlen), digitsValue_padded]

lemma twoDigits?_padded {n : Nat} (hn : n < 100) (rest : List Char) :
    twoDigits? (padded 2 n ++ rest) = some (n, rest) := by
  rw [twoDigits?, trimStart_padded]
  exact number?_padded (by decide) hn rest

lemma separator?_cons {c : Char} (h : isBlank c = false) (cs : List Char) :
    separator? c (c :: cs) = some cs := by
  rw [separator?, trimStart_cons_of_not_blank h]
  simp [Text.after?]

/-- A year is read back in front of the hyphen that ends it. -/
lemma year?_printYear (year : Int) (rest : List Char) :
    year? (printYear year ++ '-' :: rest) = some (year, '-' :: rest) := by
  have hsigned : ∀ n : Nat, number? (padded 4 n ++ '-' :: rest).length (padded 4 n ++ '-' :: rest) =
      some (n, '-' :: rest) := by
    intro n
    rw [number?_append (fun c hc => isDigit_of_mem_padded hc) (padded_ne_nil 4 n)
      (by rw [List.length_append]; omega) (Or.inr ⟨'-', rest, rfl, by decide⟩),
      digitsValue_padded]
  unfold printYear
  by_cases h : (0 ≤ year && year ≤ 9999) = true
  · have hy : 0 ≤ year ∧ year ≤ 9999 := by simpa using h
    rw [if_pos h, year?, trimStart_padded]
    have hnumber : number? 4 (padded 4 year.toNat ++ '-' :: rest) =
        some (year.toNat, '-' :: rest) := number?_padded (by decide) (by omega) _
    obtain ⟨d, ds, hd⟩ := List.exists_cons_of_ne_nil (padded_ne_nil 4 year.toNat)
    have hdigit : d.isDigit = true :=
      isDigit_of_mem_padded (by rw [hd]; exact List.mem_cons_self)
    rw [hd, List.cons_append] at hnumber ⊢
    split
    · next heq =>
      rw [List.cons.injEq] at heq
      rw [heq.1] at hdigit
      exact absurd hdigit (by decide)
    · next heq =>
      rw [List.cons.injEq] at heq
      rw [heq.1] at hdigit
      exact absurd hdigit (by decide)
    · rw [hnumber]
      change some ((year.toNat : Int), '-' :: rest) = some (year, '-' :: rest)
      rw [Int.toNat_of_nonneg hy.1]
  · have hy : ¬(0 ≤ year ∧ year ≤ 9999) := by simpa using h
    rw [if_neg h, List.cons_append]
    by_cases hneg : year < 0
    · have habs : -(year.natAbs : Int) = year := by omega
      rw [if_pos hneg, year?, trimStart_cons_of_not_blank (by decide)]
      change (number? _ (padded 4 year.natAbs ++ '-' :: rest)).map _ = _
      rw [hsigned]
      change some (-(year.natAbs : Int), '-' :: rest) = some (year, '-' :: rest)
      rw [habs]
    · have habs : (year.natAbs : Int) = year := by omega
      rw [if_neg hneg, year?, trimStart_cons_of_not_blank (by decide)]
      change (number? _ (padded 4 year.natAbs ++ '-' :: rest)).map _ = _
      rw [hsigned]
      change some ((year.natAbs : Int), '-' :: rest) = some (year, '-' :: rest)
      rw [habs]

/-! ### Fractions and offsets -/

lemma digitsValue_append_zeros (ds : List Char) (k : Nat) :
    digitsValue (ds ++ List.replicate k '0') = 10 ^ k * digitsValue ds := by
  rw [digitsValue_eq_ofDigitChars, Nat.ofDigitChars_append, Nat.ofDigitChars_replicate_zero,
    digitsValue_eq_ofDigitChars]

lemma fraction?_padded {width n : Nat} (hw : 0 < width) (hw9 : width ≤ 9) (hn : n < 10 ^ width) :
    fraction? ('.' :: padded width n ++ ['Z']) = some (10 ^ (9 - width) * n, ['Z']) := by
  have hlen := length_padded hw hn
  have hdigits : (padded width n ++ ['Z']).takeWhile Char.isDigit = padded width n := by
    rw [List.takeWhile_append_of_pos fun c hc => isDigit_of_mem_padded hc,
      List.takeWhile_cons_of_neg (by decide), List.append_nil]
  have hnine : (padded width n ++ List.replicate 9 '0').take 9 =
      padded width n ++ List.replicate (9 - width) '0' := by
    rw [List.take_append, List.take_of_length_le (by omega), List.take_replicate, hlen]
    congr 2
    omega
  rw [List.cons_append, fraction?, hdigits]
  simp only [List.isEmpty_iff, padded_ne_nil, if_false, hnine, digitsValue_append_zeros,
    digitsValue_padded, List.drop_left]

lemma fraction?_printFraction {n : Nat} (hn : n < 1000000000) :
    fraction? (printFraction n ++ ['Z']) = some (n, ['Z']) := by
  unfold printFraction
  split_ifs with h0 h6 h3
  · rw [h0]
    rfl
  · rw [fraction?_padded (by decide) (by decide) (by omega)]
    congr 2
    omega
  · rw [fraction?_padded (by decide) (by decide) (by omega)]
    congr 2
    omega
  · rw [fraction?_padded (by decide) (by decide) (by omega)]
    congr 2
    omega

/-- A clock that is not ahead shows the moment itself. -/
lemma ofLocal_zero {t : Timestamp} (hh : t.hour ≤ 23) (hm : t.minute ≤ 59) : t.ofLocal 0 = t := by
  obtain ⟨year, month, day, hour, minute, second, nanosecond⟩ := t
  dsimp only at hh hm
  have hpos : ¬((hour * 60 + minute : Nat) : Int) - 0 < 0 := by omega
  have hday : ((hour * 60 + minute : Nat) : Int) - 0 < dayMinutes := by
    simp only [dayMinutes]
    omega
  have hminutes : (((hour * 60 + minute : Nat) : Int) - 0).toNat = hour * 60 + minute := by omega
  simp only [ofLocal, if_neg hpos, if_pos hday, hminutes, atMinute]
  congr 1 <;> omega

/-- The canonical text of a moment is read back as that moment. -/
theorem ofText?_toText {t : Timestamp} (ht : t.isMoment = true)
    (hn : t.nanosecond < 1000000000) : ofText? t.toText = some t := by
  have hfields := ht
  simp only [isMoment, Bool.and_eq_true, decide_eq_true_eq] at hfields
  obtain ⟨⟨⟨⟨⟨⟨⟨⟨-, -⟩, -⟩, hmonth⟩, -⟩, hday⟩, hhour⟩, hminute⟩, hsecond⟩ := hfields
  have hdays : daysIn t.year t.month ≤ 31 := by
    unfold daysIn
    split_ifs <;> omega
  have hlocal := ofLocal_zero hhour hminute
  rw [ofText?, toText, String.toList_ofList]
  simp only [List.append_assoc, List.cons_append]
  rw [year?_printYear]
  simp only [Option.bind_eq_bind, Option.bind_some]
  rw [separator?_cons (by decide), Option.bind_some, twoDigits?_padded (by omega)]
  simp only [Option.bind_some]
  rw [separator?_cons (by decide), Option.bind_some, twoDigits?_padded (by omega)]
  simp only [Option.bind_some, dateEnd?]
  simp only [decide_true, Bool.true_or, if_true, Option.bind_some]
  rw [twoDigits?_padded (by omega)]
  simp only [Option.bind_some]
  rw [separator?_cons (by decide), Option.bind_some, twoDigits?_padded (by omega)]
  simp only [Option.bind_some]
  rw [separator?_cons (by decide), Option.bind_some, twoDigits?_padded (by omega)]
  simp only [Option.bind_some]
  rw [fraction?_printFraction hn]
  simp only [Option.bind_some]
  rw [trimStart_cons_of_not_blank (by decide)]
  simp only [offset?, Option.bind_some, Text.trimStart, List.dropWhile_nil, List.isEmpty_nil,
    hlocal, ht, Bool.and_self, if_true]

end ServiceLinker.Proofs

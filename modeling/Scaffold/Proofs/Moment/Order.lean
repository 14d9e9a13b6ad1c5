import Mathlib.Data.Char
import Scaffold.Proofs.Moment.Calendar

/-!
Texts of moments in the order of their bytes.  In years of four digits it is the order of time: all
numbers are padded to the same width and the greater units come first, as they do in counting days
and seconds.  A leap second comes behind the second that it follows.
-/

namespace Scaffold

namespace Text

def bytes (text : String) : List UInt8 := text.toUTF8.data.toList

theorem bytes_of_ascii {text : String} (ascii : ∀ c ∈ text.toList, c.toNat < 128) :
    bytes text = text.toList.map Char.toUInt8 := by
  have stored : text.toByteArray = (text.toList.flatMap String.utf8EncodeChar).toByteArray := by
    conv_lhs => rw [← String.ofList_toList (s := text)]
    exact String.toByteArray_ofList
  rw [bytes, String.toUTF8_eq_toByteArray, stored, List.data_toByteArray, List.map_eq_flatMap]
  apply List.flatMap_congr
  intro c among
  apply String.utf8EncodeChar_eq_singleton
  exact Char.utf8Size_eq_one_iff.mpr (Nat.le_of_lt_succ (ascii c among))

theorem toNat_toUInt8 {c : Char} (ascii : c.toNat < 128) : c.toUInt8.toNat = c.toNat := by
  rw [Char.toUInt8, UInt32.toNat_toUInt8]
  exact Nat.mod_eq_of_lt (Nat.lt_trans ascii (by decide))

theorem bytes_lt_bytes_iff {first second : String} (ascii : ∀ c ∈ first.toList, c.toNat < 128)
    (asciiToo : ∀ c ∈ second.toList, c.toNat < 128) :
    bytes first < bytes second ↔ first.toList < second.toList := by
  rw [bytes_of_ascii ascii, bytes_of_ascii asciiToo]
  generalize first.toList = front at ascii ⊢
  generalize second.toList = other at asciiToo ⊢
  induction front generalizing other with
  | nil => cases other <;> simp
  | cons c rest inductionHypothesis =>
    cases other with
    | nil => simp
    | cons d later =>
      rw [List.forall_mem_cons] at ascii asciiToo
      have own := toNat_toUInt8 ascii.1
      have its := toNat_toUInt8 asciiToo.1
      have less : c.toUInt8 < d.toUInt8 ↔ c < d := by
        rw [UInt8.lt_iff_toNat_lt, own, its]
        rfl
      have same : c.toUInt8 = d.toUInt8 ↔ c = d := by
        rw [← UInt8.toNat_inj, own, its, Char.toNat_inj]
      simp only [List.map_cons, List.cons_lt_cons_iff, less, same,
        inductionHypothesis ascii.2 later asciiToo.2]

theorem append_lt_append_iff {front other back rest : List Char}
    (same : front.length = other.length) :
    front ++ back < other ++ rest ↔ front < other ∨ front = other ∧ back < rest := by
  induction front generalizing other with
  | nil =>
    have empty := List.eq_nil_of_length_eq_zero same.symm
    simp [empty]
  | cons c front inductionHypothesis =>
    cases other with
    | nil => simp at same
    | cons d other =>
      simp only [List.cons_append, List.cons_lt_cons_iff, List.cons.injEq,
        inductionHypothesis (Nat.succ.inj same)]
      tauto

theorem ofDigitChars_cons (c : Char) (digits : List Char) :
    Nat.ofDigitChars 10 (c :: digits) 0 =
      10 ^ digits.length * (c.toNat - 48) + Nat.ofDigitChars 10 digits 0 := by
  rw [Nat.ofDigitChars_cons, Nat.ofDigitChars_eq_ofDigitChars_zero]
  simp

theorem digit_le {c : Char} (digit : c.isDigit = true) : 48 ≤ c.toNat ∧ c.toNat ≤ 57 :=
  Char.isDigit_iff_toNat.mp digit

theorem ofDigitChars_lt {digits : List Char} (numbers : ∀ c ∈ digits, c.isDigit = true) :
    Nat.ofDigitChars 10 digits 0 < 10 ^ digits.length := by
  induction digits with
  | nil => simp
  | cons c rest inductionHypothesis =>
    obtain ⟨digit, later⟩ := List.forall_mem_cons.mp numbers
    have bounds := digit_le digit
    have most : 10 ^ rest.length * (c.toNat - 48) ≤ 10 ^ rest.length * 9 := by
      apply Nat.mul_le_mul_left
      omega
    have less := inductionHypothesis later
    rw [ofDigitChars_cons, List.length_cons, Nat.pow_succ]
    omega

theorem mul_add_lt_mul_add {size first second rest : Nat} (fits : rest < size)
    (less : first < second)
    (other : Nat) : size * first + rest < size * second + other := by
  have next : size * (first + 1) ≤ size * second := Nat.mul_le_mul_left size less
  rw [Nat.mul_add_one] at next
  omega

/-- Numbers of the same width are ordered as their digits are. -/
theorem ofDigitChars_lt_iff {digits others : List Char}
    (numbers : ∀ c ∈ digits, c.isDigit = true) (numbersToo : ∀ c ∈ others, c.isDigit = true)
    (same : digits.length = others.length) :
    Nat.ofDigitChars 10 digits 0 < Nat.ofDigitChars 10 others 0 ↔ digits < others := by
  induction digits generalizing others with
  | nil =>
    have empty := List.eq_nil_of_length_eq_zero same.symm
    simp [empty]
  | cons c rest inductionHypothesis =>
    cases others with
    | nil => simp at same
    | cons d later =>
      obtain ⟨digit, digits⟩ := List.forall_mem_cons.mp numbers
      obtain ⟨digitToo, digitsToo⟩ := List.forall_mem_cons.mp numbersToo
      have lengths : rest.length = later.length := Nat.succ.inj same
      have bounds := digit_le digit
      have boundsToo := digit_le digitToo
      rw [List.cons_lt_cons_iff, ← inductionHypothesis digits digitsToo lengths,
        ofDigitChars_cons, ofDigitChars_cons]
      apply lt_iff_of_units
      · intro (less : c.toNat < d.toNat)
        rw [lengths]
        apply mul_add_lt_mul_add (lengths ▸ ofDigitChars_lt digits)
        omega
      · intro (less : d.toNat < c.toNat)
        rw [lengths]
        apply mul_add_lt_mul_add (ofDigitChars_lt digitsToo)
        omega
      · rintro rfl
        rw [lengths]
        exact Nat.add_lt_add_iff_left

end Text

namespace Moment

open Text

theorem padded_append_lt_iff {width number other : Nat} {back rest : List Char}
    (fits : FitsIn width number) (fitsToo : FitsIn width other) :
    (padded width number).toList ++ back < (padded width other).toList ++ rest ↔
      number < other ∨ number = other ∧ back < rest := by
  have lengths : (padded width number).toList.length = (padded width other).toList.length := by
    rw [String.length_toList, String.length_toList, length_padded fits, length_padded fitsToo]
  have digits := ofDigitChars_lt_iff (fun _ => isDigit_of_mem_padded)
    (fun _ => isDigit_of_mem_padded) lengths
  rw [ofDigitChars_padded, ofDigitChars_padded] at digits
  rw [append_lt_append_iff lengths, ← digits, String.toList_inj, padded_inj]

def HasPlainYear (moment : Moment) : Prop := 0 ≤ moment.year ∧ moment.year ≤ 9999

theorem HasPlainYear.fits {moment : Moment} (plain : moment.HasPlainYear) :
    FitsIn 4 moment.year.toNat := by
  unfold HasPlainYear at plain
  apply fitsIn_four
  omega

theorem toList_text {moment : Moment} (plain : moment.HasPlainYear) :
    moment.text.toList =
      (padded 4 moment.year.toNat).toList ++ '-' :: ((padded 2 moment.month).toList ++
        '-' :: ((padded 2 moment.day).toList ++ ' ' :: ((padded 2 moment.hour).toList ++
          ':' :: ((padded 2 moment.minute).toList ++
            ':' :: ((padded 2 moment.shownSecond).toList ++ []))))) := by
  have dash : "-".toList = ['-'] := by decide
  have blank : " ".toList = [' '] := by decide
  have colon : ":".toList = [':'] := by decide
  simp only [text, yearText_of_within plain, String.toList_append, dash, blank, colon,
    List.append_assoc, List.cons_append, List.nil_append, List.append_nil]

theorem length_text {moment : Moment} (fits : moment.Fits) (plain : moment.HasPlainYear) :
    moment.text.length = 19 := by
  rw [← String.length_toList, toList_text plain]
  simp only [List.length_append, List.length_cons, List.length_nil, String.length_toList,
    length_padded plain.fits, length_padded fits.month, length_padded fits.day,
    length_padded fits.hour, length_padded fits.minute, length_padded fits.second]

theorem ascii_of_mem_text (moment : Moment) : ∀ c ∈ moment.text.toList, c.toNat < 128 := by
  intro c among
  have known := List.all_eq_true.mp moment.all_isTextChar_text c among
  rcases Bool.or_eq_true_iff.mp known with digit | mark
  · exact Nat.lt_of_le_of_lt (digit_le digit).2 (by decide)
  · have every : ['-', '+', ' ', ':'].all (·.toNat < 128) = true := by decide
    simpa using List.all_eq_true.mp every c (List.contains_iff_mem.mp mark)

theorem bytes_text_lt_iff {first second : Moment} (fits : first.Fits) (fitsToo : second.Fits)
    (plain : first.HasPlainYear) (plainToo : second.HasPlainYear) :
    bytes first.text < bytes second.text ↔ first.numbers < second.numbers := by
  have year : first.year.toNat < second.year.toNat ↔ first.year < second.year := by
    unfold HasPlainYear at plain plainToo
    omega
  have sameYear : first.year.toNat = second.year.toNat ↔ first.year = second.year := by
    unfold HasPlainYear at plain plainToo
    omega
  rw [bytes_lt_bytes_iff first.ascii_of_mem_text second.ascii_of_mem_text, toList_text plain,
    toList_text plainToo, padded_append_lt_iff plain.fits plainToo.fits,
    List.cons_lt_cons_self, padded_append_lt_iff fits.month fitsToo.month,
    List.cons_lt_cons_self, padded_append_lt_iff fits.day fitsToo.day,
    List.cons_lt_cons_self, padded_append_lt_iff fits.hour fitsToo.hour,
    List.cons_lt_cons_self, padded_append_lt_iff fits.minute fitsToo.minute,
    List.cons_lt_cons_self, padded_append_lt_iff fits.second fitsToo.second]
  simp only [numbers, List.cons_lt_cons_iff, List.not_lt_nil, year, sameYear, Int.ofNat_lt,
    Int.ofNat_inj]

/-- The text of a moment tells the second in which it lies, and nothing else.  In years of four
digits texts have one and the same length, and the order of their bytes is that of time. -/
theorem text_tells_second {first second : Moment} (valid : first.Valid) (validToo : second.Valid) :
    (first.text = second.text ↔ first.SameSecond second) ∧
    (first.HasPlainYear → first.text.length = 19 ∧ (bytes first.text).length = 19 ∧
      (second.HasPlainYear → (bytes first.text < bytes second.text ↔ first.Earlier second))) := by
  refine ⟨text_inj valid.fits validToo.fits, fun plain => ⟨length_text valid.fits plain, ?_, ?_⟩⟩
  · rw [bytes_of_ascii first.ascii_of_mem_text, List.length_map, String.length_toList,
      length_text valid.fits plain]
  · intro plainToo
    rw [bytes_text_lt_iff valid.fits validToo.fits plain plainToo, earlier_iff valid validToo]

theorem text_tells_leap_second :
    let leap : Moment := ⟨2016, 12, 31, 23, 59, 59, 1500000000⟩
    let next : Moment := ⟨2017, 1, 1, 0, 0, 0, 0⟩
    leap.Valid ∧ next.Valid ∧ leap.HasPlainYear ∧ next.HasPlainYear ∧
      leap.text = "2016-12-31 23:59:60" ∧ leap.text.length = 19 ∧ leap.text ≠ next.text ∧
      bytes leap.text < bytes next.text := by
  intro leap next
  have valid : leap.Valid := by decide
  have validToo : next.Valid := by decide
  have plain : leap.HasPlainYear := ⟨by decide, by decide⟩
  have plainToo : next.HasPlainYear := ⟨by decide, by decide⟩
  obtain ⟨same, inPlainYear⟩ := text_tells_second valid validToo
  obtain ⟨length, -, order⟩ := inPlainYear plain
  have differ : ¬ leap.SameSecond next := fun alike => absurd alike.month (by decide)
  have earlier : leap.Earlier next := .inl (by decide)
  exact ⟨valid, validToo, plain, plainToo, by decide, length, mt same.mp differ,
    (order plainToo).mpr earlier⟩

end Moment

end Scaffold

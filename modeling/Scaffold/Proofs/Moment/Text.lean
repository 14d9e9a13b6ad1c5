import Mathlib.Data.List.Basic
import Scaffold.Moment

/-!
What the text of a moment tells.  It gives the second in which the moment lies, and no more: each of
its numbers can be read back, since all behind the year have two digits.
-/

namespace Scaffold.Moment

theorem toList_padded (width number : Nat) :
    (padded width number).toList =
      List.replicate (width - (Nat.toDigits 10 number).length) '0' ++ Nat.toDigits 10 number := by
  rw [padded, String.toList_ofList, List.leftpad]

theorem ofDigitChars_padded (width number : Nat) :
    Nat.ofDigitChars 10 (padded width number).toList 0 = number := by
  rw [toList_padded, Nat.ofDigitChars_append, Nat.ofDigitChars_replicate_zero, Nat.mul_zero,
    Nat.ofDigitChars_ten_toDigits]

theorem padded_inj {width number other : Nat} :
    padded width number = padded width other ↔ number = other := by
  constructor
  · intro same
    rw [← ofDigitChars_padded width number, same, ofDigitChars_padded]
  · rintro rfl
    rfl

theorem isDigit_of_mem_padded {width number : Nat} {c : Char}
    (among : c ∈ (padded width number).toList) : c.isDigit = true := by
  rw [toList_padded] at among
  rcases List.mem_append.mp among with zero | digit
  · rw [List.eq_of_mem_replicate zero]
    decide
  · exact Nat.isDigit_of_mem_toDigits (by decide) (by decide) digit

def FitsIn (width number : Nat) : Prop := (Nat.toDigits 10 number).length ≤ width

theorem fitsIn_two {number : Nat} (small : number < 100) : FitsIn 2 number :=
  (Nat.length_toDigits_le_iff (by decide) (by decide)).mpr small

theorem fitsIn_four {number : Nat} (small : number < 10000) : FitsIn 4 number :=
  (Nat.length_toDigits_le_iff (by decide) (by decide)).mpr small

theorem length_padded {width number : Nat} (fits : FitsIn width number) :
    (padded width number).length = width := by
  rw [← String.length_toList, toList_padded, List.length_append, List.length_replicate]
  exact Nat.sub_add_cancel fits

/-- No number in front of it can be mistaken for part of a number of known width. -/
theorem append_padded_inj {front other : String} {width number otherNumber : Nat}
    (fits : FitsIn width number) (fitsToo : FitsIn width otherNumber) :
    front ++ padded width number = other ++ padded width otherNumber ↔
      front = other ∧ number = otherNumber := by
  constructor
  · intro same
    rw [← String.toList_inj, String.toList_append, String.toList_append] at same
    have lengths : (padded width number).toList.length =
        (padded width otherNumber).toList.length := by
      rw [String.length_toList, String.length_toList, length_padded fits, length_padded fitsToo]
    obtain ⟨fronts, numbers⟩ := List.append_inj' same lengths
    exact ⟨String.toList_inj.mp fronts, padded_inj.mp (String.toList_inj.mp numbers)⟩
  · rintro ⟨rfl, rfl⟩
    rfl

theorem yearText_of_within {year : Int} (within : 0 ≤ year ∧ year ≤ 9999) :
    yearText year = padded 4 year.toNat := if_pos within

/-- The year that is meant: the number of its digits, with its sign. -/
def readYear (text : String) : Int :=
  let number := Nat.ofDigitChars 10 (text.toList.filter Char.isDigit) 0
  if '-' ∈ text.toList then -number else number

theorem filter_isDigit_padded (width number : Nat) :
    (padded width number).toList.filter Char.isDigit = (padded width number).toList :=
  List.filter_eq_self.mpr fun _ => isDigit_of_mem_padded

theorem dash_notMem_padded (width number : Nat) : '-' ∉ (padded width number).toList :=
  fun among => absurd (isDigit_of_mem_padded among) (by decide)

theorem readYear_padded (number : Nat) : readYear (padded 4 number) = number := by
  simp [readYear, filter_isDigit_padded, ofDigitChars_padded, dash_notMem_padded]

theorem readYear_minus (number : Nat) : readYear ("-" ++ padded 4 number) = -number := by
  simp [readYear, filter_isDigit_padded, ofDigitChars_padded]

theorem readYear_plus (number : Nat) : readYear ("+" ++ padded 4 number) = number := by
  simp [readYear, filter_isDigit_padded, ofDigitChars_padded, dash_notMem_padded]

theorem readYear_yearText (year : Int) : readYear (yearText year) = year := by
  unfold yearText
  split
  next within =>
    rw [readYear_padded]
    exact Int.toNat_of_nonneg within.1
  next within =>
    by_cases negative : year < 0
    · rw [if_pos negative, readYear_minus]
      omega
    · rw [if_neg negative, readYear_plus]
      omega

theorem yearText_inj {year other : Int} : yearText year = yearText other ↔ year = other := by
  constructor
  · intro same
    rw [← readYear_yearText year, same, readYear_yearText]
  · rintro rfl
    rfl

def isTextChar (c : Char) : Bool := c.isDigit || ['-', '+', ' ', ':'].contains c

theorem all_isTextChar_padded (width number : Nat) :
    (padded width number).toList.all isTextChar = true := by
  apply List.all_eq_true.mpr
  intro c among
  rw [isTextChar, isDigit_of_mem_padded among, Bool.true_or]

theorem all_isTextChar_yearText (year : Int) : (yearText year).toList.all isTextChar = true := by
  unfold yearText
  split
  next => exact all_isTextChar_padded 4 year.toNat
  next =>
    rw [String.toList_append, List.all_append, all_isTextChar_padded, Bool.and_true]
    split <;> decide

theorem all_isTextChar_text (moment : Moment) : moment.text.toList.all isTextChar = true := by
  have dash : "-".toList.all isTextChar = true := by decide
  have blank : " ".toList.all isTextChar = true := by decide
  have colon : ":".toList.all isTextChar = true := by decide
  simp only [text, String.toList_append, List.all_append, all_isTextChar_yearText,
    all_isTextChar_padded, dash, blank, colon, Bool.and_self]

theorem Valid.shownSecond_le {moment : Moment} (valid : moment.Valid) :
    moment.shownSecond ≤ 60 := by
  obtain ⟨-, -, -, -, second, nano⟩ := valid
  unfold shownSecond
  omega

theorem daysIn_le (year : Int) (month : Nat) : daysIn year month ≤ 31 := by
  unfold daysIn
  repeat' split
  all_goals omega

structure SameSecond (moment other : Moment) : Prop where
  year : moment.year = other.year
  month : moment.month = other.month
  day : moment.day = other.day
  hour : moment.hour = other.hour
  minute : moment.minute = other.minute
  second : moment.shownSecond = other.shownSecond

theorem SameSecond.text {moment other : Moment} (same : moment.SameSecond other) :
    moment.text = other.text := by
  unfold Moment.text
  rw [same.year, same.month, same.day, same.hour, same.minute, same.second]

structure Fits (moment : Moment) : Prop where
  month : FitsIn 2 moment.month
  day : FitsIn 2 moment.day
  hour : FitsIn 2 moment.hour
  minute : FitsIn 2 moment.minute
  second : FitsIn 2 moment.shownSecond

theorem Valid.fits {moment : Moment} (valid : moment.Valid) : moment.Fits := by
  have month := valid.month
  have days := daysIn_le moment.year moment.month
  have shown := valid.shownSecond_le
  obtain ⟨-, day, hour, minute, -⟩ := valid
  constructor <;> apply fitsIn_two <;> omega

theorem text_inj {first second : Moment} (fits : first.Fits) (fitsToo : second.Fits) :
    first.text = second.text ↔ first.SameSecond second := by
  refine ⟨fun same => ?_, SameSecond.text⟩
  unfold text at same
  rw [append_padded_inj fits.second fitsToo.second, String.append_left_inj,
    append_padded_inj fits.minute fitsToo.minute, String.append_left_inj,
    append_padded_inj fits.hour fitsToo.hour, String.append_left_inj,
    append_padded_inj fits.day fitsToo.day, String.append_left_inj,
    append_padded_inj fits.month fitsToo.month, String.append_left_inj, yearText_inj] at same
  obtain ⟨⟨⟨⟨⟨year, month⟩, day⟩, hour⟩, minute⟩, shown⟩ := same
  exact ⟨year, month, day, hour, minute, shown⟩

end Scaffold.Moment

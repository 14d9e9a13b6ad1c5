import Scaffold.CommandLine.Parameter

/-!
Which texts suit a parameter.  All texts do, but for two parameters: the output root is not empty,
and a port is a number in decimal digits, perhaps with a sign.
-/

namespace Scaffold.CommandLine

/-- The digits are those of the number, perhaps behind zeros. -/
structure IsDecimal (digits : List Char) (number : Nat) : Prop where
  some_digit : digits ≠ []
  only_digits : digits.all Char.isDigit = true
  read : Nat.ofDigitChars 10 digits 0 = number

theorem decimal?_eq_some_iff {digits : List Char} {number : Nat} :
    decimal? digits = some number ↔ IsDecimal digits number := by
  unfold decimal?
  constructor
  · intro found
    split at found
    next digital =>
      rw [Bool.and_eq_true, Bool.not_eq_true', List.isEmpty_eq_false_iff] at digital
      exact ⟨digital.1, digital.2, Option.some.inj found⟩
    next => cases found
  · rintro ⟨some_digit, only_digits, rfl⟩
    rw [if_pos (by simp [some_digit, only_digits])]
    rfl

theorem IsDecimal.ne_cons {mark : Char} (sign : mark.isDigit = false) {rest : List Char}
    {number : Nat} : ¬ IsDecimal (mark :: rest) number := by
  intro decimal
  have digits := decimal.only_digits
  rw [List.all_cons, sign] at digits
  cases digits

/-- The text of a port stands for the number.  Only zero may be negative. -/
inductive Spells : String → Nat → Prop
  | plain {text number} (decimal : IsDecimal text.toList number) : Spells text number
  | positive {text digits number} (signed : text.toList = '+' :: digits)
      (decimal : IsDecimal digits number) : Spells text number
  | negative {text digits} (signed : text.toList = '-' :: digits)
      (decimal : IsDecimal digits 0) : Spells text 0

theorem spells_toString (port : UInt16) : Spells (toString port) port.toNat := by
  apply Spells.plain
  have digits : (toString port).toList = Nat.toDigits 10 port.toNat := by
    simp [toString, Nat.repr]
  rw [digits]
  refine ⟨Nat.toDigits_ne_nil, ?_, Nat.ofDigitChars_toDigits (by omega) (by omega)⟩
  apply List.all_eq_true.mpr
  intro c among
  exact Nat.isDigit_of_mem_toDigits (by omega) (by omega) among

theorem signedNumber_eq_some_iff (text : String) (number : Nat) :
    (match text.toList with
      | '+' :: digits => decimal? digits
      | '-' :: digits => (decimal? digits).filter (· = 0)
      | digits => decimal? digits) = some number ↔ Spells text number := by
  constructor
  · intro found
    split at found
    next digits signed => exact .positive signed (decimal?_eq_some_iff.mp found)
    next digits signed =>
      obtain ⟨found, zero⟩ := Option.filter_eq_some_iff.mp found
      obtain rfl := of_decide_eq_true zero
      exact .negative signed (decimal?_eq_some_iff.mp found)
    next => exact .plain (decimal?_eq_some_iff.mp found)
  · intro spelled
    cases spelled with
    | plain decimal =>
      split
      next digits signed => exact absurd (signed ▸ decimal) (IsDecimal.ne_cons rfl)
      next digits signed => exact absurd (signed ▸ decimal) (IsDecimal.ne_cons rfl)
      next => exact decimal?_eq_some_iff.mpr decimal
    | positive signed decimal =>
      simp only [signed]
      exact decimal?_eq_some_iff.mpr decimal
    | negative signed decimal =>
      simp only [signed, decimal?_eq_some_iff.mpr decimal]
      rfl

theorem port?_eq_some_iff {text : String} {port : UInt16} :
    port? text = some port ↔ Spells text port.toNat := by
  rw [← signedNumber_eq_some_iff, port?, Option.map_eq_some_iff]
  constructor
  · rintro ⟨number, found, rfl⟩
    obtain ⟨found, small⟩ := Option.filter_eq_some_iff.mp found
    rw [UInt16.toNat_ofNat_of_lt' (of_decide_eq_true small)]
    exact found
  · intro found
    refine ⟨port.toNat, ?_, UInt16.ofNat_toNat⟩
    exact Option.filter_eq_some_iff.mpr ⟨found, decide_eq_true port.toNat_lt⟩

namespace Parameter

def Suits : Parameter → String → Prop
  | port, text => ∃ number : UInt16, Spells text number.toNat
  | outputRoot, text => text ≠ ""
  | _, _ => True

theorem check_eq_ok_iff {parameter : Parameter} {text : String} :
    parameter.check text = .ok () ↔ parameter.Suits text := by
  cases parameter
  case port =>
    simp only [check, Suits, ← port?_eq_some_iff, ← Option.isSome_iff_exists]
    split <;> simp_all
  case outputRoot =>
    simp only [check, Suits]
    split <;> simp_all
  all_goals simp only [check, Suits]

theorem suits_defaultValue (parameter : Parameter) : parameter.Suits parameter.defaultValue := by
  cases parameter
  case port => exact ⟨_, spells_toString _⟩
  case outputRoot => exact (by decide : ({} : Settings).outputRoot ≠ "")
  all_goals trivial

end Parameter
end Scaffold.CommandLine

/-!
Moments: a day of the Gregorian calendar, carried back before its adoption, and a time of day.  In a
leap second the nanoseconds run on past a billion.  `text` is the form in which a moment is written
into a file.
-/

namespace Scaffold

/-- A date and a time of day, without time zone. -/
structure Moment where
  year : Int
  month : Nat
  day : Nat
  hour : Nat
  minute : Nat
  second : Nat
  nano : Nat := 0
deriving DecidableEq, Repr

namespace Moment

def IsLeapYear (year : Int) : Prop :=
  year % 4 = 0 ∧ (year % 100 ≠ 0 ∨ year % 400 = 0)

instance (year : Int) : Decidable (IsLeapYear year) :=
  inferInstanceAs (Decidable (_ ∧ _))

/-- The days of a month; a number that is no month has none. -/
def daysIn (year : Int) : (month : Nat) → Nat
  | 1 | 3 | 5 | 7 | 8 | 10 | 12 => 31
  | 4 | 6 | 9 | 11 => 30
  | 2 => if IsLeapYear year then 29 else 28
  | _ => 0

/-- The numbers name a moment.  Only second 59 can be followed by a leap second. -/
def Valid (moment : Moment) : Prop :=
  (-262143 ≤ moment.year ∧ moment.year ≤ 262142) ∧
    (1 ≤ moment.day ∧ moment.day ≤ daysIn moment.year moment.month) ∧
    moment.hour < 24 ∧ moment.minute < 60 ∧ moment.second < 60 ∧
    (moment.nano < 1000000000 ∨ moment.second = 59 ∧ moment.nano < 2000000000)

instance (moment : Moment) : Decidable moment.Valid :=
  inferInstanceAs (Decidable (_ ∧ _))

theorem Valid.month {moment : Moment} (valid : moment.Valid) :
    1 ≤ moment.month ∧ moment.month ≤ 12 := by
  have days := valid.2.1
  unfold daysIn at days
  split at days <;> omega

def ofNumbers? (year month day hour minute second nano : Int) : Option Moment :=
  if 0 ≤ month ∧ 0 ≤ day ∧ 0 ≤ hour ∧ 0 ≤ minute ∧ 0 ≤ second ∧ 0 ≤ nano then
    Option.guard (fun moment => decide moment.Valid)
      ⟨year, month.toNat, day.toNat, hour.toNat, minute.toNat, second.toNat, nano.toNat⟩
  else none

theorem valid_of_ofNumbers? {year month day hour minute second nano : Int} {moment : Moment}
    (made : ofNumbers? year month day hour minute second nano = some moment) : moment.Valid := by
  unfold ofNumbers? at made
  split at made
  next =>
    obtain ⟨rfl, valid⟩ := Option.guard_eq_some_iff.mp made
    exact of_decide_eq_true valid
  next => simp at made

/-- The second as a clock shows it: 60 in a leap second. -/
def shownSecond (moment : Moment) : Nat :=
  moment.second + moment.nano / 1000000000

/-- A number in decimal, with zeros in front up to `width` digits. -/
def padded (width number : Nat) : String :=
  .ofList (List.leftpad width '0' (Nat.toDigits 10 number))

/-- A year: four digits, and outside 0 to 9999 a sign and at least four. -/
def yearText (year : Int) : String :=
  if 0 ≤ year ∧ year ≤ 9999 then padded 4 year.toNat
  else (if year < 0 then "-" else "+") ++ padded 4 year.natAbs

/-- The moment as in `2024-03-09 08:05:30`. -/
def text (moment : Moment) : String :=
  yearText moment.year ++ "-" ++ padded 2 moment.month ++ "-" ++ padded 2 moment.day ++ " "
    ++ padded 2 moment.hour ++ ":" ++ padded 2 moment.minute ++ ":" ++ padded 2 moment.shownSecond

end Moment
end Scaffold

import Mathlib.Algebra.GroupWithZero.Nat
import Mathlib.Order.Lattice
import Scaffold.Proofs.Moment.Text

/-!
The order of time.  A moment's place in it is the number of seconds up to its own, all days being of
the same length; a leap second comes right behind the second that it follows.  The numbers of a
moment are ordered alike when the greater units decide, since no unit runs on into the next one.
-/

namespace Scaffold

/-- What the greater unit leaves undecided is decided by the rest. -/
theorem lt_iff_of_units {Unit Value : Type} [LinearOrder Unit] [Preorder Value] {unit other : Unit}
    {value otherValue : Value} {rest : Prop} (below : unit < other → value < otherValue)
    (above : other < unit → otherValue < value)
    (level : unit = other → (value < otherValue ↔ rest)) :
    value < otherValue ↔ unit < other ∨ unit = other ∧ rest := by
  rcases lt_trichotomy unit other with less | same | greater
  · simp [less, below less]
  · simp [same, level same]
  · simp [greater.not_gt, greater.ne', (above greater).not_gt]

namespace Moment

def daysInYear (year : Int) : Nat := if IsLeapYear year then 366 else 365

/-- The days of all years since year 0, up to this one. -/
def daysBeforeYear (year : Int) : Int :=
  365 * year + (year + 3) / 4 - (year + 99) / 100 + (year + 399) / 400

theorem daysBeforeYear_succ (year : Int) :
    daysBeforeYear (year + 1) = daysBeforeYear year + daysInYear year := by
  unfold daysBeforeYear daysInYear
  by_cases leap : IsLeapYear year
  · rw [if_pos leap]
    unfold IsLeapYear at leap
    omega
  · rw [if_neg leap]
    unfold IsLeapYear at leap
    omega

theorem daysBeforeYear_le {year other : Int} (notBehind : year ≤ other) :
    daysBeforeYear year ≤ daysBeforeYear other := by
  apply monotone_int_of_le_succ _ notBehind
  intro year
  rw [daysBeforeYear_succ]
  omega

def daysBeforeMonth (year : Int) (month : Nat) : Nat :=
  ((List.range month).map (daysIn year)).sum

theorem daysBeforeMonth_succ (year : Int) (month : Nat) :
    daysBeforeMonth year (month + 1) = daysBeforeMonth year month + daysIn year month := by
  simp [daysBeforeMonth, List.range_succ]

theorem daysBeforeMonth_le (year : Int) {month other : Nat} (notBehind : month ≤ other) :
    daysBeforeMonth year month ≤ daysBeforeMonth year other := by
  apply monotone_nat_of_le_succ _ notBehind
  intro month
  rw [daysBeforeMonth_succ]
  exact Nat.le_add_right _ _

theorem daysBeforeMonth_end (year : Int) : daysBeforeMonth year 13 = daysInYear year := by
  unfold daysBeforeMonth daysInYear
  split <;> simp_all [List.range_succ, daysIn]

def dayOfYear (moment : Moment) : Nat := daysBeforeMonth moment.year moment.month + moment.day

/-- The days since the beginning of year 0, this one included. -/
def dayNumber (moment : Moment) : Int := daysBeforeYear moment.year + moment.dayOfYear

/-- The seconds since then, leap seconds not counted. -/
def seconds (moment : Moment) : Int :=
  86400 * moment.dayNumber + (3600 * moment.hour + 60 * moment.minute + moment.second)

def Earlier (first second : Moment) : Prop :=
  first.seconds < second.seconds ∨
    first.seconds = second.seconds ∧ first.nano / 1000000000 < second.nano / 1000000000

variable {first second : Moment}

theorem Valid.dayOfYear_le_daysBeforeMonth (valid : first.Valid) {month : Nat}
    (before : first.month < month) :
    first.dayOfYear ≤ daysBeforeMonth first.year month := by
  calc
    first.dayOfYear ≤ daysBeforeMonth first.year (first.month + 1) := by
      rw [daysBeforeMonth_succ]
      exact Nat.add_le_add_left valid.2.1.2 _
    _ ≤ daysBeforeMonth first.year month := daysBeforeMonth_le first.year before

theorem Valid.dayNumber_le (valid : first.Valid) {year : Int} (before : first.year < year) :
    first.dayNumber ≤ daysBeforeYear year := by
  have inYear := valid.dayOfYear_le_daysBeforeMonth (Nat.lt_succ_of_le valid.month.2)
  rw [daysBeforeMonth_end] at inYear
  calc
    first.dayNumber ≤ daysBeforeYear (first.year + 1) := by
      rw [daysBeforeYear_succ]
      exact Int.add_le_add_left (Int.ofNat_le.mpr inYear) _
    _ ≤ daysBeforeYear year := daysBeforeYear_le before

theorem Valid.daysBeforeMonth_lt_dayOfYear (valid : first.Valid) :
    daysBeforeMonth first.year first.month < first.dayOfYear :=
  Nat.lt_add_of_pos_right valid.2.1.1

theorem dayNumber_lt_iff (valid : first.Valid) (validToo : second.Valid) :
    first.dayNumber < second.dayNumber ↔
      first.year < second.year ∨ first.year = second.year ∧
        (first.month < second.month ∨ first.month = second.month ∧ first.day < second.day) := by
  have positive : 0 < first.dayOfYear := Nat.zero_lt_of_lt valid.daysBeforeMonth_lt_dayOfYear
  have positiveToo : 0 < second.dayOfYear := Nat.zero_lt_of_lt validToo.daysBeforeMonth_lt_dayOfYear
  apply lt_iff_of_units
  · intro before
    have done := valid.dayNumber_le before
    unfold dayNumber at done ⊢
    omega
  · intro before
    have done := validToo.dayNumber_le before
    unfold dayNumber at done ⊢
    omega
  · intro sameYear
    have days : first.dayNumber < second.dayNumber ↔ first.dayOfYear < second.dayOfYear := by
      unfold dayNumber
      rw [sameYear]
      omega
    rw [days]
    apply lt_iff_of_units
    · intro before
      have done := valid.dayOfYear_le_daysBeforeMonth before
      have later := validToo.daysBeforeMonth_lt_dayOfYear
      rw [sameYear] at done
      omega
    · intro before
      have done := validToo.dayOfYear_le_daysBeforeMonth before
      have later := valid.daysBeforeMonth_lt_dayOfYear
      rw [← sameYear] at done
      omega
    · intro sameMonth
      unfold dayOfYear
      rw [sameYear, sameMonth]
      omega

theorem dayNumber_inj (valid : first.Valid) (validToo : second.Valid) :
    first.dayNumber = second.dayNumber ↔
      first.year = second.year ∧ first.month = second.month ∧ first.day = second.day := by
  constructor
  · intro same
    have notBefore := mt (dayNumber_lt_iff valid validToo).mpr (by omega)
    have notBehind := mt (dayNumber_lt_iff validToo valid).mpr (by omega)
    omega
  · rintro ⟨year, month, day⟩
    rw [dayNumber, dayNumber, dayOfYear, dayOfYear, year, month, day]

/-- The numbers that a clock and a calendar show, greater units first. -/
def numbers (moment : Moment) : List Int :=
  [moment.year, moment.month, moment.day, moment.hour, moment.minute, moment.shownSecond]

theorem earlier_iff (valid : first.Valid) (validToo : second.Valid) :
    first.Earlier second ↔ first.numbers < second.numbers := by
  have inDay : first.Earlier second ↔ first.dayNumber < second.dayNumber ∨
      first.dayNumber = second.dayNumber ∧ (first.hour < second.hour ∨ first.hour = second.hour ∧
        (first.minute < second.minute ∨ first.minute = second.minute ∧
          first.shownSecond < second.shownSecond)) := by
    obtain ⟨-, -, hour, minute, own, nano⟩ := valid
    obtain ⟨-, -, hourToo, minuteToo, its, nanoToo⟩ := validToo
    unfold Earlier seconds shownSecond
    omega
  rw [inDay, dayNumber_lt_iff valid validToo, dayNumber_inj valid validToo]
  simp only [numbers, List.cons_lt_cons_iff, List.not_lt_nil, Int.ofNat_lt, Int.ofNat_inj,
    and_false, or_false, and_or_left, or_assoc, and_assoc]

end Moment

end Scaffold

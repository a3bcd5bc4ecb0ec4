import Mathlib.Tactic.IntervalCases
import RequestBook.Proofs.Dates

/-! Months and years. A shift by a number of months goes exactly that many months on or back, keeps the time
of day, and keeps the day of the month unless the month is too short for it. It keeps the order of dates, and
it is undone by the opposite shift unless the day was cut off. -/
namespace RequestBook.Calendar

theorem monthLength_pos (year : Int) {month : Nat} (inside : 1 ≤ month ∧ month ≤ 12) :
    1 ≤ monthLength year month := by
  obtain ⟨first, last⟩ := inside
  cases leap : isLeap year <;> interval_cases month <;> simp [monthLength, monthLengths, leap]

namespace Date

variable {a b date target : Date} {k : Int}

theorem month_addMonths (date : Date) (k : Int) :
    1 ≤ (date.addMonths k).month ∧ (date.addMonths k).month ≤ 12 := by
  simp only [addMonths]
  omega

theorem Valid.monthIndex_addMonths (valid : date.Valid) (k : Int) :
    (date.addMonths k).monthIndex = date.monthIndex + k := by
  have first := valid.month.1
  simp only [addMonths, monthIndex]
  omega

theorem day_addMonths (date : Date) (k : Int) : (date.addMonths k).day =
    min date.day (monthLength (date.addMonths k).year (date.addMonths k).month) := rfl

theorem Valid.addMonths (valid : date.Valid) (k : Int) : (date.addMonths k).Valid := by
  have long := monthLength_pos (date.addMonths k).year (month_addMonths date k)
  have day := valid.day.1
  refine ⟨month_addMonths date k, ?_⟩
  rw [day_addMonths]
  omega

theorem eq_of_monthIndex (month : 1 ≤ a.month ∧ a.month ≤ 12) (month' : 1 ≤ b.month ∧ b.month ≤ 12)
    (same : a.monthIndex = b.monthIndex) : a.year = b.year ∧ a.month = b.month := by
  simp only [monthIndex] at same
  omega

/-- The date some months away is known by its month and by its day. -/
theorem Valid.eq_addMonths_iff (valid : date.Valid) (valid' : target.Valid) : target = date.addMonths k ↔
    target.monthIndex = date.monthIndex + k ∧
      target.day = min date.day (monthLength target.year target.month) := by
  constructor
  · rintro rfl
    exact ⟨valid.monthIndex_addMonths k, rfl⟩
  · rintro ⟨index, day⟩
    rw [← valid.monthIndex_addMonths k] at index
    obtain ⟨year, month⟩ := eq_of_monthIndex valid'.month (month_addMonths date k) index
    rw [year, month, ← day_addMonths] at day
    cases target
    cases shown : date.addMonths k
    simp only [shown, mk.injEq] at *
    exact ⟨year, month, day⟩

/-- Dates stay in order when all of them move by equally many months. -/
theorem Valid.addMonths_le (valid : a.Valid) (valid' : b.Valid) (before : a ≤ b) (k : Int) :
    a.addMonths k ≤ b.addMonths k := by
  rw [(valid.addMonths k).le_iff_monthIndex (valid'.addMonths k), valid.monthIndex_addMonths,
    valid'.monthIndex_addMonths]
  rcases (valid.le_iff_monthIndex valid').mp before with less | ⟨same, day⟩
  · omega
  · have index : (a.addMonths k).monthIndex = (b.addMonths k).monthIndex := by
      rw [valid.monthIndex_addMonths, valid'.monthIndex_addMonths, same]
    obtain ⟨year, month⟩ := eq_of_monthIndex (month_addMonths a k) (month_addMonths b k) index
    rw [day_addMonths, day_addMonths, year, month]
    omega

/-- There and back again the month is the same and the day is not later than it was. -/
theorem Valid.addMonths_back (valid : date.Valid) (k : Int) : (date.addMonths k).addMonths (-k) =
    ⟨date.year, date.month, min date.day (monthLength (date.addMonths k).year (date.addMonths k).month)⟩ := by
  have there := valid.addMonths k
  have index : ((date.addMonths k).addMonths (-k)).monthIndex = date.monthIndex := by
    rw [there.monthIndex_addMonths, valid.monthIndex_addMonths]
    omega
  obtain ⟨year, month⟩ := eq_of_monthIndex (month_addMonths _ _) valid.month index
  have day := day_addMonths (date.addMonths k) (-k)
  have long := valid.day.2
  rw [year, month, day_addMonths date k] at day
  cases shown : (date.addMonths k).addMonths (-k)
  simp only [shown, mk.injEq] at *
  omega

end Date

/-- What a unit counts in months, if it counts in months at all. -/
def TimeUnit.months? : TimeUnit → Option Int
  | .month => some 1
  | .year => some 12
  | _ => none

/-- One instant some months from another: at the same time of day, and on the same day of its month or on the
last day of a month that is too short. -/
structure MonthsApart (k : Int) (i j : Instant) : Prop where
  nanos : j.nanos = i.nanos
  time : j.secondOfDay = i.secondOfDay
  months : 12 * j.date.year + j.date.month = 12 * i.date.year + i.date.month + k
  day : j.date.day = min i.date.day (monthLength j.date.year j.date.month)

namespace Instant

variable {i j back : Instant} {k : Int}

theorem date_addMonths (i : Instant) (k : Int) : (i.addMonths k).date = i.date.addMonths k :=
  date_withDate ((valid_date i).addMonths k) i

theorem eq_addMonths_iff : j = i.addMonths k ↔ MonthsApart k i j := by
  have index : 12 * j.date.year + j.date.month = 12 * i.date.year + i.date.month + k ↔
      j.date.monthIndex = i.date.monthIndex + k := by
    simp only [Date.monthIndex]
    omega
  have date := (valid_date i).eq_addMonths_iff (k := k) (valid_date j)
  constructor
  · rintro rfl
    obtain ⟨months, day⟩ := date.mp (date_addMonths i k)
    exact ⟨rfl, secondOfDay_withDate i _, index.mpr months, day⟩
  · rintro ⟨nanos, time, months, day⟩
    have same := date.mpr ⟨index.mp months, day⟩
    refine eq_of_date ?_ ?_ nanos
    · rw [same, date_addMonths]
    · rw [time]
      exact (secondOfDay_withDate i _).symm

/-- No number of months between instants that can be represented is too large to be counted. -/
theorem countable_of_monthsApart {o : Offset} (calendar : o.unit.millis? = none)
    (present : i.representable = true) (reached : j.representable = true)
    (apart : MonthsApart o.months i j) : o.countable = true := by
  have months := apart.months
  have first := (valid_date i).month
  have second := (valid_date j).month
  have years := representable_iff.mp present
  have years' := representable_iff.mp reached
  simp only [firstYear, lastYear] at years years'
  rw [Offset.countable, calendar, decide_eq_true_eq]
  omega

theorem shift?_eq_some_iff_monthsApart {o : Offset} (present : i.representable = true)
    (calendar : o.unit.millis? = none) :
    i.shift? o = some j ↔ j.representable = true ∧ MonthsApart o.months i j := by
  have target : o.apply i = i.addMonths o.months := by rw [Offset.apply, calendar]
  rw [shift?, target, ← eq_addMonths_iff]
  constructor
  · intro found
    obtain ⟨both, same⟩ := Option.ite_none_right_eq_some.mp found
    cases same
    exact ⟨(Bool.and_eq_true_iff.mp both).2, rfl⟩
  · rintro ⟨reached, rfl⟩
    rw [if_pos]
    rw [countable_of_monthsApart calendar present reached (eq_addMonths_iff.mp rfl), reached]
    rfl

theorem date_le_of_monthsApart {i' j' : Instant} (apart : MonthsApart k i j) (apart' : MonthsApart k i' j')
    (before : i.date ≤ i'.date) : j.date ≤ j'.date := by
  obtain rfl := eq_addMonths_iff.mpr apart
  obtain rfl := eq_addMonths_iff.mpr apart'
  rw [date_addMonths, date_addMonths]
  exact (valid_date i).addMonths_le (valid_date i') before k

/-- The way back leads to the same month, to the day that the way there had left. -/
theorem date_of_back (there : MonthsApart k i j) (returned : MonthsApart (-k) j back) :
    back.date = ⟨i.date.year, i.date.month, j.date.day⟩ := by
  obtain rfl := eq_addMonths_iff.mpr there
  obtain rfl := eq_addMonths_iff.mpr returned
  rw [date_addMonths, date_addMonths, (valid_date i).addMonths_back]
  rfl

theorem back_eq_iff (there : MonthsApart k i j) (returned : MonthsApart (-k) j back) :
    back = i ↔ i.date.day ≤ monthLength j.date.year j.date.month := by
  have date := date_of_back there returned
  have day := there.day
  constructor
  · rintro rfl
    have kept := congrArg Date.day date
    dsimp only at kept
    omega
  · intro long
    refine eq_of_date ?_ (returned.time.trans there.time) (returned.nanos.trans there.nanos)
    rw [date, day, min_eq_left long]

theorem year_addMonths (i : Instant) (k : Int) :
    (i.addMonths k).date.year = (12 * i.date.year + i.date.month + k - 1) / 12 := by
  have months := (eq_addMonths_iff.mp (rfl : i.addMonths k = _)).months
  have inside := (valid_date (i.addMonths k)).month
  omega

end Instant

open Instant

section Units

variable {unit : TimeUnit} {size : Int} {i j : Instant}

theorem TimeUnit.millis?_of_months? (calendar : unit.months? = some size) : unit.millis? = none := by
  cases unit with
  | month | year => rfl
  | _ => cases calendar

theorem TimeUnit.months_of_months? (calendar : unit.months? = some size) (k : Int) :
    (Offset.mk k unit).months = size * k := by
  cases unit <;> cases calendar <;> simp [Offset.months]

theorem shift?_unit_iff (calendar : unit.months? = some size) (present : i.representable = true) (k : Int) :
    i.shift? ⟨k, unit⟩ = some j ↔ j.representable = true ∧ MonthsApart (size * k) i j := by
  rw [← TimeUnit.months_of_months? calendar k]
  exact shift?_eq_some_iff_monthsApart present (TimeUnit.millis?_of_months? calendar)

theorem isSome_shift?_unit_iff (calendar : unit.months? = some size) (present : i.representable = true)
    (k : Int) : (i.shift? ⟨k, unit⟩).isSome ↔ (i.addMonths (size * k)).representable = true := by
  rw [Option.isSome_iff_exists]
  constructor
  · rintro ⟨j, found⟩
    obtain ⟨reached, apart⟩ := (shift?_unit_iff calendar present k).mp found
    rwa [← eq_addMonths_iff.mpr apart]
  · intro reached
    exact ⟨_, (shift?_unit_iff calendar present k).mpr ⟨reached, eq_addMonths_iff.mp rfl⟩⟩

end Units

/-- Shifting by a number of months or years. It leads to an instant exactly when the year of the month reached
can be represented, and then to the instant so many months apart. Dates keep their order. The shift back
succeeds, and gives the first instant again exactly when the month reached has the day that it came from;
otherwise it gives an earlier day of the same month. -/
theorem shift?_months {unit : TimeUnit} {size : Int} (calendar : unit.months? = some size) {i : Instant}
    (present : i.representable = true) (k : Int) :
    ((i.shift? ⟨k, unit⟩).isSome ↔ firstYear ≤ (12 * i.date.year + i.date.month + size * k - 1) / 12 ∧
      (12 * i.date.year + i.date.month + size * k - 1) / 12 ≤ lastYear) ∧
    ∀ j, i.shift? ⟨k, unit⟩ = some j → MonthsApart (size * k) i j ∧
      (∀ i' j' : Instant, i'.representable = true → i'.shift? ⟨k, unit⟩ = some j' → i.date ≤ i'.date →
        j.date ≤ j'.date) ∧
      ∃ back, j.shift? ⟨-k, unit⟩ = some back ∧
        (back = i ↔ i.date.day ≤ monthLength j.date.year j.date.month) ∧
        (back ≠ i → back.date.year = i.date.year ∧ back.date.month = i.date.month ∧
          back.date.day < i.date.day) := by
  refine ⟨?_, fun j found => ?_⟩
  · rw [isSome_shift?_unit_iff calendar present, representable_iff, year_addMonths]
  · obtain ⟨reached, there⟩ := (shift?_unit_iff calendar present k).mp found
    obtain ⟨back, returned⟩ : ∃ back, MonthsApart (-(size * k)) j back := ⟨_, eq_addMonths_iff.mp rfl⟩
    have date := date_of_back there returned
    have same := back_eq_iff there returned
    refine ⟨there, fun i' j' present' found' before => ?_, back, ?_, same, fun moved => ?_⟩
    · have there' := ((shift?_unit_iff calendar present' k).mp found').2
      exact date_le_of_monthsApart there there' before
    · rw [shift?_unit_iff calendar reached, Int.mul_neg, representable_iff, date]
      exact ⟨representable_iff.mp present, returned⟩
    · have short := mt same.mpr moved
      have day := there.day
      rw [date]
      exact ⟨rfl, rfl, by dsimp only; omega⟩

/-- From the last of January 2024 to a February of 28 days, and back to the 28th of January. -/
theorem shift?_months_clamped :
    let i : Instant := ⟨1706702400, 500⟩
    TimeUnit.month.months? = some 1 ∧ i.representable = true ∧ i.date = ⟨2024, 1, 31⟩ ∧
    ∃ j back, i.shift? ⟨13, .month⟩ = some j ∧ MonthsApart (1 * 13) i j ∧ j.date = ⟨2025, 2, 28⟩ ∧
      j.shift? ⟨-13, .month⟩ = some back ∧ back ≠ i ∧ back.date.month = i.date.month ∧
        back.date.day < i.date.day := by
  intro i
  have counted : TimeUnit.month.months? = some 1 := rfl
  have present : i.representable = true := by decide +kernel
  have found : i.shift? ⟨13, .month⟩ = some ⟨1740744000, 500⟩ := by decide +kernel
  have date : (Instant.mk 1740744000 500).date = ⟨2025, 2, 28⟩ := by decide +kernel
  have first : i.date = ⟨2024, 1, 31⟩ := by decide +kernel
  obtain ⟨apart, -, back, opposite, same, moved⟩ := (shift?_months counted present 13).2 _ found
  have short : back ≠ i := by
    rw [ne_eq, same, date, first]
    decide
  exact ⟨counted, present, first, _, back, found, apart, date, opposite, short, (moved short).2⟩

end RequestBook.Calendar

import Mathlib.Order.Monotone.Basic
import RequestBook.Calendar.Instant

/-! Days and dates. Every day has exactly one date of the calendar, and days follow one another as their
dates do. An instant is its day and its time of day, and can be represented when its year can. -/
namespace RequestBook.Calendar

structure Date.Valid (date : Date) : Prop where
  month : 1 ≤ date.month ∧ date.month ≤ 12
  day : 1 ≤ date.day ∧ date.day ≤ monthLength date.year date.month

instance : LE Date where
  le a b := a.year < b.year ∨ a.year = b.year ∧ (a.month < b.month ∨ a.month = b.month ∧ a.day ≤ b.day)

theorem Date.le_iff {a b : Date} : a ≤ b ↔
    a.year < b.year ∨ a.year = b.year ∧ (a.month < b.month ∨ a.month = b.month ∧ a.day ≤ b.day) :=
  Iff.rfl

def Date.monthIndex (date : Date) : Int := 12 * date.year + date.month - 1

def monthStart (index : Int) : Int :=
  yearStart (index / 12) + totalLength ((monthLengths (index / 12)).take (index % 12).toNat)

section Lengths

variable {lengths : List Nat} {place : Nat}

theorem totalLength_take_succ (inside : place < lengths.length) :
    totalLength (lengths.take (place + 1)) = totalLength (lengths.take place) + lengths.getD place 0 := by
  induction lengths generalizing place with
  | nil => cases inside
  | cons length lengths ih =>
    cases place with
    | zero => simp [totalLength]
    | succ place =>
      have rest := ih (Nat.lt_of_succ_lt_succ inside)
      simp only [List.take_succ_cons, totalLength, List.getD_cons_succ, rest, Nat.add_assoc]

/-- The part that a number of days leads to, and the day in it. -/
theorem locate_eq {left : Nat} (below : left < totalLength lengths) (month : Nat) :
    ∃ place < lengths.length, totalLength (lengths.take place) ≤ left ∧
      left < totalLength (lengths.take (place + 1)) ∧
      locate left month lengths = (month + place, left - totalLength (lengths.take place) + 1) := by
  induction lengths generalizing left month with
  | nil => cases below
  | cons length lengths ih =>
    rw [totalLength] at below
    by_cases first : left < length
    · exact ⟨0, by simp, by simp [totalLength], by simpa [totalLength] using first,
        by simp [locate, first, totalLength]⟩
    · have further : left - length < totalLength lengths := by omega
      obtain ⟨place, inside, start, stop, found⟩ := ih further (month + 1)
      refine ⟨place + 1, by simpa using inside, ?_, ?_, ?_⟩
      · rw [List.take_succ_cons, totalLength]
        omega
      · rw [List.take_succ_cons, totalLength]
        omega
      · rw [locate, if_neg first, found, List.take_succ_cons, totalLength]
        congr 1 <;> omega

end Lengths

section Years

theorem length_monthLengths (year : Int) : (monthLengths year).length = 12 := rfl

theorem totalLength_monthLengths (year : Int) :
    totalLength (monthLengths year) = if isLeap year then 366 else 365 := by
  cases leap : isLeap year <;> simp [monthLengths, totalLength, leap]

theorem isLeap_iff (year : Int) : isLeap year = true ↔ year % 4 = 0 ∧ (year % 100 ≠ 0 ∨ year % 400 = 0) := by
  simp [isLeap]

theorem yearStart_succ (year : Int) :
    yearStart (year + 1) = yearStart year + totalLength (monthLengths year) := by
  rw [totalLength_monthLengths]
  unfold yearStart
  split
  next yes =>
    have leap := (isLeap_iff year).mp yes
    omega
  next no =>
    have common := mt (isLeap_iff year).mpr no
    omega

theorem yearStart_mono {year later : Int} (le : year ≤ later) : yearStart year ≤ yearStart later := by
  refine monotone_int_of_le_succ (fun year => ?_) le
  rw [yearStart_succ]
  omega

/-- A day lies in its year. -/
theorem yearOfDay_spec (day : Int) : yearStart (yearOfDay day) ≤ day ∧ day < yearStart (yearOfDay day + 1) := by
  have near : yearStart (day * 400 / 146097 - 1) ≤ day ∧ day < yearStart (day * 400 / 146097 + 1 + 1) := by
    unfold yearStart
    omega
  simp only [yearOfDay]
  split
  next before =>
    rw [Int.sub_add_cancel]
    exact ⟨near.1, before⟩
  next started =>
    split
    next behind => exact ⟨behind, near.2⟩
    next inside => exact ⟨not_lt.mp started, not_le.mp inside⟩

end Years

section Months

variable {year index : Int}

theorem monthStart_eq (year : Int) {month : Nat} (inside : month < 12) :
    monthStart (12 * year + month) = yearStart year + totalLength ((monthLengths year).take month) := by
  have quotient : (12 * year + month) / 12 = year := by omega
  have rest : ((12 * year + month) % 12).toNat = month := by omega
  rw [monthStart, quotient, rest]

/-- A month begins where the one before it ends. -/
theorem monthStart_succ (year : Int) (month : Nat) (inside : month < 12) :
    monthStart (12 * year + month + 1) = monthStart (12 * year + month) + monthLength year (month + 1) := by
  have days := totalLength_take_succ (show month < (monthLengths year).length from inside)
  by_cases last : month = 11
  · subst last
    have next : 12 * year + (11 : Nat) + 1 = 12 * (year + 1) + (0 : Nat) := by omega
    rw [next, monthStart_eq _ (by decide), monthStart_eq _ (by decide), yearStart_succ]
    simp only [List.take_of_length_le (length_monthLengths year).le, List.take_zero, totalLength] at days ⊢
    rw [days, monthLength, Nat.add_sub_cancel]
    omega
  · have next : 12 * year + (month : Int) + 1 = 12 * year + (month + 1 : Nat) := by omega
    rw [next, monthStart_eq _ inside, monthStart_eq _ (by omega), days, monthLength, Nat.add_sub_cancel]
    omega

theorem monthStart_mono {index later : Int} (le : index ≤ later) : monthStart index ≤ monthStart later := by
  refine monotone_int_of_le_succ (fun index => ?_) le
  have shown : index = 12 * (index / 12) + (index % 12).toNat := by omega
  have days := monthStart_succ (index / 12) (index % 12).toNat (by omega)
  rw [← shown] at days
  omega

end Months

namespace Date

variable {a b date : Date}

theorem Valid.toDays_eq (valid : date.Valid) : date.toDays = monthStart date.monthIndex + (date.day - 1) := by
  obtain ⟨⟨first, last⟩, ⟨day, -⟩⟩ := valid
  have index : date.monthIndex = 12 * date.year + (date.month - 1 : Nat) := by
    rw [monthIndex]
    omega
  rw [index, monthStart_eq _ (by omega), toDays]
  omega

/-- A date is before the next month. -/
theorem Valid.toDays_lt (valid : date.Valid) : date.toDays < monthStart (date.monthIndex + 1) := by
  have start := valid.toDays_eq
  obtain ⟨⟨first, last⟩, ⟨day, length⟩⟩ := valid
  have index : date.monthIndex = 12 * date.year + (date.month - 1 : Nat) := by
    rw [monthIndex]
    omega
  have next := monthStart_succ date.year (date.month - 1) (by omega)
  rw [← index, Nat.sub_add_cancel first] at next
  omega

theorem toDays_lt_of_monthIndex_lt (valid : a.Valid) (valid' : b.Valid) (before : a.monthIndex < b.monthIndex) :
    a.toDays < b.toDays := by
  have first := valid.toDays_lt
  have second := valid'.toDays_eq
  have months := monthStart_mono (Int.add_one_le_of_lt before)
  have day := valid'.day.1
  omega

theorem Valid.le_iff_monthIndex (valid : a.Valid) (valid' : b.Valid) : a ≤ b ↔
    a.monthIndex < b.monthIndex ∨ a.monthIndex = b.monthIndex ∧ a.day ≤ b.day := by
  have month := valid.month
  have month' := valid'.month
  simp only [le_iff, monthIndex]
  omega

/-- The order of dates is the order of their days. -/
theorem Valid.toDays_le_iff (valid : a.Valid) (valid' : b.Valid) : a.toDays ≤ b.toDays ↔ a ≤ b := by
  rw [valid.le_iff_monthIndex valid']
  rcases lt_trichotomy a.monthIndex b.monthIndex with before | same | behind
  · have days := toDays_lt_of_monthIndex_lt valid valid' before
    omega
  · rw [valid.toDays_eq, valid'.toDays_eq, same]
    have day := valid.day.1
    have day' := valid'.day.1
    omega
  · have days := toDays_lt_of_monthIndex_lt valid' valid behind
    omega

theorem Valid.eq_of_toDays (valid : a.Valid) (valid' : b.Valid) (same : a.toDays = b.toDays) : a = b := by
  have forth := (valid.toDays_le_iff valid').mp same.le
  have back := (valid'.toDays_le_iff valid).mp same.ge
  rw [le_iff] at forth back
  cases a
  cases b
  simp only [mk.injEq] at *
  omega

/-- Every day has a date. -/
theorem ofDays_spec (day : Int) : (ofDays day).Valid ∧ (ofDays day).toDays = day := by
  obtain ⟨start, stop⟩ := yearOfDay_spec day
  rw [yearStart_succ] at stop
  have below : (day - yearStart (yearOfDay day)).toNat < totalLength (monthLengths (yearOfDay day)) := by omega
  obtain ⟨place, inside, from', until', found⟩ := locate_eq below 1
  rw [length_monthLengths] at inside
  have parts := totalLength_take_succ (show place < (monthLengths (yearOfDay day)).length from inside)
  have shown : ofDays day = ⟨yearOfDay day, 1 + place, (day - yearStart (yearOfDay day)).toNat -
      totalLength ((monthLengths (yearOfDay day)).take place) + 1⟩ := by
    simp only [ofDays, found]
  rw [shown]
  refine ⟨⟨?_, ?_⟩, ?_⟩
  · dsimp only
    omega
  · dsimp only
    rw [monthLength, Nat.add_sub_cancel_left]
    omega
  · simp only [toDays, Nat.add_sub_cancel_left]
    omega

theorem valid_ofDays (day : Int) : (ofDays day).Valid := (ofDays_spec day).1

theorem toDays_ofDays (day : Int) : (ofDays day).toDays = day := (ofDays_spec day).2

theorem Valid.ofDays_toDays (valid : date.Valid) : ofDays date.toDays = date :=
  (valid_ofDays _).eq_of_toDays valid (toDays_ofDays _)

end Date

namespace Instant

variable {i j : Instant} {date : Date}

theorem valid_date (i : Instant) : i.date.Valid := Date.valid_ofDays _

theorem toDays_date (i : Instant) : i.date.toDays = i.dayNumber := Date.toDays_ofDays _

/-- A date and a time of day belong to one instant. -/
theorem eq_of_date (same : i.date = j.date) (time : i.secondOfDay = j.secondOfDay) (nanos : i.nanos = j.nanos) :
    i = j := by
  have day : i.dayNumber = j.dayNumber := by rw [← toDays_date, same, toDays_date]
  simp only [dayNumber, secondOfDay] at day time
  cases i
  cases j
  simp only [mk.injEq] at *
  omega

theorem secondOfDay_lt (i : Instant) : i.secondOfDay < 86400 := by
  rw [secondOfDay]
  omega

theorem secondOfDay_withDate (i : Instant) (date : Date) : (i.withDate date).secondOfDay = i.secondOfDay := by
  have time := secondOfDay_lt i
  simp only [withDate]
  generalize i.secondOfDay = second at *
  simp only [secondOfDay]
  omega

theorem date_withDate (valid : date.Valid) (i : Instant) : (i.withDate date).date = date := by
  have time := secondOfDay_lt i
  have day : (i.withDate date).dayNumber = date.toDays := by
    simp only [withDate, dayNumber]
    omega
  rw [Instant.date, day, valid.ofDays_toDays]

/-- An instant can be represented when its year can. -/
theorem representable_iff : i.representable = true ↔ firstYear ≤ i.date.year ∧ i.date.year ≤ lastYear := by
  obtain ⟨start, stop⟩ := yearOfDay_spec i.dayNumber
  have year : i.date.year = yearOfDay i.dayNumber := rfl
  rw [year]
  simp only [representable, Bool.and_eq_true, decide_eq_true_eq]
  constructor
  · rintro ⟨low, high⟩
    constructor
    · by_contra below
      have earlier := yearStart_mono (Int.add_one_le_of_lt (not_le.mp below))
      omega
    · by_contra above
      have later := yearStart_mono (Int.add_one_le_of_lt (not_le.mp above))
      omega
  · rintro ⟨low, high⟩
    have first := yearStart_mono low
    have last := yearStart_mono (show yearOfDay i.dayNumber + 1 ≤ lastYear + 1 by omega)
    omega

end Instant

end RequestBook.Calendar

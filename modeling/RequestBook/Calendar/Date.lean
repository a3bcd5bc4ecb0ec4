/-! Dates of the proleptic Gregorian calendar. Days are counted from the first of January of the
year zero; years may be negative. -/
namespace RequestBook.Calendar

structure Date where
  year : Int
  /-- from 1 to 12 -/
  month : Nat
  /-- from 1 to the length of the month -/
  day : Nat
  deriving DecidableEq, Repr

def isLeap (year : Int) : Bool := year % 4 == 0 && (year % 100 != 0 || year % 400 == 0)

def monthLengths (year : Int) : List Nat :=
  [31, if isLeap year then 29 else 28, 31, 30, 31, 30, 31, 31, 30, 31, 30, 31]

def monthLength (year : Int) (month : Nat) : Nat := (monthLengths year).getD (month - 1) 0

def yearStart (year : Int) : Int :=
  365 * year + (year + 3) / 4 - (year + 99) / 100 + (year + 399) / 400

/-- The year that a day lies in. A mean year of 146097/400 days leads to it or to a neighbour. -/
def yearOfDay (day : Int) : Int :=
  let guess := day * 400 / 146097
  if day < yearStart guess then guess - 1
  else if yearStart (guess + 1) ≤ day then guess + 1
  else guess

/-- Month and day of month, given the days left and the lengths of the months from `month` on. -/
def locate (left month : Nat) : List Nat → Nat × Nat
  | [] => (month, left + 1)
  | length :: lengths => if left < length then (month, left + 1) else locate (left - length) (month + 1) lengths

def Date.ofDays (day : Int) : Date :=
  let year := yearOfDay day
  let (month, dayOfMonth) := locate (day - yearStart year).toNat 1 (monthLengths year)
  ⟨year, month, dayOfMonth⟩

def totalLength : List Nat → Nat
  | [] => 0
  | length :: lengths => length + totalLength lengths

def Date.toDays (date : Date) : Int :=
  yearStart date.year + totalLength ((monthLengths date.year).take (date.month - 1)) + (date.day - 1 : Nat)

/-- The date a number of months later. A day that the month does not have becomes its last one. -/
def Date.addMonths (date : Date) (months : Int) : Date :=
  let count := 12 * date.year + (date.month - 1 : Nat) + months
  let year := count / 12
  let month := (count % 12).toNat + 1
  ⟨year, month, min date.day (monthLength year month)⟩

end RequestBook.Calendar

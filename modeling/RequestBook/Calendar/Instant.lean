import RequestBook.Calendar.Date

/-! Instants with nanoseconds, offsets from them, and the local time at them. The representable instants
are those of the years -262143 to 262142; an offset that leads outside has no result. -/
namespace RequestBook.Calendar

/-- A point in time: seconds since the beginning of 1970 and nanoseconds after that second. -/
structure Instant where
  seconds : Int
  nanos : Nat
  deriving DecidableEq, Repr

def firstYear : Int := -262143

def lastYear : Int := 262142

def epochDay : Int := yearStart 1970

namespace Instant

def dayNumber (i : Instant) : Int := i.seconds / 86400 + epochDay

def secondOfDay (i : Instant) : Nat := (i.seconds % 86400).toNat

def date (i : Instant) : Date := Date.ofDays i.dayNumber

def representable (i : Instant) : Bool :=
  yearStart firstYear ≤ i.dayNumber && i.dayNumber < yearStart (lastYear + 1)

def withDate (i : Instant) (date : Date) : Instant :=
  { i with seconds := (date.toDays - epochDay) * 86400 + i.secondOfDay }

def addMillis (i : Instant) (millis : Int) : Instant :=
  let total := i.nanos + millis * 1000000
  ⟨i.seconds + total / 1000000000, (total % 1000000000).toNat⟩

def addMonths (i : Instant) (months : Int) : Instant := i.withDate (i.date.addMonths months)

def hour (i : Instant) : Nat := i.secondOfDay / 3600

def minute (i : Instant) : Nat := i.secondOfDay / 60 % 60

def second (i : Instant) : Nat := i.secondOfDay % 60

/-- The day of the week, counted from Monday as zero. -/
def weekday (i : Instant) : Nat := ((i.seconds / 86400 + 3) % 7).toNat

end Instant

inductive TimeUnit where
  | millisecond
  | second
  | minute
  | hour
  | day
  | week
  | month
  | year
  deriving DecidableEq, Repr

structure Offset where
  amount : Int
  unit : TimeUnit
  deriving DecidableEq, Repr

/-- The length of a unit that is the same everywhere in the calendar, in milliseconds. -/
def TimeUnit.millis? : TimeUnit → Option Int
  | .millisecond => some 1
  | .second => some 1000
  | .minute => some 60000
  | .hour => some 3600000
  | .day => some 86400000
  | .week => some 604800000
  | .month => none
  | .year => none

def Offset.months (o : Offset) : Int := if o.unit = .year then 12 * o.amount else o.amount

/-- The instant that an offset leads to, however far away it is. -/
def Offset.apply (o : Offset) (i : Instant) : Instant :=
  match o.unit.millis? with
  | some millis => i.addMillis (o.amount * millis)
  | none => i.addMonths o.months

/-- Whether an offset has a span that can be counted: milliseconds in 64 bits with a sign and months
in 32 bits with a sign, the least number of each left out. -/
def Offset.countable (o : Offset) : Bool :=
  match o.unit.millis? with
  | some millis => (o.amount * millis).natAbs < 0x8000000000000000
  | none => o.months.natAbs < 0x80000000

def Instant.shift? (i : Instant) (o : Offset) : Option Instant :=
  if o.countable && (o.apply i).representable then some (o.apply i) else none

/-- By how many seconds local time is ahead of universal time at an instant. -/
abbrev Zone := Instant → Int

def Zone.universal : Zone := fun _ => 0

/-- What is shown at an instant in a zone: the date and the time of day that universal time has when it
reads the same, and how far that is ahead. -/
structure LocalTime extends Instant where
  ahead : Int
  deriving DecidableEq, Repr

def Instant.inZone (i : Instant) (zone : Zone) : LocalTime where
  seconds := i.seconds + zone i
  nanos := i.nanos
  ahead := zone i

@[simp] theorem Instant.inZone_universal (i : Instant) : (i.inZone .universal).toInstant = i := by
  cases i
  simp [inZone, Zone.universal]

structure Clock where
  now : Instant
  zone : Zone

/-- Without a zone, time is told as universal time. -/
instance : Coe Instant Clock := ⟨fun now => ⟨now, .universal⟩⟩

end RequestBook.Calendar

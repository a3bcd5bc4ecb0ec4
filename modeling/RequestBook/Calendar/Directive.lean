import RequestBook.Calendar.Instant
import RequestBook.Text.Digit

/-! Texts of local times by directives. A directive is a percent sign and a letter, with a hyphen
between them for numbers without padding; every other character stands for itself. -/
namespace RequestBook.Calendar

inductive Field where
  | year
  | yearOfCentury (padded : Bool)
  | month (padded : Bool)
  | monthShort
  | monthLong
  | day (padded : Bool)
  | weekdayShort
  | weekdayLong
  | hour (padded : Bool)
  | hourOfHalf (padded : Bool)
  | minute (padded : Bool)
  | second (padded : Bool)
  | fraction (digits : Nat)
  | half
  | zone (colon : Bool)
  deriving DecidableEq, Repr

def monthNames : List String :=
  ["January", "February", "March", "April", "May", "June", "July", "August", "September", "October",
   "November", "December"]

def weekdayNames : List String :=
  ["Monday", "Tuesday", "Wednesday", "Thursday", "Friday", "Saturday", "Sunday"]

def nameAt (names : List String) (index : Nat) : List Char := (names.getD index "").toList

def twoDigits (padded : Bool) (n : Nat) : List Char :=
  if padded then Text.padded 2 n else Text.natText n

/-- A year has four digits, and a sign when it lies outside the years 0 to 9999. -/
def yearText (year : Int) : List Char :=
  if 0 ≤ year ∧ year ≤ 9999 then Text.padded 4 year.toNat
  else (if year < 0 then '-' else '+') :: Text.padded 4 year.natAbs

def fractionText (digits nanos : Nat) : List Char := (Text.padded 9 nanos).take digits

/-- How far local time is ahead of universal time, to the nearest minute. -/
def aheadText (colon : Bool) (ahead : Int) : List Char :=
  let minutes := (ahead.natAbs + 30) / 60
  (if ahead < 0 then '-' else '+') :: Text.padded 2 (minutes / 60) ++
    (if colon then [':'] else []) ++ Text.padded 2 (minutes % 60)

def Field.text (t : LocalTime) : Field → List Char
  | .year => yearText t.date.year
  | .yearOfCentury padded => twoDigits padded (t.date.year % 100).toNat
  | .month padded => twoDigits padded t.date.month
  | .monthShort => (nameAt monthNames (t.date.month - 1)).take 3
  | .monthLong => nameAt monthNames (t.date.month - 1)
  | .day padded => twoDigits padded t.date.day
  | .weekdayShort => (nameAt weekdayNames t.weekday).take 3
  | .weekdayLong => nameAt weekdayNames t.weekday
  | .hour padded => twoDigits padded t.hour
  | .hourOfHalf padded => twoDigits padded (if t.hour % 12 = 0 then 12 else t.hour % 12)
  | .minute padded => twoDigits padded t.minute
  | .second padded => twoDigits padded t.second
  | .fraction digits => fractionText digits t.nanos
  | .half => if t.hour < 12 then ['A', 'M'] else ['P', 'M']
  | .zone colon => aheadText colon t.ahead

inductive Item where
  | literal (c : Char)
  | field (f : Field)
  deriving DecidableEq, Repr

def Item.text (t : LocalTime) : Item → List Char
  | .literal c => [c]
  | .field f => f.text t

def numberField? (padded : Bool) : Char → Option Field
  | 'y' => some (.yearOfCentury padded)
  | 'm' => some (.month padded)
  | 'd' => some (.day padded)
  | 'H' => some (.hour padded)
  | 'I' => some (.hourOfHalf padded)
  | 'M' => some (.minute padded)
  | 'S' => some (.second padded)
  | _ => none

def letterItem? : Char → Option Item
  | '%' => some (.literal '%')
  | 'Y' => some (.field .year)
  | 'b' => some (.field .monthShort)
  | 'B' => some (.field .monthLong)
  | 'a' => some (.field .weekdayShort)
  | 'A' => some (.field .weekdayLong)
  | 'p' => some (.field .half)
  | 'z' => some (.field (.zone false))
  | c => (numberField? true c).map .field

/-- The items of a text with directives; none when a percent sign begins no directive. -/
def items? : List Char → Option (List Item)
  | [] => some []
  | '%' :: '-' :: c :: rest =>
    match numberField? false c with
    | some f => (items? rest).map (.field f :: ·)
    | none => none
  | '%' :: ':' :: 'z' :: rest => (items? rest).map (.field (.zone true) :: ·)
  | '%' :: '3' :: 'f' :: rest => (items? rest).map (.field (.fraction 3) :: ·)
  | '%' :: '6' :: 'f' :: rest => (items? rest).map (.field (.fraction 6) :: ·)
  | '%' :: '9' :: 'f' :: rest => (items? rest).map (.field (.fraction 9) :: ·)
  | '%' :: c :: rest =>
    match letterItem? c with
    | some item => (items? rest).map (item :: ·)
    | none => none
  | c :: rest => if c = '%' then none else (items? rest).map (.literal c :: ·)

def LocalTime.format? (t : LocalTime) (directives : List Char) : Option (List Char) :=
  (items? directives).map fun items => items.flatMap (Item.text t)

def Instant.isoText (i : Instant) : List Char :=
  yearText i.date.year ++ '-' :: Text.padded 2 i.date.month ++ '-' :: Text.padded 2 i.date.day ++
    'T' :: Text.padded 2 i.hour ++ ':' :: Text.padded 2 i.minute ++ ':' :: Text.padded 2 i.second ++
    '.' :: fractionText 3 i.nanos

end RequestBook.Calendar

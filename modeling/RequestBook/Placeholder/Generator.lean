import RequestBook.Calendar.Pattern
import RequestBook.Placeholder.Argument
import RequestBook.Roster
import RequestBook.Text.Cut

/-! Generated values: identifiers, times, random numbers and values of the environment. What is
generated depends on the sources alone, so equal requests to the same sources have equal answers. -/
namespace RequestBook

structure Sources where
  clock : Calendar.Clock
  environment : String → Option String
  entropy : Nat

def Sources.now (sources : Sources) : Calendar.Instant := sources.clock.now

namespace Generator

open Calendar

def timeUnit? (text : List Char) : Option TimeUnit :=
  match text with
  | ['m', 's'] => some .millisecond
  | ['s'] => some .second
  | ['m'] => some .minute
  | ['h'] => some .hour
  | ['d'] => some .day
  | ['w'] => some .week
  | ['M'] => some .month
  | ['y'] => some .year
  | _ => none

def readOffset (text : List Char) : Option Offset := do
  let (sign, rest) := match text with
    | '+' :: rest => (['+'], rest)
    | '-' :: rest => (['-'], rest)
    | _ => ([], text)
  let amount ← Text.readInt64? (sign ++ rest.takeWhile Text.isAsciiDigit)
  let unit ← timeUnit? (Text.trimStart (rest.dropWhile Text.isAsciiDigit))
  return ⟨amount, unit⟩

/-- The offset that arguments spell together, `some none` when there are no arguments. Quoted
arguments are no part of an offset. -/
def offset? (arguments : List Argument) : Option (Option Offset) :=
  if arguments.isEmpty then some none
  else if arguments.any Argument.quoted then none
  else (readOffset (Text.joinWith [' '] (arguments.map fun a => a.text.toList))).map some

def moment? (now : Instant) (arguments : List Argument) : Option Instant :=
  match offset? arguments with
  | none => none
  | some none => some now
  | some (some offset) => now.shift? offset

/-- Whether a word can only be the beginning of an offset: signs and then a digit. -/
def startsLikeOffset (text : List Char) : Bool :=
  match text.dropWhile fun c => c == '+' || c == '-' with
  | c :: _ => Text.isAsciiDigit c
  | [] => false

inductive Format where
  | iso
  | rfc1123
  | custom (pattern : String)

def Format.ofArgument (a : Argument) : Format :=
  if !a.quoted && sameName a.text "rfc1123" then .rfc1123
  else if !a.quoted && sameName a.text "iso8601" then .iso
  else .custom a.text

def rfc1123Directives : List Char := "%a, %d %b %Y %H:%M:%S GMT".toList

/-- The text of an instant in a zone, or in universal time when there is none; a pattern without a field
counts as no format. The zone of the standard form is a letter in universal time and a number in local
time; the named form is in universal time always. -/
def Format.text (format : Format) (zone : Option Zone) (i : Instant) : List Char :=
  let shown := i.inZone (zone.getD .universal)
  let standard := shown.isoText ++ if zone.isSome then aheadText true shown.ahead else ['Z']
  match format with
  | .iso => standard
  | .rfc1123 => ((i.inZone .universal).format? rfc1123Directives).getD standard
  | .custom pattern => (shown.patternText? pattern.toList).getD standard

/-- A leading argument that does not look like an offset is the format. -/
def splitFormat (arguments : List Argument) : Format × List Argument :=
  match arguments with
  | first :: rest =>
    if first.quoted || !startsLikeOffset first.text.toList then (Format.ofArgument first, rest)
    else (.iso, arguments)
  | [] => (.iso, [])

def datetime? (now : Instant) (zone : Option Zone) (arguments : List Argument) : Option (List Char) :=
  let (format, rest) := splitFormat arguments
  (moment? now rest).map (format.text zone)

def timestamp? (now : Instant) (arguments : List Argument) : Option (List Char) :=
  (moment? now arguments).map fun i => Text.intText i.seconds

/-- The bounds of a random number: below a maximum, between two bounds, or below `2 ^ 31 - 1`. -/
def bounds? (arguments : List Argument) : Option (Int × Int) :=
  match arguments.mapM fun a => Text.readInt64? a.text.toList with
  | some [] => some (0, 2147483647)
  | some [high] => some (0, high)
  | some [low, high] => some (low, high)
  | _ => none

/-- A number from `low` to below `high`; `low` itself when there is none. -/
def randomInt? (entropy : Nat) (arguments : List Argument) : Option (List Char) :=
  (bounds? arguments).map fun (low, high) =>
    Text.intText (if high ≤ low then low else low + (entropy : Int) % (high - low))

/-- The value of the variable that the first argument names; percent signs before the name do not
count, and a variable that is not set is empty. -/
def environmentValue? (environment : String → Option String) (arguments : List Argument) :
    Option (List Char) :=
  match arguments with
  | [] => none
  | first :: _ =>
    let name := first.text.toList.dropWhile (· == '%')
    if name.isEmpty then none else some ((environment (String.ofList name)).getD "").toList

def hexDigits (count n : Nat) : List Char :=
  let digits := Nat.toDigits 16 (n % Nat.pow 16 count)
  List.replicate (count - digits.length) '0' ++ digits

/-- A random identifier of version 4: 122 bits of the entropy in 32 digits, in groups. -/
def guid (entropy : Nat) : List Char :=
  let variant := Char.ofNat ([56, 57, 97, 98].getD (entropy % 4) 56)
  let bits := entropy / 4
  hexDigits 8 bits ++ '-' :: hexDigits 4 (bits / Nat.pow 2 32) ++
    '-' :: '4' :: hexDigits 3 (bits / Nat.pow 2 48) ++
    '-' :: variant :: hexDigits 3 (bits / Nat.pow 2 60) ++ '-' :: hexDigits 12 (bits / Nat.pow 2 72)

def evaluate? (sources : Sources) (name : String) (arguments : Option String) : Option String :=
  let arguments := Argument.parse (arguments.getD "").toList
  let value := match name with
    | "guid" => some (guid sources.entropy)
    | "timestamp" => timestamp? sources.now arguments
    | "datetime" => datetime? sources.now none arguments
    | "localDatetime" => datetime? sources.now (some sources.clock.zone) arguments
    | "randomInt" => randomInt? sources.entropy arguments
    | "processEnv" => environmentValue? sources.environment arguments
    | "dotEnv" => environmentValue? sources.environment arguments
    | "dotenv" => environmentValue? sources.environment arguments
    | _ => none
  value.map String.ofList

def placeholder (name : String) (arguments : Option String) : String :=
  let arguments := Text.trim (arguments.getD "").toList
  let inner := '$' :: name.toList ++ if arguments.isEmpty then [] else ' ' :: arguments
  String.ofList ('{' :: '{' :: inner ++ ['}', '}'])

def evaluate (sources : Sources) (name : String) (arguments : Option String) : String :=
  (evaluate? sources name arguments).getD (placeholder name arguments)

end Generator

end RequestBook

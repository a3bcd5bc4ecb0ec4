import RequestBook.Json.Value
import RequestBook.Text.Cut
import RequestBook.Text.Digit

/-! The lexemes of JSON. Strings may hold no raw control character and no escaped surrogate
without its partner; a number too large for a double is no lexeme. -/
namespace RequestBook.Json

inductive Token where
  | openArray
  | closeArray
  | openObject
  | closeObject
  | comma
  | colon
  | scalar (value : Json)
  deriving Repr

def hex4? (a b c d : Char) : Option Nat := Text.natOfHex? [a, b, c, d]

def unescape? : Char → Option Char
  | '"' => some '"'
  | '\\' => some '\\'
  | '/' => some '/'
  | 'b' => some (Char.ofNat 8)
  | 'f' => some (Char.ofNat 12)
  | 'n' => some '\n'
  | 'r' => some '\r'
  | 't' => some '\t'
  | _ => none

/-- The character behind a backslash and what follows it. Two escapes that make a pair of surrogates
are one character. -/
def readEscape (text : List Char) : Option (Char × List Char) :=
  match text with
  | 'u' :: a :: b :: c :: d :: rest => do
    let code ← hex4? a b c d
    if 0xD800 ≤ code ∧ code < 0xDC00 then
      match rest with
      | '\\' :: 'u' :: e :: f :: g :: h :: rest => do
        let low ← hex4? e f g h
        if 0xDC00 ≤ low ∧ low < 0xE000 then
          some (Char.ofNat (0x10000 + (code - 0xD800) * 0x400 + (low - 0xDC00)), rest)
        else none
      | _ => none
    else if 0xDC00 ≤ code ∧ code < 0xE000 then none
    else some (Char.ofNat code, rest)
  | c :: rest => (unescape? c).map fun character => (character, rest)
  | [] => none

theorem length_of_readEscape {text after : List Char} {c : Char}
    (read : readEscape text = some (c, after)) : after.length < text.length := by
  unfold readEscape at read
  split at read
  next rest =>
    obtain ⟨code, _, read⟩ := Option.bind_eq_some_iff.mp read
    split at read
    · split at read
      · obtain ⟨low, _, read⟩ := Option.bind_eq_some_iff.mp read
        split at read
        · obtain ⟨_, rfl⟩ := Prod.mk.inj (Option.some.inj read)
          simp only [List.length_cons]; omega
        · contradiction
      · contradiction
    · split at read
      · contradiction
      · obtain ⟨_, rfl⟩ := Prod.mk.inj (Option.some.inj read)
        simp only [List.length_cons]; omega
  next =>
    obtain ⟨_, _, eq⟩ := Option.map_eq_some_iff.mp read
    cases eq
    simp
  next => contradiction

def readString (text : List Char) : Option (List Char × List Char) :=
  match text with
  | [] => none
  | '"' :: rest => some ([], rest)
  | '\\' :: rest =>
    match read : readEscape rest with
    | none => none
    | some (c, after) =>
      have := length_of_readEscape read
      Text.keeping c (readString after)
  | c :: rest => if c.toNat < 0x20 then none else Text.keeping c (readString rest)
termination_by text.length

theorem length_of_readString {text content after : List Char}
    (read : readString text = some (content, after)) : after.length < text.length := by
  fun_induction readString text generalizing content with
  | case1 => contradiction
  | case2 => cases read; simp
  | case3 => contradiction
  | case4 rest c after' _ shorter ih =>
    have := Text.length_of_keeping read fun _ => ih
    simp only [List.length_cons] at *
    omega
  | case5 => contradiction
  | case6 c rest _ _ _ ih => exact Text.length_of_keeping read fun _ => ih

def digitRun (text : List Char) : List Char × List Char :=
  (text.takeWhile Text.isAsciiDigit, text.dropWhile Text.isAsciiDigit)

/-- The whole part of a number: a zero alone, or digits that do not start with one. -/
def wholePart? (text : List Char) : Option (List Char × List Char) :=
  match text with
  | '0' :: rest => some (['0'], rest)
  | _ =>
    let (digits, rest) := digitRun text
    if digits.isEmpty then none else some (digits, rest)

def fraction? (text : List Char) : Option (List Char × List Char) :=
  match text with
  | '.' :: rest =>
    let (digits, rest) := digitRun rest
    if digits.isEmpty then none else some (digits, rest)
  | _ => some ([], text)

def signedPower? (negative : Bool) (text : List Char) : Option (Option Int × List Char) :=
  let (digits, rest) := digitRun text
  let n : Int := Text.natOfDigits digits
  if digits.isEmpty then none else some (some (if negative then -n else n), rest)

def power? (text : List Char) : Option (Option Int × List Char) :=
  match text with
  | c :: rest =>
    if c = 'e' ∨ c = 'E' then
      match rest with
      | '+' :: digits => signedPower? false digits
      | '-' :: digits => signedPower? true digits
      | _ => signedPower? false rest
    else some (none, text)
  | [] => some (none, text)

/-- A number with digits put behind it as long as it stays below `2 ^ 64`, and how many there is room for. -/
def addDigits (significand : Nat) : List Char → Nat × Nat
  | [] => (significand, 0)
  | c :: rest =>
    let longer := 10 * significand + (c.toNat - 48)
    if longer < Text.unsignedLimit then
      let (significand, room) := addDigits longer rest
      (significand, room + 1)
    else (significand, 0)

/-- The double with the given parts. Whole and fraction share 64 bits: digits of the whole that find no
room count as zeros, digits of the fraction that find none are left out. -/
def double? (negative : Bool) (whole fraction : List Char) (power : Int) : Option Number :=
  let (significand, wholeRoom) := addDigits 0 whole
  let (significand, fractionRoom) := addDigits significand fraction
  let power := power + (whole.length - wholeRoom : Nat) - fractionRoom
  (Decimal.Binary64.ofDecimal? negative significand power).map .double

/-- The number with the given parts. Without fraction and power it is an integer if it fits in 64
bits; a negative zero is a double. -/
def numberOf? (negative : Bool) (whole fraction : List Char) (power : Option Int) : Option Number :=
  let n := Text.natOfDigits whole
  match fraction, power with
  | [], none =>
    if negative then
      if n ≠ 0 ∧ n ≤ Text.signedLimit then some (.integer (-(n : Int))) else double? true whole [] 0
    else if n < Text.unsignedLimit then some (.integer n)
    else double? false whole [] 0
  | _, _ => double? negative whole fraction (power.getD 0)

def readUnsigned (negative : Bool) (text : List Char) : Option (Number × List Char) := do
  let (whole, text) ← wholePart? text
  let (fraction, text) ← fraction? text
  let (power, text) ← power? text
  return (← numberOf? negative whole fraction power, text)

def readNumber (text : List Char) : Option (Number × List Char) :=
  match text with
  | '-' :: rest => readUnsigned true rest
  | _ => readUnsigned false text

theorem length_digitRun_le (text : List Char) : (digitRun text).2.length ≤ text.length :=
  (List.dropWhile_sublist Text.isAsciiDigit).length_le

theorem length_digitRun_lt {text : List Char} (some_digit : (digitRun text).1 ≠ []) :
    (digitRun text).2.length < text.length := by
  cases text with
  | nil => exact absurd rfl some_digit
  | cons c rest =>
    by_cases digit : Text.isAsciiDigit c
    · simp only [digitRun, List.dropWhile_cons, digit, if_true, List.length_cons]
      exact Nat.lt_succ_of_le (List.dropWhile_sublist _).length_le
    · simp [digitRun, digit] at some_digit

theorem length_of_wholePart? {text digits after : List Char}
    (read : wholePart? text = some (digits, after)) : after.length < text.length := by
  unfold wholePart? at read
  split at read
  · cases read; simp
  · dsimp only at read
    split at read
    · contradiction
    next some_digit =>
      cases read
      exact length_digitRun_lt (by simpa using some_digit)

theorem length_of_fraction? {text digits after : List Char}
    (read : fraction? text = some (digits, after)) : after.length ≤ text.length := by
  unfold fraction? at read
  split at read
  next rest =>
    dsimp only at read
    split at read
    · contradiction
    · cases read
      exact Nat.le_succ_of_le (length_digitRun_le rest)
  next => cases read; exact Nat.le_refl _

theorem length_of_signedPower? {negative : Bool} {text after : List Char} {power : Option Int}
    (read : signedPower? negative text = some (power, after)) : after.length ≤ text.length := by
  unfold signedPower? at read
  dsimp only at read
  split at read
  · contradiction
  · cases read; exact length_digitRun_le text

theorem length_of_power? {text after : List Char} {power : Option Int}
    (read : power? text = some (power, after)) : after.length ≤ text.length := by
  unfold power? at read
  split at read
  next c rest =>
    split at read
    · split at read
      all_goals
        have := length_of_signedPower? read
        simp only [List.length_cons] at *
        omega
    · cases read; exact Nat.le_refl _
  next => cases read; exact Nat.le_refl _

theorem length_of_readUnsigned {negative : Bool} {text after : List Char} {n : Number}
    (read : readUnsigned negative text = some (n, after)) : after.length < text.length := by
  obtain ⟨⟨whole, afterWhole⟩, readWhole, read⟩ := Option.bind_eq_some_iff.mp read
  obtain ⟨⟨fraction, afterFraction⟩, readFraction, read⟩ := Option.bind_eq_some_iff.mp read
  obtain ⟨⟨power, afterPower⟩, readPower, read⟩ := Option.bind_eq_some_iff.mp read
  obtain ⟨m, _, read⟩ := Option.bind_eq_some_iff.mp read
  obtain ⟨_, rfl⟩ := Prod.mk.inj (Option.some.inj read)
  have := length_of_wholePart? readWhole
  have := length_of_fraction? readFraction
  have := length_of_power? readPower
  omega

theorem length_of_readNumber {text after : List Char} {n : Number}
    (read : readNumber text = some (n, after)) : after.length < text.length := by
  unfold readNumber at read
  split at read
  · exact Nat.lt_succ_of_lt (length_of_readUnsigned read)
  · exact length_of_readUnsigned read

def readToken (text : List Char) : Option (Token × List Char) :=
  match text with
  | '[' :: rest => some (.openArray, rest)
  | ']' :: rest => some (.closeArray, rest)
  | '{' :: rest => some (.openObject, rest)
  | '}' :: rest => some (.closeObject, rest)
  | ',' :: rest => some (.comma, rest)
  | ':' :: rest => some (.colon, rest)
  | 'n' :: 'u' :: 'l' :: 'l' :: rest => some (.scalar .null, rest)
  | 't' :: 'r' :: 'u' :: 'e' :: rest => some (.scalar (.bool true), rest)
  | 'f' :: 'a' :: 'l' :: 's' :: 'e' :: rest => some (.scalar (.bool false), rest)
  | '"' :: rest => (readString rest).map fun (s, rest) => (.scalar (.string (String.ofList s)), rest)
  | _ => (readNumber text).map fun (n, rest) => (.scalar (.number n), rest)

def isSpace (c : Char) : Bool := c == ' ' || c == '\t' || c == '\n' || c == '\r'

theorem length_of_readToken {text after : List Char} {token : Token}
    (read : readToken text = some (token, after)) : after.length < text.length := by
  unfold readToken at read
  split at read
  case h_10 =>
    obtain ⟨⟨_, _⟩, found, eq⟩ := Option.map_eq_some_iff.mp read
    cases eq
    exact Nat.lt_succ_of_lt (length_of_readString found)
  case h_11 =>
    obtain ⟨⟨_, _⟩, found, eq⟩ := Option.map_eq_some_iff.mp read
    cases eq
    exact length_of_readNumber found
  all_goals
    cases read
    simp only [List.length_cons]
    omega

def tokens (text : List Char) : Option (List Token) :=
  match text with
  | [] => some []
  | c :: rest =>
    if isSpace c then tokens rest
    else match read : readToken (c :: rest) with
      | none => none
      | some (token, after) =>
        have := length_of_readToken read
        (tokens after).map (token :: ·)
termination_by text.length
decreasing_by
  · exact Nat.lt_succ_self _
  · exact this

end RequestBook.Json

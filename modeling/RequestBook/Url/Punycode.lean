import RequestBook.Text.Case
import RequestBook.Text.Digit

/-! Decoding labels that spell characters beyond ASCII in letters and digits. The part before the
last hyphen holds the ASCII characters; the part behind it tells, as numbers of variable length,
which character comes next in order and where it is put in. -/
namespace RequestBook.Url.Punycode

def digit? (c : Char) : Option Nat :=
  if 'a' ≤ c ∧ c ≤ 'z' then some (c.toNat - 97)
  else if 'A' ≤ c ∧ c ≤ 'Z' then some (c.toNat - 65)
  else if '0' ≤ c ∧ c ≤ '9' then some (c.toNat - 22)
  else none

/-- The least digit that does not end a number, at a place counted in steps of 36. -/
def threshold (place bias : Nat) : Nat :=
  if place ≤ bias then 1 else if bias + 26 ≤ place then 26 else place - bias

/-- A number of variable length, and what follows it. The number and the weight of each of its
places lie below `2 ^ 32`. -/
def readNumber (bias place weight sum : Nat) : List Char → Option (Nat × List Char)
  | [] => none
  | c :: rest =>
    match digit? c with
    | none => none
    | some digit =>
      let sum := sum + digit * weight
      if 0x100000000 ≤ sum then none
      else if digit < threshold place bias then some (sum, rest)
      else if 0x100000000 ≤ weight * (36 - threshold place bias) then none
      else readNumber bias (place + 36) (weight * (36 - threshold place bias)) sum rest

/-- The bias after a delta that is at most 455. -/
def settle (places delta : Nat) : Nat := places + 36 * delta / (delta + 38)

/-- Divide a delta by 35 until it is at most 455; a delta below `2 ^ 32` needs five steps. -/
def reduce : (steps places delta : Nat) → Nat × Nat
  | 0, places, delta => (places, delta)
  | steps + 1, places, delta =>
    if 455 < delta then reduce steps (places + 36) (delta / 35) else (places, delta)

def adapt (delta size : Nat) (first : Bool) : Nat :=
  let delta := if first then delta / 700 else delta / 2
  let (places, delta) := reduce 8 0 (delta + delta / size)
  settle places delta

def isScalar (n : Nat) : Bool := n < 0xD800 || (0xDFFF < n && n < 0x110000)

theorem length_of_readNumber {bias place weight sum n : Nat} {text rest : List Char}
    (read : readNumber bias place weight sum text = some (n, rest)) : rest.length < text.length := by
  induction text generalizing place weight sum with
  | nil => simp [readNumber] at read
  | cons c text ih =>
    simp only [readNumber] at read
    split at read
    · contradiction
    · split at read
      · contradiction
      · split at read
        · cases read; simp
        · split at read
          · contradiction
          · exact Nat.lt_succ_of_lt (ih read)

def insertAll (code bias position : Nat) (first : Bool) (output text : List Char) : Option (List Char) :=
  match text with
  | [] => some output
  | c :: rest =>
    match read : readNumber bias 36 1 0 (c :: rest) with
    | none => none
    | some (delta, after) =>
      have := length_of_readNumber read
      let size := output.length + 1
      let total := position + delta
      let code := code + total / size
      if isScalar code && total < 0x100000000 then
        insertAll code (adapt delta size first) (total % size + 1) false
          (output.insertIdx (total % size) (Char.ofNat code)) after
      else none
termination_by text.length
decreasing_by exact this

def decode? (text : List Char) : Option (List Char) :=
  let extended := (text.reverse.takeWhile (· != '-')).reverse
  let basic := text.take (text.length - extended.length - 1)
  if basic.isEmpty then insertAll 128 72 0 true [] text
  else insertAll 128 72 0 true basic extended

end RequestBook.Url.Punycode

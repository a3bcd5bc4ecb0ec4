import RequestBook.Decimal.Shortest
import RequestBook.Json.Value
import RequestBook.Text.Digit

/-! Writing JSON without spaces. A string escapes the quote, the backslash and the control
characters below U+0020; a double is written with the fewest digits that read back. -/
namespace RequestBook

/-- A double is positional from `1e-5` to below `1e16` and always has a fraction there; outside it
has one digit before the point, and the power carries a sign. -/
def Decimal.Binary64.text (x : Binary64) : List Char :=
  let s := x.shortest
  let digits := Text.natText s.digits
  let power := s.power + (digits.length - 1 : Nat)
  let unsigned :=
    if s.digits = 0 then ['0', '.', '0']
    else if -5 ≤ power ∧ power < 16 then
      if 0 ≤ s.power then digits ++ List.replicate s.power.toNat '0' ++ ['.', '0']
      else if 0 ≤ power then
        digits.take (power.toNat + 1) ++ '.' :: digits.drop (power.toNat + 1)
      else '0' :: '.' :: List.replicate ((-power).toNat - 1) '0' ++ digits
    else
      let fraction := if digits.length = 1 then [] else '.' :: digits.drop 1
      digits.take 1 ++ fraction ++ 'e' :: (if power < 0 then '-' else '+') :: Text.natText power.natAbs
  if x.negative then '-' :: unsigned else unsigned

def Number.text : Number → List Char
  | .integer n => Text.intText n
  | .double x => x.text

namespace Json

def hexDigit (n : Nat) : Char := if n < 10 then Char.ofNat (48 + n) else Char.ofNat (87 + n)

def escape (c : Char) : List Char :=
  if c = '"' then ['\\', '"']
  else if c = '\\' then ['\\', '\\']
  else if c.toNat = 8 then ['\\', 'b']
  else if c.toNat = 9 then ['\\', 't']
  else if c.toNat = 10 then ['\\', 'n']
  else if c.toNat = 12 then ['\\', 'f']
  else if c.toNat = 13 then ['\\', 'r']
  else if c.toNat < 0x20 then ['\\', 'u', '0', '0', hexDigit (c.toNat / 16), hexDigit (c.toNat % 16)]
  else [c]

def quoted (s : List Char) : List Char := '"' :: s.flatMap escape ++ ['"']

mutual

def write : Json → List Char
  | .null => ['n', 'u', 'l', 'l']
  | .bool true => ['t', 'r', 'u', 'e']
  | .bool false => ['f', 'a', 'l', 's', 'e']
  | .number n => n.text
  | .string s => quoted s.toList
  | .array items => '[' :: writeItems items ++ [']']
  | .object fields => '{' :: writeFields fields ++ ['}']

def writeItems : List Json → List Char
  | [] => []
  | [item] => write item
  | item :: rest => write item ++ ',' :: writeItems rest

def writeFields : List (String × Json) → List Char
  | [] => []
  | [(name, value)] => quoted name.toList ++ ':' :: write value
  | (name, value) :: rest => quoted name.toList ++ ':' :: write value ++ ',' :: writeFields rest

end

def compact (value : Json) : String := String.ofList (write value)

end Json

end RequestBook

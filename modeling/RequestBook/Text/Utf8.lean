/-! Texts as bytes. `decodeParts` reads UTF-8 and marks every maximal ill-formed part; the strict
reading refuses a text with such a part and the lenient one puts U+FFFD in its place. -/
namespace RequestBook.Text

abbrev Bytes := List UInt8

def encode (text : List Char) : Bytes := text.flatMap String.utf8EncodeChar

def byteLength : List Char → Nat
  | [] => 0
  | c :: rest => c.utf8Size + byteLength rest

/-- A character whose first bytes have been read: the bytes it is still owed, the bounds of the
next one, and the code collected so far. -/
structure Begun where
  owed : Nat
  low : UInt8
  high : UInt8
  code : Nat

inductive Lead where
  | whole (c : Char)
  | begins (b : Begun)
  | illFormed

/-- What the first byte of a character says. The bounds keep out overlong forms, surrogates and
codes above U+10FFFF. -/
def lead (b : UInt8) : Lead :=
  if b < 0x80 then .whole (Char.ofNat b.toNat)
  else if b < 0xC2 then .illFormed
  else if b < 0xE0 then .begins ⟨1, 0x80, 0xBF, b.toNat - 0xC0⟩
  else if b == 0xE0 then .begins ⟨2, 0xA0, 0xBF, 0⟩
  else if b == 0xED then .begins ⟨2, 0x80, 0x9F, 0xD⟩
  else if b < 0xF0 then .begins ⟨2, 0x80, 0xBF, b.toNat - 0xE0⟩
  else if b == 0xF0 then .begins ⟨3, 0x90, 0xBF, 0⟩
  else if b < 0xF4 then .begins ⟨3, 0x80, 0xBF, b.toNat - 0xF0⟩
  else if b == 0xF4 then .begins ⟨3, 0x80, 0x8F, 4⟩
  else .illFormed

/-- The characters of a byte sequence, `none` for each maximal ill-formed part. -/
def decodeParts : Option Begun → Bytes → List (Option Char)
  | none, [] => []
  | some _, [] => [none]
  | none, b :: rest =>
    match lead b with
    | .whole c => some c :: decodeParts none rest
    | .begins p => decodeParts (some p) rest
    | .illFormed => none :: decodeParts none rest
  | some p, b :: rest =>
    if p.low ≤ b ∧ b ≤ p.high then
      let code := p.code * 64 + (b.toNat - 0x80)
      if p.owed ≤ 1 then some (Char.ofNat code) :: decodeParts none rest
      else decodeParts (some ⟨p.owed - 1, 0x80, 0xBF, code⟩) rest
    else
      none :: match lead b with
        | .whole c => some c :: decodeParts none rest
        | .begins q => decodeParts (some q) rest
        | .illFormed => none :: decodeParts none rest

/-- The text of well-formed UTF-8. -/
def decode? (bytes : Bytes) : Option (List Char) := (decodeParts none bytes).mapM id

/-- The text of any bytes, with U+FFFD for each maximal ill-formed part. -/
def decodeLossy (bytes : Bytes) : List Char :=
  (decodeParts none bytes).map (Option.getD · (Char.ofNat 0xFFFD))

end RequestBook.Text

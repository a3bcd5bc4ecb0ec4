import RequestBook.Text.Utf8

/-! Places in the bytes of a text. Only a character below 128 is written with a byte below 128, and
then with that byte alone. So whatever begins with such a character is found among the bytes only where
it stands among the characters. -/
namespace RequestBook.Text

@[simp] theorem encode_nil : encode [] = [] := rfl

@[simp] theorem encode_cons (c : Char) (rest : List Char) :
    encode (c :: rest) = String.utf8EncodeChar c ++ encode rest := rfl

@[simp] theorem encode_append (first second : List Char) :
    encode (first ++ second) = encode first ++ encode second := List.flatMap_append

theorem length_encode (text : List Char) : (encode text).length = byteLength text := by
  induction text with
  | nil => rfl
  | cons c rest ih => rw [encode_cons, List.length_append, String.length_utf8EncodeChar, ih, byteLength]

theorem byteLength_append (first second : List Char) :
    byteLength (first ++ second) = byteLength first + byteLength second := by
  rw [← length_encode, encode_append, List.length_append, length_encode, length_encode]

theorem byteLength_eq_zero {text : List Char} (empty : byteLength text = 0) : text = [] := by
  cases text with
  | nil => rfl
  | cons c rest =>
    have := c.utf8Size_pos
    rw [byteLength] at empty
    omega

/-- The bytes tell where the first character ends. -/
theorem utf8EncodeChar_append_inj {c d : Char} {first second : Bytes}
    (same : String.utf8EncodeChar c ++ first = String.utf8EncodeChar d ++ second) : c = d := by
  have read : ∀ (e : Char) (behind : Bytes),
      (String.utf8EncodeChar e ++ behind).toByteArray.utf8DecodeChar? 0 = some e := by
    intro e behind
    rw [List.toByteArray_append]
    exact ByteArray.utf8DecodeChar?_utf8EncodeChar_append
  have left := read c first
  rw [same, read d second] at left
  exact (Option.some_inj.mp left).symm

/-- Bytes that begin with those of a text are those of a text that begins with it. -/
theorem encode_eq_append {text first : List Char} {behind : Bytes}
    (same : encode text = encode first ++ behind) : ∃ rest, text = first ++ rest ∧ behind = encode rest := by
  induction first generalizing text with
  | nil => exact ⟨text, rfl, same.symm⟩
  | cons c first ih =>
    rw [encode_cons, List.append_assoc] at same
    cases text with
    | nil =>
      have lengths := congrArg List.length same
      have := c.utf8Size_pos
      rw [List.length_append, String.length_utf8EncodeChar, encode_nil, List.length_nil] at lengths
      omega
    | cons d text =>
      rw [encode_cons] at same
      obtain rfl := utf8EncodeChar_append_inj same
      obtain ⟨rest, rfl, eq⟩ := ih (List.append_cancel_left same)
      exact ⟨rest, rfl, eq⟩

/-- A byte below 128 is a character of its own. -/
theorem utf8EncodeChar_of_ascii {c : Char} {b : UInt8} (member : b ∈ String.utf8EncodeChar c)
    (ascii : b < 0x80) : String.utf8EncodeChar c = [b] := by
  have high : ∀ n mark : Nat, 0x80 ≤ mark → mark + n < 0x100 → ¬ UInt8.ofNat (n + mark) < 0x80 := by
    intro n mark above below low
    rw [UInt8.lt_iff_toNat_lt, UInt8.toNat_ofNat_of_lt' (by rw [UInt8.size]; omega)] at low
    change n + mark < 0x80 at low
    omega
  unfold String.utf8EncodeChar at member ⊢
  dsimp only at member ⊢
  split at member
  next small => rw [if_pos small, List.mem_singleton.mp member]
  next =>
    -- two bytes or more, and each of them is marked
    exfalso
    split at member
    · simp only [List.mem_cons, List.not_mem_nil, or_false] at member
      rcases member with rfl | rfl <;> exact high _ _ (by omega) (by omega) ascii
    · split at member
      · simp only [List.mem_cons, List.not_mem_nil, or_false] at member
        rcases member with rfl | rfl | rfl <;> exact high _ _ (by omega) (by omega) ascii
      · simp only [List.mem_cons, List.not_mem_nil, or_false] at member
        rcases member with rfl | rfl | rfl | rfl <;> exact high _ _ (by omega) (by omega) ascii

/-- Before a byte below 128 a character ends. -/
theorem encode_eq_append_cons {text : List Char} {before behind : Bytes} {b : UInt8} (ascii : b < 0x80)
    (same : encode text = before ++ b :: behind) :
    ∃ front rest, text = front ++ rest ∧ before = encode front ∧ b :: behind = encode rest := by
  induction text generalizing before with
  | nil => simp at same
  | cons c text ih =>
    rw [encode_cons] at same
    rcases List.append_eq_append_iff.mp same with ⟨more, rfl, later⟩ | ⟨part, own, later⟩
    · obtain ⟨front, rest, rfl, rfl, eq⟩ := ih later
      exact ⟨c :: front, rest, rfl, by rw [encode_cons], eq⟩
    · cases part with
      | nil => exact ⟨[c], text, rfl, by simpa using own.symm, later⟩
      | cons d part =>
        -- the byte is one of those that the character is written with
        obtain ⟨rfl, _⟩ := List.cons.inj later
        have single := utf8EncodeChar_of_ascii (c := c) (b := b) (by rw [own]; simp) ascii
        have none : before = [] := by
          rw [own] at single
          have lengths := congrArg List.length single
          rw [List.length_append, List.length_cons, List.length_singleton] at lengths
          exact List.eq_nil_of_length_eq_zero (by omega)
        subst none
        exact ⟨[], c :: text, rfl, rfl, same.symm⟩

/-- The bytes of the text from `start` to behind `stop` are those of the word. -/
def Occupies (word text : List Char) (start stop : Nat) : Prop :=
  ∃ before behind : Bytes, encode text = before ++ (encode word ++ behind) ∧ before.length = start ∧
    start + (encode word).length = stop

def StandsAt (word text : List Char) (start stop : Nat) : Prop :=
  ∃ before behind, text = before ++ (word ++ behind) ∧ byteLength before = start ∧
    start + byteLength word = stop

theorem StandsAt.occupies {word text : List Char} {start stop : Nat} (stands : StandsAt word text start stop) :
    Occupies word text start stop := by
  obtain ⟨before, behind, rfl, rfl, rfl⟩ := stands
  exact ⟨encode before, encode behind, by rw [encode_append, encode_append], length_encode before,
    by rw [length_encode]⟩

/-- A word that begins with an ASCII character lies between characters. -/
theorem Occupies.standsAt {c : Char} {word text : List Char} {start stop : Nat} (ascii : c.toNat < 0x80)
    (occupies : Occupies (c :: word) text start stop) : StandsAt (c :: word) text start stop := by
  obtain ⟨before, behind, eq, rfl, rfl⟩ := occupies
  have small : c.val.toNat ≤ 127 := Nat.le_of_lt_succ ascii
  have single : String.utf8EncodeChar c = [UInt8.ofNat c.val.toNat] := if_pos small
  have low : UInt8.ofNat c.val.toNat < 0x80 := by
    rw [UInt8.lt_iff_toNat_lt, UInt8.toNat_ofNat_of_lt' (by rw [UInt8.size]; omega)]
    exact Nat.lt_succ_of_le small
  have split : encode text = before ++ UInt8.ofNat c.val.toNat :: (encode word ++ behind) := by
    rw [eq, encode_cons, single]
    rfl
  obtain ⟨front, rest, rfl, rfl, own⟩ := encode_eq_append_cons low split
  have whole : encode rest = encode (c :: word) ++ behind := by
    rw [← own, encode_cons, single]
    rfl
  obtain ⟨after, rfl, _⟩ := encode_eq_append whole
  exact ⟨front, after, rfl, (length_encode front).symm, by rw [length_encode, length_encode]⟩

end RequestBook.Text

import RequestBook.Proofs.CaseFolding
import RequestBook.Proofs.JsonText
import RequestBook.Proofs.PieceReading

/-! Characters written as references. A character other than the null character has a decimal and a
hexadecimal reference, and both are read as that character. -/
namespace RequestBook.Text

/-- A hexadecimal digit counts the same in either case. -/
theorem hexValue?_of_toLower {d : Char} {k : Nat} (small : k < 16) (digit : d.toLower = k.digitChar) :
    hexValue? d = some k := by
  have ascii : ∀ k < 16, k.digitChar.toNat < 128 := by decide
  have below : d.toNat < 128 := by
    by_contra beyond
    -- only ASCII letters have another case
    have same : d.toLower = d := dif_neg fun upper => beyond (Nat.lt_of_le_of_lt upper.2 (by decide))
    rw [same] at digit
    exact beyond (digit ▸ ascii k small)
  exact forall_of_ofNat (P := fun d => ∀ k < 16, d.toLower = k.digitChar → hexValue? d = some k)
    (by decide +kernel) below k small digit

theorem natOfHex?_append {digits : List Char} {n : Nat} (read : natOfHex? digits = some n) (d : Char) :
    natOfHex? (digits ++ [d]) = (hexValue? d).map (16 * n + ·) := by
  rw [natOfHex?] at read ⊢
  simp [List.foldlM_append, read]

theorem natOfHex?_toDigits (n : Nat) {digits : List Char} (shown : digits.map Char.toLower = Nat.toDigits 16 n) :
    natOfHex? digits = some n := by
  induction n using Nat.strongRecOn generalizing digits with
  | ind n ih =>
    by_cases small : n < 16
    · rw [Nat.toDigits_of_lt_base small] at shown
      obtain ⟨d, rfl, digit⟩ := List.map_eq_singleton_iff.mp shown
      simp [natOfHex?, hexValue?_of_toLower small digit]
    · rw [Nat.toDigits_of_base_le (by decide) (by omega)] at shown
      obtain ⟨front, last, rfl, shown', lastShown⟩ := List.map_eq_append_iff.mp shown
      obtain ⟨d, rfl, digit⟩ := List.map_eq_singleton_iff.mp lastShown
      rw [natOfHex?_append (ih (n / 16) (by omega) shown'),
        hexValue?_of_toLower (Nat.mod_lt n (by decide)) digit, Option.map_some, Nat.div_add_mod]

/-- Zeros in front of a number do not count. -/
theorem natOfHex?_zeros (count : Nat) (digits : List Char) :
    natOfHex? (List.replicate count '0' ++ digits) = natOfHex? digits := by
  induction count with
  | zero => rfl
  | succ count ih => exact ih

theorem natOfDigits_zeros (count : Nat) (digits : List Char) :
    natOfDigits (List.replicate count '0' ++ digits) = natOfDigits digits := by
  induction count with
  | zero => rfl
  | succ count ih => exact ih

theorem hexValue?_isSome {digits : List Char} {n : Nat} (read : natOfHex? digits = some n) :
    ∀ d ∈ digits, (hexValue? d).isSome = true := by
  unfold natOfHex? at read
  generalize (0 : Nat) = start at read
  induction digits generalizing start with
  | nil => exact fun _ member => absurd member (by simp)
  | cons d rest ih =>
    rw [List.foldlM_cons] at read
    obtain ⟨next, counted, onward⟩ := Option.bind_eq_some_iff.mp read
    obtain ⟨value, valued, -⟩ := Option.map_eq_some_iff.mp counted
    exact List.forall_mem_cons.mpr ⟨by rw [valued]; rfl, ih next onward⟩

end RequestBook.Text

namespace RequestBook.Markup

/-- The numeric references of a character, without the ampersand and the semicolon. -/
inductive NumericReference (c : Char) : List Char → Prop where
  | decimal (zeros : Nat) : NumericReference c ('#' :: (List.replicate zeros '0' ++ Text.natText c.toNat))
  | hexadecimal (zeros : Nat) {digits : List Char} : digits.map Char.toLower = Nat.toDigits 16 c.toNat →
      NumericReference c ('#' :: 'x' :: (List.replicate zeros '0' ++ digits))

def predefined? : Char → Option (List Char)
  | '&' => some "amp".toList
  | '<' => some "lt".toList
  | '>' => some "gt".toList
  | '"' => some "quot".toList
  | '\'' => some "apos".toList
  | _ => none

variable {c : Char} {name after : List Char}

def IsReferenceName (name : List Char) : Prop := ∀ d ∈ name, d ≠ ';' ∧ d ≠ '&' ∧ d ≠ '<'

theorem readReference_name (plain : IsReferenceName name) :
    readReference (name ++ ';' :: after) = some (name, after) := by
  have inner : ∀ d ∈ name, (d != ';' && d != '&' && d != '<') = true := by
    intro d member
    simpa [and_assoc] using plain d member
  rw [readReference]
  simp only [List.dropWhile_append_of_pos inner, List.takeWhile_append_of_pos inner]
  simp

theorem resolveReference?_predefined (named : predefined? c = some name) :
    resolveReference? name = some c ∧ IsReferenceName name := by
  unfold predefined? at named
  split at named <;> cases named
  all_goals exact ⟨by decide, by simp [IsReferenceName]⟩

theorem scalar_eq (filled : c.toNat ≠ 0) :
    (if c.toNat ≠ 0 ∧ (c.toNat < 0xD800 ∨ (0xDFFF < c.toNat ∧ c.toNat < 0x110000)) then
      some (Char.ofNat c.toNat) else none) = some c := by
  rw [if_pos ⟨filled, c.valid⟩, Char.ofNat_toNat]

theorem numericReference?_decimal {digits : List Char} (filled : digits ≠ [])
    (all : ∀ d ∈ digits, Text.isAsciiDigit d = true) (shown : Text.natOfDigits digits = c.toNat)
    (notNull : c.toNat ≠ 0) : numericReference? digits = some c := by
  have readable : (digits.isEmpty || !digits.all Text.isAsciiDigit) = false := by simpa [filled] using all
  unfold numericReference?
  split
  next => exact absurd (all 'x' List.mem_cons_self) (by decide)
  next =>
    simp only [readable, Bool.false_eq_true, if_false, Option.bind_some, shown]
    exact scalar_eq notNull

theorem numericReference?_hexadecimal {digits : List Char} (filled : digits ≠ [])
    (shown : Text.natOfHex? digits = some c.toNat) (notNull : c.toNat ≠ 0) :
    numericReference? ('x' :: digits) = some c := by
  have readable : digits.isEmpty = false := by simpa using filled
  simp only [numericReference?, readable, Bool.false_eq_true, if_false, shown, Option.bind_some]
  exact scalar_eq notNull

theorem resolveReference?_numeric (reference : NumericReference c name) (notNull : c.toNat ≠ 0) :
    resolveReference? name = some c ∧ IsReferenceName name := by
  cases reference with
  | decimal zeros =>
    have all : ∀ d ∈ List.replicate zeros '0' ++ Text.natText c.toNat, Text.isAsciiDigit d = true := by
      intro d member
      obtain zero | digit := List.mem_append.mp member
      · rw [List.eq_of_mem_replicate zero]
        rfl
      · exact Text.isAsciiDigit_of_mem_natText digit
    have shown := (Text.natOfDigits_zeros zeros (Text.natText c.toNat)).trans (Text.natOfDigits_natText c.toNat)
    have filled : List.replicate zeros '0' ++ Text.natText c.toNat ≠ [] := by
      obtain ⟨d, digits, digit, -⟩ := Text.natText_eq_cons c.toNat
      simp [digit]
    refine ⟨numericReference?_decimal filled all shown notNull, List.forall_mem_cons.mpr ⟨by decide, ?_⟩⟩
    intro d member
    have digit := all d member
    refine ⟨?_, ?_, ?_⟩ <;> rintro rfl <;> cases digit
  | @hexadecimal zeros digits lower =>
    have shown := (Text.natOfHex?_zeros zeros digits).trans (Text.natOfHex?_toDigits c.toNat lower)
    have filled : List.replicate zeros '0' ++ digits ≠ [] := by
      intro none
      obtain rfl := (List.append_eq_nil_iff.mp none).2
      exact Nat.toDigits_ne_nil lower.symm
    refine ⟨numericReference?_hexadecimal filled shown notNull,
      List.forall_mem_cons.mpr ⟨by decide, List.forall_mem_cons.mpr ⟨by decide, ?_⟩⟩⟩
    intro d member
    have digit := Text.hexValue?_isSome shown d member
    refine ⟨?_, ?_, ?_⟩ <;> rintro rfl <;> cases digit

end RequestBook.Markup

import Mathlib.Data.List.TakeWhile
import RequestBook.Exchange.Store

/-! Names without regard to case. Requests and references compare names by their ASCII letters,
captured exchanges are kept under the full lower case. The names that can be written hold ASCII only,
and on these the two are the same. -/
namespace RequestBook

def Text.Ascii (text : List Char) : Prop := ∀ c ∈ text, Text.isAscii c = true

namespace Text

theorem lowerAfter_of_ascii {text : List Char} (ascii : Ascii text) (before : List Char) :
    lowerAfter before text = lowerAscii text := by
  induction text generalizing before with
  | nil => rfl
  | cons c rest ih =>
    have plain : isAscii c = true := ascii c List.mem_cons_self
    have notSigma : c ≠ 'Σ' := by
      rintro rfl
      cases plain
    have others : Ascii rest := fun other member => ascii other (List.mem_cons_of_mem _ member)
    rw [lowerAfter, ih others, lowerChar, if_pos plain]
    · rfl
    · exact notSigma

theorem isAscii_of_le {c last : Char} (below : c ≤ last) (ascii : isAscii last = true) :
    isAscii c = true := by
  have ordered : c.toNat ≤ last.toNat := below
  simp only [isAscii, decide_eq_true_eq] at ascii ⊢
  omega

/-- What holds of the first characters one by one holds of each of them. -/
theorem forall_of_ofNat {P : Char → Prop} {bound : Nat} (each : ∀ n < bound, P (Char.ofNat n)) {c : Char}
    (below : c.toNat < bound) : P c := by
  have own := each c.toNat below
  rwa [Char.ofNat_toNat] at own

theorem isAscii_of_isAsciiLetter {c : Char} (letter : isAsciiLetter c = true) : isAscii c = true := by
  simp only [isAsciiLetter, Bool.or_eq_true, Bool.and_eq_true, decide_eq_true_eq] at letter
  rcases letter with ⟨_, below⟩ | ⟨_, below⟩
  · exact isAscii_of_le below rfl
  · exact isAscii_of_le below rfl

theorem isAscii_of_continuesIdentifier {c : Char}
    (continues : continuesIdentifier requestMarks c = true) : isAscii c = true := by
  simp only [continuesIdentifier, requestMarks, Bool.or_eq_true, List.contains_cons,
    List.contains_nil, Bool.or_false, beq_iff_eq] at continues
  rcases continues with ((letter | digit) | rfl) | rfl
  · exact isAscii_of_isAsciiLetter letter
  · simp only [isAsciiDigit, Bool.and_eq_true, decide_eq_true_eq] at digit
    exact isAscii_of_le digit.2 rfl
  · rfl
  · rfl

/-- Names of requests that can be written hold ASCII only. -/
theorem ascii_of_readIdentifier {text name rest : List Char}
    (read : readIdentifier requestMarks text = some (name, rest)) : Ascii name := by
  cases text with
  | nil => cases read
  | cons c more =>
    rw [readIdentifier] at read
    split at read
    next starts =>
      cases read
      intro other member
      rcases List.mem_cons.mp member with rfl | member
      · simp only [startsIdentifier, Bool.or_eq_true, beq_iff_eq] at starts
        rcases starts with letter | rfl
        · exact isAscii_of_isAsciiLetter letter
        · rfl
      · exact isAscii_of_continuesIdentifier (List.mem_takeWhile_imp member)
    next => cases read

end Text

theorem sameName_iff {a b : String} : sameName a b = true ↔ foldName a = foldName b := by
  simp [sameName]

theorem storeKey_eq_foldName {name : String} (ascii : Text.Ascii name.toList) :
    storeKey name = foldName name := by
  rw [storeKey, Text.lower, Text.lowerAfter_of_ascii ascii, foldName]

theorem Reference.ascii_name {inner : List Char} {r : Reference} (found : ofInner? inner = some r) :
    Text.Ascii r.name.toList := by
  simp only [ofInner?, Option.bind_eq_bind, Option.bind_eq_some_iff] at found
  obtain ⟨⟨name, rest⟩, read, _, _, ⟨side, _⟩, _, ⟨part, raw⟩, _, eq⟩ := found
  split at eq
  · cases eq
  · cases eq
    rw [String.toList_ofList]
    exact Text.ascii_of_readIdentifier read

/-- An exchange is found under every spelling of an ASCII name. -/
theorem Store.get?_congr {a b : String} (same : sameName a b = true) (left : Text.Ascii a.toList)
    (right : Text.Ascii b.toList) (store : Store) : store.get? a = store.get? b := by
  have keys : storeKey a = storeKey b := by
    rw [storeKey_eq_foldName left, storeKey_eq_foldName right, sameName_iff.mp same]
  rw [Roster.get?, Roster.get?, Roster.find?, Roster.find?, keys]

/-- Stores that hold the same exchange under some spelling of its name give the same for a reference. -/
theorem Store.lookup?_congr {first second : Store} {name : String} {r : Reference}
    (same : sameName name r.name = true) (left : Text.Ascii name.toList) (right : Text.Ascii r.name.toList)
    (agree : first.get? name = second.get? name) : first.lookup? r = second.lookup? r := by
  rw [lookup?, lookup?, ← get?_congr same left right first, agree, get?_congr same left right second]

end RequestBook

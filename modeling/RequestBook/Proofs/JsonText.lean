import Mathlib.Data.List.TakeWhile
import Mathlib.Tactic.IntervalCases
import RequestBook.Json.Printer
import RequestBook.Json.Reader
import RequestBook.Proofs.CaseFolding

/-! Reading JSON that was written. A string comes back character by character, a whole number digit by
digit, and every lexeme takes the open arrays and objects to where the next one is expected. So a value
comes back if its numbers are whole and fit in 64 bits and if it is not nested too deeply. -/
namespace RequestBook

open Text

namespace Json

def Plain (c : Char) : Prop := c ≠ '"' ∧ c ≠ '\\' ∧ 0x20 ≤ c.toNat

/-- A plain character is written as it is, any other one as a backslash and a code that is read as the
character. -/
theorem escape_cases (c : Char) :
    (Plain c ∧ escape c = [c]) ∨
    (¬ Plain c ∧ ∃ code, escape c = '\\' :: code ∧
      ∀ rest, readEscape (code ++ rest) = some (c, rest)) := by
  by_cases quote : c = '"'
  · subst quote
    exact .inr ⟨fun plain => plain.1 rfl, ['"'], rfl, fun rest => rfl⟩
  by_cases backslash : c = '\\'
  · subst backslash
    exact .inr ⟨fun plain => plain.2.1 rfl, ['\\'], rfl, fun rest => rfl⟩
  by_cases control : c.toNat < 0x20
  · have each : ∀ n < 0x20, ∃ code, escape (Char.ofNat n) = '\\' :: code ∧
        ∀ rest, readEscape (code ++ rest) = some (Char.ofNat n, rest) := by
      intro n below
      interval_cases n <;> exact ⟨_, rfl, fun rest => rfl⟩
    refine .inr ⟨fun plain => Nat.not_le.mpr control plain.2.2, ?_⟩
    exact forall_of_ofNat (P := fun c => ∃ code, escape c = '\\' :: code ∧
      ∀ rest, readEscape (code ++ rest) = some (c, rest)) each control
  · refine .inl ⟨⟨quote, backslash, by omega⟩, ?_⟩
    have visible : ∀ n < 0x20, c.toNat ≠ n := fun n below => by omega
    simp [escape, quote, backslash, visible, control]

theorem escape_eq_self_iff {c : Char} : escape c = [c] ↔ Plain c := by
  rcases escape_cases c with ⟨plain, same⟩ | ⟨marked, code, same, reads⟩
  · exact iff_of_true same plain
  · refine iff_of_false (fun alone => ?_) marked
    rw [same] at alone
    obtain rfl : code = [] := (List.cons.inj alone).2
    cases reads []

theorem readString_escape (c : Char) (rest : List Char) :
    readString (escape c ++ rest) = keeping c (readString rest) := by
  rcases escape_cases c with ⟨⟨quote, backslash, visible⟩, same⟩ | ⟨_, code, same, reads⟩
  · rw [same, List.singleton_append, readString]
    · rw [if_neg (by omega)]
    · exact quote
    · exact backslash
  · rw [same, List.cons_append, readString]
    split
    next refused =>
      rw [reads] at refused
      cases refused
    next found =>
      rw [reads] at found
      cases found
      rfl

/-- A written string is read back, whatever stands behind its closing quote. -/
theorem readString_flatMap (text rest : List Char) :
    readString (text.flatMap escape ++ '"' :: rest) = some (text, rest) := by
  induction text with
  | nil => rw [List.flatMap_nil, List.nil_append, readString]
  | cons c text ih =>
    rw [List.flatMap_cons, List.append_assoc, readString_escape, ih]
    rfl

end Json

namespace Text

theorem natOfDigits_natText (n : Nat) : natOfDigits (natText n) = n :=
  Nat.ofDigitChars_toDigits (by decide) (by decide)

theorem isAsciiDigit_of_mem_natText {n : Nat} {c : Char} (member : c ∈ natText n) :
    isAsciiDigit c = true :=
  Nat.isDigit_of_mem_toDigits (b := 10) (by decide) (by decide) member

/-- A number begins with a digit, and only zero with a zero. -/
theorem natText_eq_cons (n : Nat) :
    ∃ c digits, natText n = c :: digits ∧ isAsciiDigit c = true ∧ (c = '0' → n = 0) := by
  induction n using Nat.strongRecOn with
  | ind n ih =>
    by_cases small : n < 10
    · refine ⟨n.digitChar, [], Nat.toDigits_of_lt_base small, ?_⟩
      interval_cases n <;> decide
    · obtain ⟨c, digits, shown, digit, zero⟩ := ih (n / 10) (by omega)
      refine ⟨c, digits ++ [(n % 10).digitChar], ?_, digit, fun first => ?_⟩
      · rw [natText, Nat.toDigits_of_base_le (by decide) (by omega), ← natText, shown]
        rfl
      · have := zero first
        omega

end Text

namespace Json

/-- What may stand behind a value: nothing, a comma, or the end of an array or an object. -/
def Delimits (rest : List Char) : Prop := ∀ c ∈ rest.head?, c = ',' ∨ c = ']' ∨ c = '}'

theorem delimits_nil : Delimits [] := by simp [Delimits]

theorem delimits_cons {c : Char} (mark : c = ',' ∨ c = ']' ∨ c = '}') (rest : List Char) :
    Delimits (c :: rest) := by
  simpa [Delimits] using mark

theorem digitRun_natText (n : Nat) {rest : List Char} (ends : Delimits rest) :
    digitRun (natText n ++ rest) = (natText n, rest) := by
  have digits : ∀ c ∈ natText n, isAsciiDigit c = true := fun c => isAsciiDigit_of_mem_natText
  rw [digitRun, List.takeWhile_append_of_pos digits, List.dropWhile_append_of_pos digits]
  cases rest with
  | nil => simp
  | cons c more => rcases ends c rfl with rfl | rfl | rfl <;> simp [isAsciiDigit]

theorem wholePart?_natText (n : Nat) {rest : List Char} (ends : Delimits rest) :
    wholePart? (natText n ++ rest) = some (natText n, rest) := by
  obtain ⟨c, digits, shown, digit, zero⟩ := natText_eq_cons n
  by_cases leading : c = '0'
  · rw [zero leading]
    rfl
  · unfold wholePart?
    split
    next more same =>
      rw [shown] at same
      exact absurd (List.cons.inj same).1 leading
    next =>
      simp only [digitRun_natText n ends]
      rw [shown]
      rfl

theorem fraction?_of_delimits {rest : List Char} (ends : Delimits rest) :
    fraction? rest = some ([], rest) := by
  cases rest with
  | nil => rfl
  | cons c more => rcases ends c rfl with rfl | rfl | rfl <;> rfl

theorem power?_of_delimits {rest : List Char} (ends : Delimits rest) : power? rest = some (none, rest) := by
  cases rest with
  | nil => rfl
  | cons c more => rcases ends c rfl with rfl | rfl | rfl <;> simp [power?]

theorem readUnsigned_natText (negative : Bool) (n : Nat) {rest : List Char} (ends : Delimits rest) :
    readUnsigned negative (natText n ++ rest) =
      (numberOf? negative (natText n) [] none).map fun number => (number, rest) := by
  simp only [readUnsigned, Option.bind_eq_bind, wholePart?_natText n ends, Option.bind_some,
    fraction?_of_delimits ends, power?_of_delimits ends]
  cases numberOf? negative (natText n) [] none <;> rfl

/-- A whole number of 64 bits, with or without a sign, is read back. -/
theorem readNumber_intText {n : Int} (low : -signedLimit ≤ n) (high : n < unsignedLimit)
    {rest : List Char} (ends : Delimits rest) :
    readNumber (intText n ++ rest) = some (.integer n, rest) := by
  cases n with
  | ofNat n =>
    have below : n < unsignedLimit := Int.ofNat_lt.mp high
    obtain ⟨c, digits, shown, digit, -⟩ := natText_eq_cons n
    have unsigned : ∀ more, natText n ++ rest ≠ '-' :: more := by
      intro more same
      rw [shown] at same
      rw [(List.cons.inj same).1] at digit
      cases digit
    rw [intText, readNumber, readUnsigned_natText false n ends]
    · simp [numberOf?, natOfDigits_natText, below]
    · exact unsigned
  | negSucc n =>
    have above : n + 1 ≤ signedLimit := by omega
    rw [intText, List.cons_append, readNumber, readUnsigned_natText true (n + 1) ends]
    simp [numberOf?, natOfDigits_natText, above, Int.negSucc_eq]

def startsNumber (c : Char) : Bool := isAsciiDigit c || c == '-'

theorem readToken_number {c : Char} (starts : startsNumber c = true) (text : List Char) :
    readToken (c :: text) = (readNumber (c :: text)).map fun (n, rest) => (.scalar (.number n), rest) := by
  unfold readToken
  split
  case h_11 => rfl
  all_goals
    next shown =>
      rw [(List.cons.inj shown).1] at starts
      cases starts

theorem isSpace_of_startsNumber {c : Char} (starts : startsNumber c = true) : isSpace c = false := by
  rw [Bool.eq_false_iff]
  intro space
  simp only [isSpace, Bool.or_eq_true, beq_iff_eq] at space
  rcases space with ((rfl | rfl) | rfl) | rfl <;> cases starts

theorem intText_eq_cons (n : Int) : ∃ c digits, intText n = c :: digits ∧ startsNumber c = true := by
  cases n with
  | ofNat n =>
    obtain ⟨c, digits, shown, digit, -⟩ := natText_eq_cons n
    exact ⟨c, digits, shown, by simp [startsNumber, digit]⟩
  | negSucc n => exact ⟨'-', _, rfl, rfl⟩

/-- Values that are read back: their whole numbers fit in 64 bits, and at most so many arrays and
objects are open at once. -/
inductive Readable : Nat → Json → Prop where
  | null {depth : Nat} : Readable depth .null
  | bool {depth : Nat} (b : Bool) : Readable depth (.bool b)
  | integer {depth : Nat} {n : Int} (low : -signedLimit ≤ n) (high : n < unsignedLimit) :
      Readable depth (.number (.integer n))
  | string {depth : Nat} (s : String) : Readable depth (.string s)
  | array {depth : Nat} {items : List Json} (each : ∀ item ∈ items, Readable depth item) :
      Readable (depth + 1) (.array items)
  | object {depth : Nat} {fields : List (String × Json)} (each : ∀ field ∈ fields, Readable depth field.2) :
      Readable (depth + 1) (.object fields)

namespace Progress

def read (p : Progress) (text : List Char) : Option Json := (tokens text).bind p.run

variable (p : Progress) (rest : List Char)

/-- One lexeme is fed, and the rest is read from there. -/
theorem read_of_readToken {c : Char} {text : List Char} {token : Token} (solid : isSpace c = false)
    (found : readToken (c :: text) = some (token, rest)) :
    p.read (c :: text) = (p.feed token).bind fun q => q.read rest := by
  have lexed : tokens (c :: text) = (tokens rest).map (token :: ·) := by
    rw [tokens, if_neg (by simp [solid])]
    split
    next refused =>
      rw [found] at refused
      cases refused
    next other =>
      rw [found] at other
      cases other
      rfl
  rw [read, lexed, Option.bind_map]
  cases fed : p.feed token with
  | none =>
    have stuck : p.run ∘ (token :: ·) = fun _ => none := by
      funext later
      simp [run, fed]
    rw [stuck, Option.bind_fun_none]
    rfl
  | some q =>
    have moved : p.run ∘ (token :: ·) = q.run := by
      funext later
      simp [run, fed]
    rw [moved]
    rfl

theorem feed_scalar {p : Progress} (accepts : p.acceptsValue = true) (value : Json) :
    p.feed (.scalar value) = p.give value := by
  simp [feed, accepts]

theorem read_quoted (s : String) :
    p.read (quoted s.toList ++ rest) =
      (p.feed (.scalar (.string s))).bind fun q => q.read rest := by
  have found : readToken (quoted s.toList ++ rest) = some (.scalar (.string s), rest) := by
    have shown : quoted s.toList ++ rest = '"' :: (s.toList.flatMap escape ++ '"' :: rest) := by
      simp [quoted]
    rw [shown, readToken, readString_flatMap]
    simp
  exact read_of_readToken p rest rfl found

theorem read_integer {n : Int} (low : -signedLimit ≤ n) (high : n < unsignedLimit)
    (ends : Delimits rest) :
    p.read (intText n ++ rest) =
      (p.feed (.scalar (.number (.integer n)))).bind fun q => q.read rest := by
  obtain ⟨c, digits, shown, starts⟩ := intText_eq_cons n
  have found := readNumber_intText low high ends
  rw [shown, List.cons_append] at found ⊢
  refine read_of_readToken p rest (isSpace_of_startsNumber starts) ?_
  rw [readToken_number starts, found]
  rfl

end Progress

/-- A value that is read back wherever a value may stand and so many containers may still be
opened. -/
def ReadsBack (depth : Nat) (value : Json) : Prop :=
  ∀ (p : Progress) (rest : List Char), p.acceptsValue = true → p.frames.length + depth ≤ maxOpen →
    Delimits rest → p.read (write value ++ rest) = (p.give value).bind fun q => q.read rest

section Containers

open Progress

variable {depth : Nat} {frames : List Frame} (room : frames.length + 1 + depth ≤ maxOpen)
  (rest : List Char)

include room

/-- The items of an array and its end. -/
theorem read_items {items : List Json} (each : ∀ item ∈ items, ReadsBack depth item) (done : List Json)
    {expect : Expect} (accepts : expect = .firstItem ∨ expect = .value ∧ items ≠ []) :
    read ⟨.array done :: frames, expect, none⟩ (writeItems items ++ ']' :: rest) =
      (give ⟨frames, .value, none⟩ (.array (done.reverse ++ items))).bind fun q => q.read rest := by
  induction items generalizing done expect with
  | nil =>
    obtain rfl : expect = .firstItem := by simpa using accepts
    refine (read_of_readToken ⟨.array done :: frames, .firstItem, none⟩ rest (c := ']') rfl rfl).trans ?_
    simp [feed]
  | cons item more ih =>
    obtain ⟨first, others⟩ := List.forall_mem_cons.mp each
    have accepted : acceptsValue ⟨.array done :: frames, expect, none⟩ = true := by
      rcases accepts with rfl | ⟨rfl, _⟩ <;> rfl
    cases more with
    | nil =>
      rw [writeItems, first _ _ accepted (by simpa using room) (delimits_cons (by simp) rest)]
      have closed := read_of_readToken ⟨.array (item :: done) :: frames, .next, none⟩ rest
        (c := ']') rfl rfl
      refine closed.trans ?_
      simp [feed]
    | cons next more =>
      have tail := ih others (item :: done) (.inr ⟨rfl, List.cons_ne_nil next more⟩)
      rw [writeItems, List.append_assoc, List.cons_append,
        first _ _ accepted (by simpa using room) (delimits_cons (by simp) _)]
      · have comma := read_of_readToken ⟨.array (item :: done) :: frames, .next, none⟩
          (writeItems (next :: more) ++ ']' :: rest) (c := ',') rfl rfl
        refine comma.trans (tail.trans ?_)
        simp
      · simp

/-- The fields of an object and its end. -/
theorem read_fields {fields : List (String × Json)} (each : ∀ field ∈ fields, ReadsBack depth field.2)
    (done : List (String × Json)) {expect : Expect}
    (accepts : expect = .firstName ∨ expect = .name ∧ fields ≠ []) :
    read ⟨.object done none :: frames, expect, none⟩ (writeFields fields ++ '}' :: rest) =
      (give ⟨frames, .value, none⟩ (.object (done.reverse ++ fields))).bind fun q => q.read rest := by
  induction fields generalizing done expect with
  | nil =>
    obtain rfl : expect = .firstName := by simpa using accepts
    refine (read_of_readToken ⟨.object done none :: frames, .firstName, none⟩ rest (c := '}') rfl
      rfl).trans ?_
    simp [feed]
  | cons field more ih =>
    obtain ⟨name, value⟩ := field
    obtain ⟨first, others⟩ := List.forall_mem_cons.mp each
    -- the name and the colon lead to where the value is expected
    have named : ∀ text, read ⟨.object done none :: frames, expect, none⟩
        (quoted name.toList ++ ':' :: text) =
          read ⟨.object done (some name) :: frames, .value, none⟩ text := by
      intro text
      have fed : feed ⟨.object done none :: frames, expect, none⟩ (.scalar (.string name)) =
          some ⟨.object done (some name) :: frames, .colon, none⟩ := by
        rcases accepts with rfl | ⟨rfl, _⟩ <;> rfl
      rw [read_quoted, fed]
      exact read_of_readToken ⟨.object done (some name) :: frames, .colon, none⟩ text (c := ':') rfl rfl
    cases more with
    | nil =>
      rw [writeFields, List.append_assoc, List.cons_append, named,
        first _ _ rfl (by simpa using room) (delimits_cons (by simp) rest)]
      have closed := read_of_readToken ⟨.object ((name, value) :: done) none :: frames, .next, none⟩
        rest (c := '}') rfl rfl
      refine closed.trans ?_
      simp [feed]
    | cons next more =>
      have tail := ih others ((name, value) :: done) (.inr ⟨rfl, List.cons_ne_nil next more⟩)
      rw [writeFields, List.append_assoc, List.append_assoc, List.cons_append, List.cons_append, named,
        first _ _ rfl (by simpa using room) (delimits_cons (by simp) _)]
      · have comma := read_of_readToken ⟨.object ((name, value) :: done) none :: frames, .next, none⟩
          (writeFields (next :: more) ++ '}' :: rest) (c := ',') rfl rfl
        refine comma.trans (tail.trans ?_)
        simp
      · simp

end Containers

/-- A readable value is read back wherever it stands. The induction is on how it is built, so items and
fields are known to be read back one level further in. -/
theorem Readable.readsBack {depth : Nat} {value : Json} (readable : Readable depth value) :
    ReadsBack depth value := by
  induction readable with
  | null =>
    intro p rest accepts _ _
    rw [← Progress.feed_scalar accepts]
    exact p.read_of_readToken rest (c := 'n') rfl rfl
  | bool b =>
    intro p rest accepts _ _
    rw [← Progress.feed_scalar accepts]
    cases b with
    | true => exact p.read_of_readToken rest (c := 't') rfl rfl
    | false => exact p.read_of_readToken rest (c := 'f') rfl rfl
  | integer low high =>
    intro p rest accepts _ ends
    rw [← Progress.feed_scalar accepts]
    exact p.read_integer rest low high ends
  | string s =>
    intro p rest accepts _ _
    rw [← Progress.feed_scalar accepts]
    exact p.read_quoted rest s
  | @array depth items _ each =>
    intro p rest accepts room _
    have fed : p.feed .openArray = some ⟨.array [] :: p.frames, .firstItem, none⟩ := by
      simp only [Progress.feed, accepts, if_true, Progress.enter]
      rw [if_pos (by omega)]
    have shown : write (.array items) ++ rest = '[' :: (writeItems items ++ ']' :: rest) := by
      simp [write]
    rw [shown, p.read_of_readToken (writeItems items ++ ']' :: rest) rfl rfl, fed]
    exact read_items (by omega) rest each [] (.inl rfl)
  | @object depth fields _ each =>
    intro p rest accepts room _
    have fed : p.feed .openObject = some ⟨.object [] none :: p.frames, .firstName, none⟩ := by
      simp only [Progress.feed, accepts, if_true, Progress.enter]
      rw [if_pos (by omega)]
    have shown : write (.object fields) ++ rest = '{' :: (writeFields fields ++ '}' :: rest) := by
      simp [write]
    rw [shown, p.read_of_readToken (writeFields fields ++ '}' :: rest) rfl rfl, fed]
    exact read_fields (by omega) rest each [] (.inl rfl)

/-- What was written is read back. -/
theorem parse?_write {depth : Nat} {value : Json} (readable : Readable depth value)
    (shallow : depth ≤ maxOpen) : parse? (write value) = some value := by
  have whole := readable.readsBack .start [] rfl (by simpa [Progress.start] using shallow) delimits_nil
  rw [List.append_nil] at whole
  refine Eq.trans ?_ (whole.trans ?_)
  · rfl
  · simp [Progress.give, Progress.start, Progress.read, tokens, Progress.run]

end Json

end RequestBook

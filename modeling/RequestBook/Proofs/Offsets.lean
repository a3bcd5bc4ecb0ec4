import RequestBook.Placeholder.Generator
import RequestBook.Proofs.Arguments
import RequestBook.Proofs.JsonPath
import RequestBook.Proofs.Months

/-! Offsets from the present. An offset leads to an instant so many nanoseconds or so many months away, and a
time or a date with an offset is generated exactly when that instant can be represented: the limits on how
far can be counted lie beyond the representable years for every unit. So an offset may be written in any unit
that measures the same span. -/
namespace RequestBook

namespace Calendar

def Instant.stamp (i : Instant) : Int := i.seconds * 1000000000 + i.nanos

/-- The second instant is away from the first by the offset: by nanoseconds if the unit has one length
everywhere in the calendar, otherwise by months. -/
def Offset.Leads (o : Offset) (i j : Instant) : Prop :=
  match o.unit.millis? with
  | some millis => j.nanos < 1000000000 ∧ j.stamp = i.stamp + o.amount * millis * 1000000
  | none => MonthsApart o.months i j

/-- Two offsets of one span, the second in a smaller unit. -/
inductive Rescaled : Offset → Offset → Prop where
  | week (n : Int) : Rescaled ⟨n, .week⟩ ⟨7 * n, .day⟩
  | day (n : Int) : Rescaled ⟨n, .day⟩ ⟨24 * n, .hour⟩
  | hour (n : Int) : Rescaled ⟨n, .hour⟩ ⟨60 * n, .minute⟩
  | minute (n : Int) : Rescaled ⟨n, .minute⟩ ⟨60 * n, .second⟩
  | second (n : Int) : Rescaled ⟨n, .second⟩ ⟨1000 * n, .millisecond⟩
  | year (n : Int) : Rescaled ⟨n, .year⟩ ⟨12 * n, .month⟩

section Spans

variable {o o' : Offset} {i j : Instant} {millis : Int}

theorem Instant.eq_addMillis_iff : j = i.addMillis millis ↔
    j.nanos < 1000000000 ∧ j.stamp = i.stamp + millis * 1000000 := by
  simp only [stamp, addMillis]
  constructor
  · rintro rfl
    dsimp only
    omega
  · rintro ⟨fraction', apart⟩
    cases j
    simp only [Instant.mk.injEq] at *
    omega

theorem Offset.leads_iff : o.Leads i j ↔ j = o.apply i := by
  unfold Leads apply
  cases o.unit.millis? with
  | none => exact Instant.eq_addMonths_iff.symm
  | some millis => exact Instant.eq_addMillis_iff.symm

/-- Between instants that can be represented there are fewer than `2 ^ 63` milliseconds. -/
theorem natAbs_millis_lt (present : i.representable = true) (reached : j.representable = true)
    (fraction : i.nanos < 1000000000) (fraction' : j.nanos < 1000000000)
    (apart : j.stamp = i.stamp + millis * 1000000) : millis.natAbs < 0x8000000000000000 := by
  simp only [Instant.representable, Bool.and_eq_true, decide_eq_true_eq] at present reached
  simp only [Instant.dayNumber, firstYear, lastYear, epochDay, yearStart] at present reached
  simp only [Instant.stamp] at apart
  omega

theorem Offset.Leads.countable (leads : o.Leads i j) (present : i.representable = true)
    (reached : j.representable = true) (fraction : i.nanos < 1000000000) : o.countable = true := by
  unfold Leads at leads
  cases fixed : o.unit.millis? with
  | none =>
    rw [fixed] at leads
    exact Instant.countable_of_monthsApart fixed present reached leads
  | some millis =>
    rw [fixed] at leads
    rw [Offset.countable, fixed, decide_eq_true_eq]
    exact natAbs_millis_lt present reached fraction leads.1 leads.2

/-- An offset from the present leads to an instant exactly when the instant can be represented. -/
theorem Offset.Leads.shift?_eq (leads : o.Leads i j) (present : i.representable = true)
    (fraction : i.nanos < 1000000000) : i.shift? o = if j.representable then some j else none := by
  rw [Instant.shift?, ← leads_iff.mp leads]
  cases reached : j.representable with
  | false => simp
  | true => simp [leads.countable present reached fraction]

theorem Rescaled.leads_iff (rescaled : Rescaled o o') : o.Leads i j ↔ o'.Leads i j := by
  cases rescaled with
  | year n => rfl
  | _ n =>
    simp only [Offset.Leads, TimeUnit.millis?]
    omega

end Spans

open Text

def TimeUnit.letters : TimeUnit → List Char
  | .millisecond => ['m', 's']
  | .second => ['s']
  | .minute => ['m']
  | .hour => ['h']
  | .day => ['d']
  | .week => ['w']
  | .month => ['M']
  | .year => ['y']

/-- How a whole number is written: digits behind an optional sign. -/
inductive SpellsInt : Int → List Char → Prop where
  | plain {digits : List Char} : digits ≠ [] → (∀ c ∈ digits, isAsciiDigit c = true) →
      SpellsInt (natOfDigits digits) digits
  | plus {digits : List Char} : digits ≠ [] → (∀ c ∈ digits, isAsciiDigit c = true) →
      SpellsInt (natOfDigits digits) ('+' :: digits)
  | minus {digits : List Char} : digits ≠ [] → (∀ c ∈ digits, isAsciiDigit c = true) →
      SpellsInt (-natOfDigits digits) ('-' :: digits)

theorem SpellsInt.ne_nil {n : Int} {amount : List Char} (spells : SpellsInt n amount) : amount ≠ [] := by
  cases spells with
  | plain filled => exact filled
  | plus => exact List.cons_ne_nil _ _
  | minus => exact List.cons_ne_nil _ _

theorem SpellsInt.mem {n : Int} {amount : List Char} (spells : SpellsInt n amount) {c : Char}
    (member : c ∈ amount) : isAsciiDigit c = true ∨ c = '+' ∨ c = '-' := by
  cases spells with
  | plain _ digit => exact .inl (digit c member)
  | plus _ digit =>
    rcases List.mem_cons.mp member with sign | among
    · exact .inr (.inl sign)
    · exact .inl (digit c among)
  | minus _ digit =>
    rcases List.mem_cons.mp member with sign | among
    · exact .inr (.inr sign)
    · exact .inl (digit c among)

/-- How an offset is written: a number of 64 bits, blanks or none, and the letters of the unit. -/
inductive Offset.Spells (o : Offset) : List Char → Prop where
  | intro {amount gap : List Char} : SpellsInt o.amount amount → -signedLimit ≤ o.amount →
      o.amount < signedLimit → allBlank gap = true → Spells o (amount ++ (gap ++ o.unit.letters))

end Calendar

namespace Generator

open Calendar Text

section Reading

variable {o : Offset} {n : Int} {amount gap text : List Char}

/-- Digits begin with no sign. -/
theorem ne_sign_of_digits {digits : List Char} (filled : digits ≠ [])
    (digit : ∀ c ∈ digits, isAsciiDigit c = true)
    {sign : Char} (other : isAsciiDigit sign = false) (tail rest : List Char) :
    digits ++ tail ≠ sign :: rest := by
  cases digits with
  | nil => contradiction
  | cons c digits =>
    intro same
    rw [← (List.cons.inj same).1, digit c List.mem_cons_self] at other
    cases other

theorem readInt64?_spelled (spells : SpellsInt n amount) (low : -signedLimit ≤ n) (high : n < signedLimit) :
    readInt64? amount = some n := by
  have read {digits : List Char} (filled : digits ≠ []) (digit : ∀ c ∈ digits, isAsciiDigit c = true) :
      (digits.isEmpty || !digits.all isAsciiDigit) = false := by
    simp [filled, List.all_eq_true.mpr digit]
  cases spells with
  | plus filled digit =>
    have below : natOfDigits _ < signedLimit := Int.ofNat_lt.mp high
    simp [readInt64?, read filled digit, below]
  | minus filled digit =>
    have below : natOfDigits _ ≤ signedLimit := Int.ofNat_le.mp (Int.neg_le_neg_iff.mp low)
    simp [readInt64?, read filled digit, below]
  | plain filled digit =>
    have below : natOfDigits _ < signedLimit := Int.ofNat_lt.mp high
    have unsigned {sign : Char} (other : isAsciiDigit sign = false) (rest : List Char) :
        amount ≠ sign :: rest := by
      simpa using ne_sign_of_digits filled digit other [] rest
    unfold readInt64?
    split
    next parts =>
      split at parts
      next => exact absurd rfl (unsigned rfl _)
      next => exact absurd rfl (unsigned rfl _)
      next =>
        cases parts
        simp [read filled digit, below]

theorem timeUnit?_letters (unit : TimeUnit) : timeUnit? unit.letters = some unit := by
  cases unit <;> rfl

theorem inked_letters (unit : TimeUnit) : Inked unit.letters := by
  cases unit <;> decide

/-- Neither a blank nor a letter of a unit is a digit. -/
theorem ends_digits (blank : allBlank gap = true) (unit : TimeUnit) :
    ∀ c ∈ (gap ++ unit.letters).head?, isAsciiDigit c = false := by
  intro c first
  cases gap with
  | nil => cases unit <;> cases first <;> rfl
  | cons d gap =>
    cases first
    have space := List.all_eq_true.mp blank c List.mem_cons_self
    rw [Bool.eq_false_iff]
    intro digit
    rw [isBlank_of_asciiDigit digit] at space
    cases space

theorem readOffset_spelled (spells : o.Spells text) : readOffset text = some o := by
  obtain ⟨n, unit⟩ := o
  cases spells with
  | @intro amount gap spelled low high blank =>
    dsimp only at spelled low high ⊢
    have number := readInt64?_spelled spelled low high
    have letters : trimStart (gap ++ unit.letters) = unit.letters := by
      rw [trimStart_append blank]
      exact trimStart_of_head (trimmed_of_inked (inked_letters unit)).1
    have span {digits : List Char} (digit : ∀ c ∈ digits, isAsciiDigit c = true) :=
      span_run _ _ _ digit (ends_digits blank unit)
    cases spelled with
    | plus filled digit => simp [readOffset, span digit, letters, number, timeUnit?_letters]
    | minus filled digit => simp [readOffset, span digit, letters, number, timeUnit?_letters]
    | plain filled digit =>
      have unsigned {sign : Char} (other : isAsciiDigit sign = false) (rest : List Char) :
          amount ++ (gap ++ unit.letters) ≠ sign :: rest := ne_sign_of_digits filled digit other _ rest
      unfold readOffset
      split
      next parts =>
        split at parts
        next rest same => exact absurd same (unsigned rfl rest)
        next rest same => exact absurd same (unsigned rfl rest)
        next =>
          cases parts
          simp [span digit, letters, number, timeUnit?_letters]

theorem startsLikeOffset_spelled (spells : SpellsInt n amount) (tail : List Char) :
    startsLikeOffset (amount ++ tail) = true := by
  have read {digits : List Char} (filled : digits ≠ []) (digit : ∀ c ∈ digits, isAsciiDigit c = true) :
      startsLikeOffset (digits ++ tail) = true := by
    cases digits with
    | nil => contradiction
    | cons c digits =>
      have first := digit c List.mem_cons_self
      have plus : c ≠ '+' := by rintro rfl; cases first
      have minus : c ≠ '-' := by rintro rfl; cases first
      simp [startsLikeOffset, plus, minus, first]
  cases spells with
  | plain filled digit => exact read filled digit
  | plus filled digit => simpa [startsLikeOffset] using read filled digit
  | minus filled digit => simpa [startsLikeOffset] using read filled digit

/-- A number and letters behind it are one bare word. -/
theorem spells_word (spells : SpellsInt n amount) {tail : List Char} (inked : Inked tail) :
    Argument.Spells ⟨String.ofList (amount ++ tail), false⟩ (amount ++ tail) := by
  refine .bare (by simp [spells.ne_nil]) (fun c member => ?_) (fun c first => ?_)
  · rcases List.mem_append.mp member with among | behind
    · rcases spells.mem among with digit | rfl | rfl
      · exact isBlank_of_asciiDigit digit
      · rfl
      · rfl
    · exact inked c behind
  · rw [List.head?_append_of_ne_nil _ spells.ne_nil] at first
    rcases spells.mem (List.mem_of_head? first) with digit | rfl | rfl
    · constructor <;> (rintro rfl; cases digit)
    · decide
    · decide

/-- The arguments that an offset can be written in: its amount and its unit in one word, or in two. -/
inductive OffsetWords (o : Offset) : List Argument → Prop where
  | together {amount : List Char} : SpellsInt o.amount amount →
      OffsetWords o [⟨String.ofList (amount ++ o.unit.letters), false⟩]
  | apart {amount : List Char} : SpellsInt o.amount amount →
      OffsetWords o [⟨String.ofList amount, false⟩, ⟨String.ofList o.unit.letters, false⟩]

theorem OffsetWords.offset?_eq {arguments : List Argument} (words : OffsetWords o arguments)
    (low : -signedLimit ≤ o.amount) (high : o.amount < signedLimit) :
    offset? arguments = some (some o) := by
  cases words with
  | @together amount spelled =>
    have joined : readOffset (amount ++ ([] ++ o.unit.letters)) = some o :=
      readOffset_spelled (.intro spelled low high rfl)
    rw [List.nil_append] at joined
    simp [offset?, joinWith, List.intercalate, joined]
  | @apart amount spelled =>
    have joined : readOffset (amount ++ ([' '] ++ o.unit.letters)) = some o :=
      readOffset_spelled (.intro spelled low high rfl)
    rw [List.singleton_append] at joined
    simp [offset?, joinWith, List.intercalate, joined]

/-- An offset begins like one, so no format is read of it. -/
theorem OffsetWords.splitFormat_eq {arguments : List Argument} (words : OffsetWords o arguments) :
    splitFormat arguments = (.iso, arguments) := by
  cases words with
  | @together amount spelled =>
    simp [splitFormat, startsLikeOffset_spelled spelled o.unit.letters]
  | @apart amount spelled =>
    have starts := startsLikeOffset_spelled spelled []
    rw [List.append_nil] at starts
    simp [splitFormat, starts]

theorem readAll_offset (spells : o.Spells text) : OffsetWords o (Argument.readAll text) := by
  cases spells with
  | @intro amount gap spelled low high blank =>
    by_cases joined : gap = []
    · subst joined
      rw [List.nil_append, Argument.readAll_inRow (.single (spells_word spelled (inked_letters o.unit)))]
      exact .together spelled
    · have unit : Argument.Spells ⟨String.ofList o.unit.letters, false⟩ o.unit.letters := by
        refine .bare ?_ (inked_letters o.unit) ?_ <;> cases o.unit <;> simp [TimeUnit.letters]
      have word : Argument.Spells ⟨String.ofList amount, false⟩ amount := by
        simpa using spells_word spelled (show Inked [] by simp [Inked])
      rw [Argument.readAll_inRow (.cons word joined blank (.single unit))]
      exact .apart spelled

theorem offset?_readAll (spells : o.Spells text) : offset? (Argument.readAll text) = some (some o) := by
  have words := readAll_offset spells
  cases spells with
  | intro _ low high _ => exact words.offset?_eq low high

end Reading

/-- What a date begins with ahead of its offset: a format, or nothing. -/
inductive LeadingFormat : List Argument → List Char → Prop where
  | none : LeadingFormat [] []
  | format {a : Argument} {word gap : List Char} : a.Spells word →
      (a.quoted || !startsLikeOffset a.text.toList) = true → gap ≠ [] → allBlank gap = true →
      LeadingFormat [a] (word ++ gap)

/-- A value that is generated with an offset: its name, the formats among its arguments, and the text of all
its arguments. A time has no format. -/
inductive OffsetCall (o : Offset) : String → List Argument → String → Prop where
  | timestamp {arguments : String} : o.Spells (trim arguments.toList) → OffsetCall o "timestamp" [] arguments
  | datetime {formats : List Argument} {front text : List Char} {arguments : String} :
      LeadingFormat formats front → o.Spells text → trim arguments.toList = front ++ text →
      OffsetCall o "datetime" formats arguments

def callText (name : String) (formats : List Argument) (i : Instant) : List Char :=
  if name = "timestamp" then intText i.seconds else (splitFormat formats).1.text none i

section Calls

variable {o : Offset} {name arguments : String} {formats : List Argument}

theorem splitFormat_leading {front text : List Char} (leading : LeadingFormat formats front)
    (spells : o.Spells text) :
    splitFormat (Argument.readAll (front ++ text)) = ((splitFormat formats).1, Argument.readAll text) := by
  cases leading with
  | none => exact (readAll_offset spells).splitFormat_eq
  | @format a word gap spelled isFormat filled blank =>
    rw [List.append_assoc, Argument.readAll_spelled spelled _ (isBlank_of_head? filled blank text),
      Argument.readAll_blanks blank, splitFormat, splitFormat, if_pos isFormat, if_pos isFormat]

/-- A value with an offset is made of the instant that the offset leads to from the present. -/
theorem evaluate?_offsetCall (call : OffsetCall o name formats arguments) (sources : Sources) :
    evaluate? sources name (some arguments) =
      (sources.now.shift? o).map fun i => String.ofList (callText name formats i) := by
  cases call with
  | timestamp spells =>
    have moment : moment? sources.now (Argument.parse arguments.toList) = sources.now.shift? o := by
      rw [Argument.parse, moment?, offset?_readAll spells]
    simp [evaluate?, timestamp?, moment, callText, Function.comp_def]
  | @datetime _ _ text _ leading spells whole =>
    have split := splitFormat_leading leading spells
    have moment : moment? sources.now (Argument.readAll text) = sources.now.shift? o := by
      rw [moment?, offset?_readAll spells]
    rw [← whole] at split
    simp [evaluate?, datetime?, Argument.parse, split, moment, callText, Function.comp_def]

/-- Every offset of 64 bits can be written, with any blanks in front of its unit. -/
theorem spells_intText {gap : List Char} (low : -signedLimit ≤ o.amount) (high : o.amount < signedLimit)
    (blank : allBlank gap = true) : o.Spells (intText o.amount ++ (gap ++ o.unit.letters)) := by
  have digits (n : Nat) : natText n ≠ [] ∧ ∀ c ∈ natText n, isAsciiDigit c = true := by
    obtain ⟨c, rest, shown, -⟩ := natText_eq_cons n
    exact ⟨by simp [shown], fun c => isAsciiDigit_of_mem_natText⟩
  refine .intro ?_ low high blank
  obtain ⟨amount, unit⟩ := o
  cases amount with
  | ofNat n =>
    have spelled := SpellsInt.plain (digits n).1 (digits n).2
    rwa [natOfDigits_natText] at spelled
  | negSucc n =>
    have spelled := SpellsInt.minus (digits (n + 1)).1 (digits (n + 1)).2
    rwa [natOfDigits_natText] at spelled

end Calls

/-- From a present that can be represented every offset leads to one instant. A time or a date with the offset
is generated from that instant if the instant can be represented, and otherwise not at all. Offsets of one
span generate the same, in whatever unit they are written. -/
theorem evaluate?_shifted {sources : Sources} (present : sources.now.representable = true)
    (fraction : sources.now.nanos < 1000000000) :
    (∀ o : Offset, ∃ target, (∀ i, o.Leads sources.now i ↔ i = target) ∧
      ∀ name formats arguments, OffsetCall o name formats arguments →
        evaluate? sources name (some arguments) =
          if target.representable then some (String.ofList (callText name formats target)) else none) ∧
    ∀ o o', Rescaled o o' → ∀ name formats arguments arguments', OffsetCall o name formats arguments →
      OffsetCall o' name formats arguments' →
        evaluate? sources name (some arguments) = evaluate? sources name (some arguments') := by
  constructor
  · intro o
    have leads : o.Leads sources.now (o.apply sources.now) := Offset.leads_iff.mpr rfl
    refine ⟨_, fun i => Offset.leads_iff, fun name formats arguments call => ?_⟩
    rw [evaluate?_offsetCall call, leads.shift?_eq present fraction]
    split <;> rfl
  · intro o o' rescaled name formats arguments arguments' call call'
    have leads : o.Leads sources.now (o.apply sources.now) := Offset.leads_iff.mpr rfl
    rw [evaluate?_offsetCall call, evaluate?_offsetCall call', leads.shift?_eq present fraction,
      (rescaled.leads_iff.mp leads).shift?_eq present fraction]

/-- The least number of years leads nowhere, and one week may be written as seven days. -/
theorem evaluate?_shifted_extreme :
    let sources : Sources := ⟨⟨⟨1706702400, 999999999⟩, .universal⟩, fun _ => none, 0⟩
    sources.now.representable = true ∧ sources.now.nanos < 1000000000 ∧
    OffsetCall ⟨-9223372036854775808, .year⟩ "timestamp" [] "-9223372036854775808 y" ∧
    evaluate? sources "timestamp" (some "-9223372036854775808 y") = none ∧
    OffsetCall ⟨1, .week⟩ "datetime" [⟨"d", true⟩] "'d' 1 w" ∧
    OffsetCall ⟨7, .day⟩ "datetime" [⟨"d", true⟩] "'d'  +7d" ∧
    evaluate? sources "datetime" (some "'d' 1 w") = evaluate? sources "datetime" (some "'d'  +7d") := by
  intro sources
  have present : sources.now.representable = true := by decide +kernel
  have fraction : sources.now.nanos < 1000000000 := by decide
  have least : OffsetCall ⟨-9223372036854775808, .year⟩ "timestamp" [] "-9223372036854775808 y" := by
    refine .timestamp ?_
    have shown : trim "-9223372036854775808 y".toList =
        intText (-9223372036854775808) ++ ([' '] ++ TimeUnit.year.letters) := by decide +kernel
    rw [shown]
    exact spells_intText (by decide) (by decide) rfl
  have format : Argument.Spells ⟨"d", true⟩ "'d'".toList :=
    @Argument.Spells.quoted '\'' ['d'] (.inl rfl) (by decide)
  have week : OffsetCall ⟨1, .week⟩ "datetime" [⟨"d", true⟩] "'d' 1 w" := by
    have spells : Offset.Spells ⟨1, .week⟩ "1 w".toList :=
      spells_intText (o := ⟨1, .week⟩) (by decide) (by decide) (show allBlank [' '] = true from rfl)
    exact .datetime (@LeadingFormat.format _ _ [' '] format rfl (by decide) rfl) spells (by decide +kernel)
  have days : OffsetCall ⟨7, .day⟩ "datetime" [⟨"d", true⟩] "'d'  +7d" := by
    have seven : SpellsInt 7 ['+', '7'] := @SpellsInt.plus ['7'] (by decide) (by simp [isAsciiDigit])
    have spells : Offset.Spells ⟨7, .day⟩ "+7d".toList :=
      @Offset.Spells.intro ⟨7, .day⟩ ['+', '7'] [] seven (by decide) (by decide) rfl
    exact .datetime (@LeadingFormat.format _ _ [' ', ' '] format rfl (by decide) rfl) spells (by decide +kernel)
  obtain ⟨shifted, same⟩ := evaluate?_shifted present fraction
  obtain ⟨target, unique, generated⟩ := shifted ⟨-9223372036854775808, .year⟩
  have outside : target.representable = false := by
    rw [← (unique _).mp (Offset.leads_iff.mpr rfl)]
    decide +kernel
  refine ⟨present, fraction, least, ?_, week, days, same _ _ (.week 1) _ _ _ _ week days⟩
  rw [generated _ _ _ least, if_neg (by simp [outside])]

end Generator

end RequestBook

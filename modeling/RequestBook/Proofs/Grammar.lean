import Mathlib.Data.List.DropRight
import Mathlib.Data.List.TakeWhile
import RequestBook.Document.Reading

/-! How the parts of a line are written: trimmed texts, identifiers, targets and versions, and what
reading them out of a line gives. -/
namespace RequestBook

namespace Text

def Inked (text : List Char) : Prop := ∀ c ∈ text, isBlank c = false

/-! The tests below go through the texts. Left to itself, the search for a test of all characters with
a property finds one that goes through all of Unicode. -/

instance : DecidablePred Inked := fun text => List.decidableBAll _ text

def Trimmed (text : List Char) : Prop :=
  (∀ c ∈ text.head?, isBlank c = false) ∧ ∀ c ∈ text.getLast?, isBlank c = false

instance : DecidablePred Trimmed := fun text =>
  @instDecidableAnd _ _ (Option.decidableForallMem text.head?) (Option.decidableForallMem text.getLast?)

def Unbroken (text : List Char) : Prop := ∀ c ∈ text, c ≠ '\r' ∧ c ≠ '\n'

instance : DecidablePred Unbroken := fun text => List.decidableBAll _ text

def Neat (text : List Char) : Prop := Trimmed text ∧ Unbroken text

instance : DecidablePred Neat := fun text => inferInstanceAs (Decidable (Trimmed text ∧ Unbroken text))

theorem Unbroken.append {first second : List Char} (left : Unbroken first) (right : Unbroken second) :
    Unbroken (first ++ second) := by
  intro c member
  rcases List.mem_append.mp member with inside | inside
  · exact left c inside
  · exact right c inside

theorem dropStart?_eq_some {start text rest : List Char} :
    dropStart? start text = some rest ↔ text = start ++ rest := by
  induction start generalizing text with
  | nil => simp [dropStart?, eq_comm]
  | cons c start ih =>
    cases text with
    | nil => simp [dropStart?]
    | cons d text =>
      by_cases same : c = d
      · simp [dropStart?, same, ih]
      · simp [dropStart?, same, Ne.symm same]

theorem dropStart?_append (start rest : List Char) : dropStart? start (start ++ rest) = some rest :=
  dropStart?_eq_some.mpr rfl

theorem dropStart?_eq_none {start text : List Char} (apart : ¬ start <+: text) :
    dropStart? start text = none := by
  cases found : dropStart? start text with
  | none => rfl
  | some rest => exact absurd ⟨rest, (dropStart?_eq_some.mp found).symm⟩ apart

theorem cutAt?_append {mark : Char} {before : List Char} (unmarked : mark ∉ before)
    (after : List Char) : cutAt? mark (before ++ mark :: after) = some (before, after) := by
  induction before with
  | nil => simp [cutAt?]
  | cons c rest ih =>
    simp only [List.mem_cons, not_or] at unmarked
    simp [cutAt?, Ne.symm unmarked.1, ih unmarked.2]

theorem unmarked_of_cutAt? {mark : Char} {text before after : List Char}
    (cut : cutAt? mark text = some (before, after)) : mark ∉ before := by
  induction text generalizing before with
  | nil => cases cut
  | cons c rest ih =>
    rw [cutAt?] at cut
    split at cut
    next =>
      cases cut
      simp
    next other =>
      obtain ⟨⟨more, behind⟩, found, eq⟩ := Option.map_eq_some_iff.mp cut
      cases eq
      simp [Ne.symm other, ih found]

/-- A run of characters ends in front of the first one that is not of its kind. -/
theorem span_run (p : Char → Bool) (run rest : List Char) (all : ∀ c ∈ run, p c = true)
    (ends : ∀ c ∈ rest.head?, p c = false) :
    (run ++ rest).takeWhile p = run ∧ (run ++ rest).dropWhile p = rest := by
  rw [List.takeWhile_append_of_pos all, List.dropWhile_append_of_pos all]
  cases rest with
  | nil => simp
  | cons c rest => simp [ends c rfl]

/-- A text without a mark ends in front of the first one. -/
theorem span_until {mark : Char} {run : List Char} (unmarked : mark ∉ run) (rest : List Char)
    (ends : ∀ c ∈ rest.head?, c = mark) :
    (run ++ rest).takeWhile (· != mark) = run ∧ (run ++ rest).dropWhile (· != mark) = rest := by
  refine span_run _ run rest (fun c member => ?_) (fun c first => ?_)
  · rw [bne_iff_ne]
    rintro rfl
    exact unmarked member
  · rw [ends c first, bne_self_eq_false]

theorem trimStart_of_head {text : List Char} (inked : ∀ c ∈ text.head?, isBlank c = false) :
    trimStart text = text := by
  cases text with
  | nil => rfl
  | cons c rest => simp [trimStart, inked c rfl]

theorem trimEnd_of_getLast {text : List Char} (inked : ∀ c ∈ text.getLast?, isBlank c = false) :
    trimEnd text = text := by
  have front : trimStart text.reverse = text.reverse :=
    trimStart_of_head (by rwa [List.head?_reverse])
  exact (congrArg List.reverse front).trans (List.reverse_reverse text)

/-- Blanks in front of a text go no further than the text. -/
theorem trimStart_append {gap : List Char} (blank : allBlank gap = true) (rest : List Char) :
    trimStart (gap ++ rest) = trimStart rest :=
  List.dropWhile_append_of_pos (List.all_eq_true.mp blank)

/-- A text that begins with blanks begins with one. -/
theorem isBlank_of_head? {gap : List Char} (filled : gap ≠ []) (blank : allBlank gap = true)
    (rest : List Char) : ∀ c ∈ (gap ++ rest).head?, isBlank c = true := by
  rw [List.head?_append_of_ne_nil _ filled]
  exact fun c first => List.all_eq_true.mp blank c (List.mem_of_mem_head? first)

theorem Trimmed.trim_eq {text : List Char} (trimmed : Trimmed text) : trim text = text := by
  rw [trim, trimStart_of_head trimmed.1, trimEnd_of_getLast trimmed.2]

theorem trimmed_trim (text : List Char) : Trimmed (trim text) := by
  constructor
  · intro c head
    have front : (trimStart text).head? = some c := by
      obtain ⟨rest, eq⟩ := List.head?_eq_some_iff.mp head
      obtain ⟨behind, whole⟩ : trim text <+: trimStart text := List.rdropWhile_prefix isBlank _
      rw [← whole, eq]
      rfl
    have visible := List.head?_dropWhile_not isBlank text
    rw [trimStart] at front
    simpa [front] using visible
  · intro c last
    have front : ((trimStart text).reverse.dropWhile isBlank).head? = some c := by
      rwa [trim, trimEnd, List.getLast?_reverse] at last
    have visible := List.head?_dropWhile_not isBlank (trimStart text).reverse
    simpa [front] using visible

theorem trim_trim (text : List Char) : trim (trim text) = trim text := (trimmed_trim text).trim_eq

theorem trim_split (text : List Char) : ∃ before behind, text = before ++ (trim text ++ behind) := by
  refine ⟨text.takeWhile isBlank, ((trimStart text).reverse.takeWhile isBlank).reverse, ?_⟩
  have inked : trim text ++ ((trimStart text).reverse.takeWhile isBlank).reverse = trimStart text := by
    rw [trim, trimEnd, ← List.reverse_append, List.takeWhile_append_dropWhile, List.reverse_reverse]
  rw [inked]
  exact List.takeWhile_append_dropWhile.symm

theorem mem_of_mem_trim {text : List Char} {c : Char} (member : c ∈ trim text) : c ∈ text := by
  obtain ⟨before, behind, eq⟩ := trim_split text
  rw [eq]
  exact List.mem_append_right _ (List.mem_append_left _ member)

/-- Blanks at the end go no further than a character that is not blank. -/
theorem trimEnd_append {first second : List Char}
    (inked : ∀ c ∈ first.getLast?, isBlank c = false) :
    trimEnd (first ++ second) = first ++ trimEnd second := by
  simp only [trimEnd, List.reverse_append, List.dropWhile_append]
  split
  next empty =>
    have last : (first.reverse.dropWhile isBlank).reverse = first := trimEnd_of_getLast inked
    rw [List.isEmpty_iff.mp empty, last]
    simp
  next => simp

theorem Trimmed.trim_append {first : List Char} (trimmed : Trimmed first) (filled : first ≠ [])
    (second : List Char) : trim (first ++ second) = first ++ trimEnd second := by
  have front : trimStart (first ++ second) = first ++ second := by
    refine trimStart_of_head fun c head => trimmed.1 c ?_
    cases first with
    | nil => contradiction
    | cons d rest => exact head
  rw [trim, front, trimEnd_append trimmed.2]

theorem trimEnd_of_blank {gap : List Char} (blank : allBlank gap = true) : trimEnd gap = [] := by
  rw [trimEnd, List.reverse_eq_nil_iff, List.dropWhile_eq_nil_iff]
  exact fun c member => List.all_eq_true.mp blank c (List.mem_reverse.mp member)

/-- Trimming takes away the blanks around a text. -/
theorem Trimmed.trim_surrounded {before text behind : List Char} (trimmed : Trimmed text)
    (blank : allBlank before = true) (blank' : allBlank behind = true) :
    trim (before ++ (text ++ behind)) = text := by
  rw [trim, trimStart_append blank, ← trim]
  by_cases filled : text = []
  · have nothing := trimStart_append blank' []
    rw [List.append_nil] at nothing
    rw [filled, List.nil_append, trim, nothing]
    rfl
  · rw [trimmed.trim_append filled, trimEnd_of_blank blank', List.append_nil]

/-- Behind a trimmed text nothing but blanks is nothing. -/
theorem Trimmed.behind_eq_nil {first second : List Char} (trimmed : Trimmed (first ++ second))
    (blank : allBlank second = true) : second = [] := by
  rcases List.eq_nil_or_concat second with none | ⟨front, c, rfl⟩
  · exact none
  · have last : c ∈ (first ++ front.concat c).getLast? := by simp [List.getLast?_append]
    have visible := trimmed.2 c last
    simp [allBlank, visible] at blank

theorem trimmed_append {first second : List Char} (filled : first ≠ []) (filled' : second ≠ [])
    (start : ∀ c ∈ first.head?, isBlank c = false) (stop : ∀ c ∈ second.getLast?, isBlank c = false) :
    Trimmed (first ++ second) := by
  constructor
  · rwa [List.head?_append_of_ne_nil first filled]
  · rwa [List.getLast?_append_of_ne_nil first filled']

theorem trimStart_space {text : List Char} (inked : ∀ c ∈ text.head?, isBlank c = false) :
    trimStart (' ' :: text) = text :=
  trimStart_of_head inked

theorem trimEnd_space {text : List Char} (trimmed : Trimmed text) (filled : text ≠ []) :
    trimEnd (' ' :: text) = ' ' :: text := by
  refine trimEnd_of_getLast ?_
  cases text with
  | nil => contradiction
  | cons c rest => simpa using trimmed.2

/-- A text behind one space, of which nothing stays if the text is empty. -/
theorem trim_trimEnd_space {text : List Char} (trimmed : Trimmed text) :
    trim (trimEnd (' ' :: text)) = text := by
  cases text with
  | nil => rfl
  | cons c rest =>
    have last : ∀ d ∈ (' ' :: c :: rest).getLast?, isBlank d = false := by
      simpa using trimmed.2
    rw [trimEnd_of_getLast last]
    exact trimmed.trim_eq

def IsIdentifier (marks : List Char) : List Char → Prop
  | [] => False
  | c :: rest => startsIdentifier c = true ∧ ∀ d ∈ rest, continuesIdentifier marks d = true

instance (marks : List Char) : DecidablePred (IsIdentifier marks)
  | [] => inferInstanceAs (Decidable False)
  | _ :: rest => @instDecidableAnd _ _ inferInstance (List.decidableBAll _ rest)

theorem readIdentifier_append {marks name : List Char} (identifier : IsIdentifier marks name)
    {rest : List Char} (ends : ∀ c ∈ rest.head?, continuesIdentifier marks c = false) :
    readIdentifier marks (name ++ rest) = some (name, rest) := by
  cases name with
  | nil => exact identifier.elim
  | cons c more =>
    have stop : rest.takeWhile (continuesIdentifier marks) = [] ∧
        rest.dropWhile (continuesIdentifier marks) = rest := by
      cases rest with
      | nil => exact ⟨rfl, rfl⟩
      | cons d rest => simp [ends d rfl]
    rw [List.cons_append, readIdentifier, if_pos identifier.1,
      List.takeWhile_append_of_pos identifier.2, List.dropWhile_append_of_pos identifier.2, stop.1,
      stop.2, List.append_nil]

theorem readIdentifier_eq_some {marks text name rest : List Char}
    (read : readIdentifier marks text = some (name, rest)) :
    IsIdentifier marks name ∧ text = name ++ rest := by
  cases text with
  | nil => cases read
  | cons c more =>
    rw [readIdentifier] at read
    split at read
    next starts =>
      cases read
      refine ⟨⟨starts, fun d member => List.mem_takeWhile_imp member⟩, ?_⟩
      rw [List.cons_append, List.takeWhile_append_dropWhile]
    next => cases read

theorem isBlank_of_visible {c : Char} (low : 0x21 ≤ c.toNat) (high : c.toNat ≤ 0x7E) :
    isBlank c = false := by
  simp only [isBlank, Bool.or_eq_false_iff, Bool.and_eq_false_iff, decide_eq_false_iff_not,
    beq_eq_false_iff_ne]
  omega

theorem isBlank_of_letter {c : Char} (letter : isAsciiLetter c = true) : isBlank c = false := by
  simp only [isAsciiLetter, Bool.or_eq_true, Bool.and_eq_true, decide_eq_true_eq, Char.le_def,
    UInt32.le_iff_toNat_le] at letter
  rcases letter with ⟨low, high⟩ | ⟨low, high⟩
  · change 97 ≤ c.toNat at low
    change c.toNat ≤ 122 at high
    exact isBlank_of_visible (by omega) (by omega)
  · change 65 ≤ c.toNat at low
    change c.toNat ≤ 90 at high
    exact isBlank_of_visible (by omega) (by omega)

/-- No run of digits touches a blank. -/
theorem isBlank_of_digit {c : Char} (digit : isDigit c = true) : isBlank c = false := by
  obtain ⟨start, member, inside⟩ := List.any_eq_true.mp digit
  simp only [Bool.and_eq_true, decide_eq_true_eq] at inside
  have apart : ∀ n ∈ digitZeros, 0x20 < n ∧ n + 10 ≤ 0x85 ∨ 0xA0 < n ∧ n + 10 ≤ 0x1680 ∨
      0x1680 < n ∧ n + 10 ≤ 0x2000 ∨ 0x3000 < n := by decide
  have place := apart start member
  simp only [isBlank, Bool.or_eq_false_iff, Bool.and_eq_false_iff, decide_eq_false_iff_not,
    beq_eq_false_iff_ne]
  omega

theorem isBlank_of_starts {c : Char} (starts : startsIdentifier c = true) : isBlank c = false := by
  simp only [startsIdentifier, Bool.or_eq_true, beq_iff_eq] at starts
  rcases starts with letter | rfl
  · exact isBlank_of_letter letter
  · rfl

theorem isBlank_of_continues {marks : List Char} (visible : Inked marks) {c : Char}
    (continues : continuesIdentifier marks c = true) : isBlank c = false := by
  simp only [continuesIdentifier, Bool.or_eq_true, beq_iff_eq, List.contains_iff_mem] at continues
  rcases continues with ((letter | digit) | rfl) | mark
  · exact isBlank_of_letter letter
  · simp only [isAsciiDigit, Bool.and_eq_true, decide_eq_true_eq, Char.le_def,
      UInt32.le_iff_toNat_le] at digit
    obtain ⟨low, high⟩ := digit
    change 48 ≤ c.toNat at low
    change c.toNat ≤ 57 at high
    exact isBlank_of_visible (by omega) (by omega)
  · rfl
  · exact visible c mark

theorem IsIdentifier.inked {marks name : List Char} (identifier : IsIdentifier marks name)
    (visible : Inked marks) : Inked name := by
  cases name with
  | nil => exact identifier.elim
  | cons d rest =>
    intro c member
    rcases List.mem_cons.mp member with rfl | inside
    · exact isBlank_of_starts identifier.1
    · exact isBlank_of_continues visible (identifier.2 c inside)

theorem unbroken_of_inked {text : List Char} (inked : Inked text) : Unbroken text := by
  intro c member
  have visible := inked c member
  constructor <;>
  · rintro rfl
    cases visible

theorem trimmed_of_inked {text : List Char} (inked : Inked text) : Trimmed text :=
  ⟨fun c head => inked c (List.mem_of_mem_head? head), fun c last => inked c (List.mem_of_mem_getLast? last)⟩

end Text

namespace Line

open Text

/-- A target is made of placeholders, which may hold blanks, and of other characters that are not
blank. -/
inductive Target : List Char → Prop where
  | nil : Target []
  | char {c : Char} {rest : List Char} : isBlank c = false → Target rest → Target (c :: rest)
  | placeholder {inner rest : List Char} : '}' ∉ inner → Target rest →
      Target ('{' :: '{' :: (inner ++ '}' :: '}' :: rest))

theorem Target.append {first second : List Char} (left : Target first) (right : Target second) :
    Target (first ++ second) := by
  induction left with
  | nil => exact right
  | char visible _ ih => exact .char visible ih
  | placeholder plain _ ih =>
    rw [List.cons_append, List.cons_append, List.append_assoc]
    exact .placeholder plain ih

theorem target_of_inked {text : List Char} (inked : Inked text) : Target text := by
  induction text with
  | nil => exact .nil
  | cons c rest ih =>
    obtain ⟨first, others⟩ := List.forall_mem_cons.mp inked
    exact .char first (ih others)

theorem placeholderInner?_eq_some {text inner after : List Char} :
    placeholderInner? text = some (inner, after) ↔ text = inner ++ '}' :: '}' :: after ∧ '}' ∉ inner := by
  unfold placeholderInner?
  constructor
  · intro found
    split at found
    next rest =>
      cases found
      refine ⟨?_, fun member => ?_⟩
      · rw [← rest, List.takeWhile_append_dropWhile]
      · simpa using List.mem_takeWhile_imp member
    next => cases found
  · rintro ⟨rfl, unclosed⟩
    have all : ∀ c ∈ inner, (c != '}') = true := by
      intro c member
      simp only [bne_iff_ne]
      rintro rfl
      exact unclosed member
    rw [List.dropWhile_append_of_pos all, List.takeWhile_append_of_pos all]
    simp

/-- What follows the first closing braces of a target is a target. -/
theorem Target.behind {before after : List Char} (unclosed : '}' ∉ before)
    (target : Target (before ++ '}' :: '}' :: after)) : Target after := by
  generalize eq : before ++ '}' :: '}' :: after = text at target
  induction target generalizing before with
  | nil => simp at eq
  | @char c rest visible rest' ih =>
    cases before with
    | nil =>
      cases eq
      cases rest' with
      | char _ behind => exact behind
    | cons d before =>
      obtain ⟨rfl, more⟩ := List.cons.inj eq
      exact ih (fun member => unclosed (List.mem_cons_of_mem _ member)) more
  | @placeholder inner rest plain behind ih =>
    cases before with
    | nil => cases eq
    | cons d before =>
      cases before with
      | nil => cases eq
      | cons e before =>
        obtain ⟨rfl, more⟩ := List.cons.inj eq
        obtain ⟨rfl, same⟩ := List.cons.inj more
        have outer : placeholderInner? (before ++ '}' :: '}' :: after) = some (before, after) :=
          placeholderInner?_eq_some.mpr
            ⟨rfl, fun member => unclosed (List.mem_cons_of_mem _ (List.mem_cons_of_mem _ member))⟩
        rw [show before ++ '}' :: '}' :: after = inner ++ '}' :: '}' :: rest from same,
          placeholderInner?_eq_some.mpr ⟨rfl, plain⟩] at outer
        cases outer
        exact behind

/-- What may stand behind a target: nothing, or a blank and what closes no placeholder. -/
def EndsTarget (behind : List Char) : Prop :=
  (∀ c ∈ behind.head?, isBlank c = true) ∧ '}' ∉ behind

theorem EndsTarget.head?_ne {behind : List Char} (ends : EndsTarget behind) {rest : List Char}
    (eq : behind = '{' :: rest) : False := by
  subst eq
  have blank := ends.1 '{' rfl
  cases blank

/-- A placeholder that is closed before what stands behind a target is closed in the target. -/
theorem EndsTarget.closed_before {behind : List Char} (ends : EndsTarget behind)
    {text inner after : List Char} (eq : text ++ behind = inner ++ '}' :: '}' :: after) :
    ∃ rest, text = inner ++ '}' :: '}' :: rest ∧ after = rest ++ behind := by
  have split : text ++ behind = (inner ++ ['}', '}']) ++ after := by simp [eq]
  rcases List.append_eq_append_iff.mp split with ⟨beyond, closing, inside⟩ | ⟨rest, whole, rfl⟩
  · rcases List.eq_nil_or_concat beyond with rfl | ⟨front, last, rfl⟩
    · exact ⟨[], by simpa using closing.symm, by simpa using inside.symm⟩
    · have shape : inner ++ ['}'] ++ ['}'] = (text ++ front) ++ [last] := by simpa using closing
      obtain ⟨_, same⟩ := List.append_inj' shape rfl
      have member : '}' ∈ behind := by
        rw [inside]
        simp [← same]
      exact absurd member ends.2
  · exact ⟨rest, by simpa using whole, rfl⟩

theorem targetHead?_char {c : Char} {rest : List Char} (visible : isBlank c = false)
    (single : c = '{' → ∀ inside, rest ≠ '{' :: inside) :
    targetHead? (c :: rest) = some ([c], rest) := by
  unfold targetHead?
  split
  next eq => cases eq
  next inside eq =>
    cases eq
    exact absurd rfl (single rfl inside)
  next eq =>
    cases eq
    simp [visible]

theorem targetHead?_closed {rest inner after : List Char} (found : placeholderInner? rest = some (inner, after)) :
    targetHead? ('{' :: '{' :: rest) = some ('{' :: '{' :: inner ++ ['}', '}'], after) := by
  unfold targetHead?
  simp only [found]

theorem targetHead?_unclosed {rest : List Char} (none : placeholderInner? rest = none) :
    targetHead? ('{' :: '{' :: rest) = some (['{'], '{' :: rest) := by
  unfold targetHead?
  simp only [none]

/-- A target that is not empty begins with a placeholder or a character, and a target follows. -/
theorem Target.head {text behind : List Char} (target : Target text) (filled : text ≠ [])
    (ends : EndsTarget behind) : ∃ start rest, text = start ++ rest ∧ start ≠ [] ∧ Target rest ∧
      targetHead? (text ++ behind) = some (start, rest ++ behind) := by
  cases target with
  | nil => contradiction
  | @char c rest visible more =>
    by_cases opens : c = '{' ∧ ∃ inside, rest = '{' :: inside
    · obtain ⟨rfl, inside, rfl⟩ := opens
      cases found : placeholderInner? (inside ++ behind) with
      | none =>
        exact ⟨['{'], '{' :: inside, rfl, by simp, more, targetHead?_unclosed found⟩
      | some parts =>
        obtain ⟨inner, after⟩ := parts
        obtain ⟨eq, plain⟩ := placeholderInner?_eq_some.mp found
        obtain ⟨rest, rfl, rfl⟩ := ends.closed_before eq
        have unclosed : '}' ∉ '{' :: inner := by simpa using plain
        exact ⟨'{' :: '{' :: inner ++ ['}', '}'], rest, by simp, by simp, more.behind unclosed,
          targetHead?_closed found⟩
    · refine ⟨[c], rest, rfl, by simp, more, targetHead?_char visible ?_⟩
      rintro rfl inside eq
      cases rest with
      | nil => exact ends.head?_ne eq
      | cons d rest =>
        obtain ⟨rfl, _⟩ := List.cons.inj eq
        exact opens ⟨rfl, rest, rfl⟩
  | @placeholder inner rest plain more =>
    have found : placeholderInner? (inner ++ '}' :: '}' :: rest ++ behind) = some (inner, rest ++ behind) :=
      placeholderInner?_eq_some.mpr ⟨by simp, plain⟩
    exact ⟨'{' :: '{' :: inner ++ ['}', '}'], rest, by simp, by simp, more, targetHead?_closed found⟩

/-- A target is read up to its end. -/
theorem Target.readTarget_append {text behind : List Char} (target : Target text)
    (ends : EndsTarget behind) : readTarget (text ++ behind) = (text, behind) := by
  induction length : text.length using Nat.strong_induction_on generalizing text with
  | _ n ih =>
    by_cases filled : text = []
    · subst filled
      have stop : targetHead? behind = none := by
        cases behind with
        | nil => rfl
        | cons c rest =>
          have blank := ends.1 c rfl
          unfold targetHead?
          split
          next eq => cases eq
          next eq =>
            cases eq
            cases blank
          next eq =>
            cases eq
            simp [blank]
      rw [List.nil_append, readTarget]
      split
      next => rfl
      next found =>
        rw [stop] at found
        cases found
    · obtain ⟨start, rest, rfl, some, more, read⟩ := target.head filled ends
      have shorter : rest.length < n := by
        have := List.length_pos_iff.mpr some
        simp only [List.length_append] at length
        omega
      have deeper := ih rest.length shorter more rfl
      rw [readTarget]
      split
      next found =>
        rw [read] at found
        cases found
      next head after found =>
        rw [read] at found
        cases found
        simp [deeper]

/-- What a target is read off as its first part is a target. -/
theorem target_of_targetHead? {text head after : List Char} (found : targetHead? text = some (head, after)) :
    Target head := by
  unfold targetHead? at found
  split at found
  · cases found
  · split at found
    next inside =>
      cases found
      exact .placeholder (placeholderInner?_eq_some.mp inside).2 .nil
    next =>
      cases found
      exact .char rfl .nil
  · split at found
    · cases found
    next visible =>
      cases found
      exact .char (by simpa using visible) .nil

/-- Whatever the text, what is read as a target is one. -/
theorem target_of_readTarget (text : List Char) : Target (readTarget text).1 := by
  fun_induction readTarget text with
  | case1 => exact .nil
  | case2 text head after found _ target behind more ih =>
    rw [more] at ih
    exact (target_of_targetHead? found).append ih

theorem Target.head?_inked {text : List Char} (target : Target text) :
    ∀ c ∈ text.head?, isBlank c = false := by
  cases target with
  | nil => simp
  | char visible _ => simpa using visible
  | placeholder _ _ =>
    intro c head
    cases head
    rfl

theorem Target.getLast?_inked {text : List Char} (target : Target text) :
    ∀ c ∈ text.getLast?, isBlank c = false := by
  induction target with
  | nil => simp
  | @char c rest visible _ ih =>
    cases rest with
    | nil => simpa using visible
    | cons d rest => simpa using ih
  | @placeholder inner rest _ _ ih =>
    cases rest with
    | nil =>
      have last : ('{' :: '{' :: (inner ++ ['}', '}'])).getLast? = some '}' := by
        rw [show '{' :: '{' :: (inner ++ ['}', '}']) = ('{' :: '{' :: (inner ++ ['}'])) ++ ['}'] by simp]
        exact List.getLast?_concat
      rw [last]
      intro c closing
      cases closing
      rfl
    | cons d rest => simpa [List.getLast?_append, List.getLast?_cons] using ih

theorem Target.trimmed {text : List Char} (target : Target text) : Trimmed text :=
  ⟨target.head?_inked, target.getLast?_inked⟩

def Version (text : List Char) : Prop :=
  ∃ major, major ≠ [] ∧ (∀ c ∈ major, isDigit c = true) ∧
    (text = "HTTP/".toList ++ major ∨ ∃ minor, minor ≠ [] ∧ (∀ c ∈ minor, isDigit c = true) ∧
      text = "HTTP/".toList ++ (major ++ '.' :: minor))

theorem Version.isVersion {text : List Char} (version : Version text) : isVersion text = true := by
  obtain ⟨major, some, digits, rfl | ⟨minor, someMinor, digitsMinor, rfl⟩⟩ := version
  · rw [Line.isVersion, dropStart?_append]
    have all : major.takeWhile isDigit = major := List.takeWhile_eq_self_iff.mpr digits
    have none : major.dropWhile isDigit = [] := List.dropWhile_eq_nil_iff.mpr digits
    simp [all, none, some]
  · rw [Line.isVersion, dropStart?_append]
    have point : isDigit '.' = false := by decide
    have all : minor.all isDigit = true := List.all_eq_true.mpr digitsMinor
    simp [List.takeWhile_append_of_pos digits, List.dropWhile_append_of_pos digits, point, some,
      someMinor, all]

theorem version_of_isVersion {text : List Char} (shown : Line.isVersion text = true) : Version text := by
  unfold Line.isVersion at shown
  split at shown
  next => cases shown
  next rest found =>
    obtain rfl := dropStart?_eq_some.mp found
    have digits : ∀ c ∈ rest.takeWhile isDigit, isDigit c = true := fun c member => List.mem_takeWhile_imp member
    have whole : rest.takeWhile isDigit ++ rest.dropWhile isDigit = rest := List.takeWhile_append_dropWhile
    obtain ⟨filled, shown⟩ := Bool.and_eq_true_iff.mp shown
    refine ⟨rest.takeWhile isDigit, by simpa using filled, digits, ?_⟩
    split at shown
    next none =>
      rw [none, List.append_nil] at whole
      exact .inl (by rw [whole])
    next minor point =>
      obtain ⟨filled, all⟩ := Bool.and_eq_true_iff.mp shown
      rw [point] at whole
      exact .inr ⟨minor, by simpa using filled, List.all_eq_true.mp all, by rw [whole]⟩
    next => cases shown

theorem version_of_readVersion {text : List Char} {version : Option String}
    (read : readVersion text = some version) : ∀ v ∈ version, Version v.toList := by
  unfold readVersion at read
  split at read
  · cases read
    simp
  · dsimp only at read
    split at read
    next shown =>
      cases read
      intro v given
      cases given
      rw [String.toList_ofList]
      exact version_of_isVersion (Bool.and_eq_true_iff.mp shown).2
    next => cases read

/-- Every character of a version is visible, and none closes a placeholder. -/
theorem Version.inked {text : List Char} (version : Version text) : Inked text ∧ '}' ∉ text := by
  have number : ∀ digits : List Char, (∀ c ∈ digits, isDigit c = true) → Inked digits ∧ '}' ∉ digits := by
    intro digits all
    refine ⟨fun c member => isBlank_of_digit (all c member), fun member => ?_⟩
    have digit := all '}' member
    revert digit
    decide
  have protocol : Inked "HTTP/".toList ∧ '}' ∉ "HTTP/".toList := by decide
  have point : isBlank '.' = false := by decide
  obtain ⟨major, _, digits, rfl | ⟨minor, _, digitsMinor, rfl⟩⟩ := version
  · obtain ⟨inked, unclosed⟩ := number major digits
    refine ⟨List.forall_mem_append.mpr ⟨protocol.1, inked⟩, ?_⟩
    exact fun member => (List.mem_append.mp member).elim protocol.2 unclosed
  · obtain ⟨inked, unclosed⟩ := number major digits
    obtain ⟨inkedMinor, unclosedMinor⟩ := number minor digitsMinor
    refine ⟨List.forall_mem_append.mpr ⟨protocol.1, List.forall_mem_append.mpr ⟨inked,
      List.forall_mem_cons.mpr ⟨point, inkedMinor⟩⟩⟩, ?_⟩
    simp [unclosed, unclosedMinor]

end Line

end RequestBook

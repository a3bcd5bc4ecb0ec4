import RequestBook.Calendar.Pattern
import RequestBook.Proofs.Grammar

/-! Date patterns. A pattern is a sequence of runs of one letter, quoted texts and escaped characters. Its
directives say the same of every instant as the pattern read directly does: a run of a field's letter gives
the text of the field, all else stands for itself, and no literal text becomes part of a directive. -/
namespace RequestBook.Calendar

open Text

def fieldOf? (letter : Char) (n : Nat) : Option Field :=
  match letter with
  | 'y' => some (if n = 1 then .yearOfCentury false else if n = 2 then .yearOfCentury true else .year)
  | 'M' => some (if n = 1 then .month false else if n = 2 then .month true
      else if n = 3 then .monthShort else .monthLong)
  | 'd' => some (if n = 1 then .day false else if n = 2 then .day true
      else if n = 3 then .weekdayShort else .weekdayLong)
  | 'H' => some (.hour (n ≠ 1))
  | 'h' => some (.hourOfHalf (n ≠ 1))
  | 'm' => some (.minute (n ≠ 1))
  | 's' => some (.second (n ≠ 1))
  | 'f' => some (.fraction (if n ≤ 3 then 3 else if n ≤ 6 then 6 else 9))
  | 't' => some .half
  | 'z' => some (.zone (2 < n))
  | 'K' => some (.zone true)
  | _ => none

def fieldLetters : List Char := ['y', 'M', 'd', 'H', 'h', 'm', 's', 'f', 't', 'z', 'K']

/-- A part of a pattern: a run of one letter, or text that stands for itself. -/
inductive Segment where
  | run (letter : Char) (n : Nat)
  | literal (text : List Char)

def Segment.text (t : LocalTime) : Segment → List Char
  | .run letter n =>
    match fieldOf? letter n with
    | some f => f.text t
    | none => List.replicate n letter
  | .literal text => text

/-- The parts of a pattern from left to right. A run goes as far as its letter; a quote without its partner
reaches to the end of the pattern, and a backslash at the end says nothing. -/
inductive Segmented : List Char → List Segment → Prop where
  | nil : Segmented [] []
  | run {letter : Char} {n : Nat} {rest : List Char} {segments : List Segment} :
      ¬(letter = '\'' ∨ letter = '"') → letter ≠ '\\' → rest.head? ≠ some letter → Segmented rest segments →
      Segmented (List.replicate (n + 1) letter ++ rest) (.run letter (n + 1) :: segments)
  | quoted {quote : Char} {text rest : List Char} {segments : List Segment} : quote = '\'' ∨ quote = '"' →
      quote ∉ text → Segmented rest segments →
      Segmented (quote :: (text ++ quote :: rest)) (.literal text :: segments)
  | unclosed {quote : Char} {text : List Char} : quote = '\'' ∨ quote = '"' → quote ∉ text →
      Segmented (quote :: text) [.literal text]
  | escaped {c : Char} {rest : List Char} {segments : List Segment} : Segmented rest segments →
      Segmented ('\\' :: c :: rest) (.literal [c] :: segments)
  | dangling : Segmented ['\\'] []

def Field.directive : Field → String
  | .year => "%Y"
  | .yearOfCentury padded => if padded then "%y" else "%-y"
  | .month padded => if padded then "%m" else "%-m"
  | .monthShort => "%b"
  | .monthLong => "%B"
  | .day padded => if padded then "%d" else "%-d"
  | .weekdayShort => "%a"
  | .weekdayLong => "%A"
  | .hour padded => if padded then "%H" else "%-H"
  | .hourOfHalf padded => if padded then "%I" else "%-I"
  | .minute padded => if padded then "%M" else "%-M"
  | .second padded => if padded then "%S" else "%-S"
  | .fraction digits => if digits = 3 then "%3f" else if digits = 6 then "%6f" else "%9f"
  | .half => "%p"
  | .zone colon => if colon then "%:z" else "%z"

section Fields

variable {letter : Char} {n : Nat}

theorem isSome_fieldOf? (letter : Char) (n : Nat) : (fieldOf? letter n).isSome ↔ letter ∈ fieldLetters := by
  unfold fieldOf?
  split <;> simp_all [fieldLetters]

theorem runDirective?_eq (letter : Char) (n : Nat) :
    runDirective? letter n = (fieldOf? letter n).map Field.directive := by
  by_cases fraction : letter = 'f'
  · subst fraction
    by_cases short : n ≤ 3
    · simp [runDirective?, fieldOf?, Field.directive, short]
    · by_cases middle : n ≤ 6 <;> simp [runDirective?, fieldOf?, Field.directive, short, middle]
  · by_cases zone : letter = 'z'
    · subst zone
      by_cases short : n ≤ 2
      · simp [runDirective?, fieldOf?, Field.directive, short]
      · simp [runDirective?, fieldOf?, Field.directive, short, Nat.lt_of_not_le short]
    · unfold runDirective?
      split <;> simp_all [fieldOf?, Field.directive]

theorem digits_of_fieldOf? {digits : Nat} (found : fieldOf? letter n = some (.fraction digits)) :
    digits = 3 ∨ digits = 6 ∨ digits = 9 := by
  unfold fieldOf? at found
  split at found <;> grind

/-- The directive of a field is read as the field, whatever stands behind it. -/
theorem items?_directive {f : Field} (found : fieldOf? letter n = some f) (rest : List Char) :
    items? (f.directive.toList ++ rest) = (items? rest).map (.field f :: ·) := by
  cases f with
  | fraction digits => obtain rfl | rfl | rfl := digits_of_fieldOf? found <;> simp [Field.directive, items?]
  | zone colon => cases colon <;> simp [Field.directive, items?, letterItem?]
  | year | monthShort | monthLong | weekdayShort | weekdayLong | half =>
    simp [Field.directive, items?, letterItem?]
  | yearOfCentury padded | month padded | day padded | hour padded | hourOfHalf padded | minute padded
  | second padded =>
    cases padded <;> simp [Field.directive, items?, letterItem?, numberField?]

theorem items?_literal (c : Char) (rest : List Char) :
    items? (literalDirective c ++ rest) = (items? rest).map (.literal c :: ·) := by
  by_cases percent : c = '%'
  · simp [literalDirective, percent, items?, letterItem?]
  · rw [literalDirective, if_neg percent, List.singleton_append, items?, if_neg percent]
    all_goals simp [percent]

end Fields

namespace Segment

def directives : Segment → List Char
  | .run letter n =>
    match runDirective? letter n with
    | some directive => directive.toList
    | none => (List.replicate n letter).flatMap literalDirective
  | .literal text => text.flatMap literalDirective

def hasField : Segment → Bool
  | .run letter n => (runDirective? letter n).isSome
  | .literal _ => false

def items : Segment → List Item
  | .run letter n =>
    match fieldOf? letter n with
    | some f => [.field f]
    | none => (List.replicate n letter).map .literal
  | .literal text => text.map .literal

theorem items?_literals (text rest : List Char) :
    items? (text.flatMap literalDirective ++ rest) = (items? rest).map (text.map .literal ++ ·) := by
  induction text with
  | nil => simp
  | cons c text ih =>
    rw [List.flatMap_cons, List.append_assoc, items?_literal, ih, Option.map_map]
    rfl

/-- The directives of a part are read as its items, whatever stands behind them. -/
theorem items?_append (segment : Segment) (rest : List Char) :
    items? (segment.directives ++ rest) = (items? rest).map (segment.items ++ ·) := by
  cases segment with
  | literal text => exact items?_literals text rest
  | run letter n =>
    rw [directives, items, runDirective?_eq]
    cases found : fieldOf? letter n with
    | none => exact items?_literals _ rest
    | some f => exact items?_directive found rest

theorem items?_flatMap (segments : List Segment) :
    items? (segments.flatMap directives) = some (segments.flatMap items) := by
  induction segments with
  | nil => rfl
  | cons segment segments ih =>
    rw [List.flatMap_cons, items?_append, ih, List.flatMap_cons]
    rfl

theorem text_items (segment : Segment) (t : LocalTime) : segment.items.flatMap (Item.text t) = segment.text t := by
  have literals (text : List Char) : (text.map Item.literal).flatMap (Item.text t) = text := by
    induction text with
    | nil => rfl
    | cons c text ih => simp [Item.text, ih]
  cases segment with
  | literal text => exact literals text
  | run letter n =>
    rw [items, Segment.text]
    cases fieldOf? letter n with
    | none => exact literals _
    | some f => simp [Item.text]

end Segment

section Reading

variable {pattern : List Char} {segments : List Segment}

theorem directivesOf_quote {quote : Char} (quoted : quote = '\'' ∨ quote = '"') (rest : List Char) :
    let behind := directivesOf ((rest.dropWhile (· != quote)).drop 1)
    directivesOf (quote :: rest) =
      ((rest.takeWhile (· != quote)).flatMap literalDirective ++ behind.1, behind.2) := by
  rw [directivesOf, if_pos quoted]
  all_goals rcases quoted with rfl | rfl <;> simp

theorem directivesOf_run {letter : Char} (plain : ¬(letter = '\'' ∨ letter = '"')) (backslash : letter ≠ '\\')
    (n : Nat) {rest : List Char} (ends : rest.head? ≠ some letter) :
    directivesOf (List.replicate (n + 1) letter ++ rest) =
      ((Segment.run letter (n + 1)).directives ++ (directivesOf rest).1,
        (Segment.run letter (n + 1)).hasField || (directivesOf rest).2) := by
  have other : ∀ c ∈ rest.head?, (c == letter) = false := by
    intro c first
    rw [beq_eq_false_iff_ne]
    rintro rfl
    exact ends first
  have stop := span_run (· == letter) (List.replicate n letter) rest (by simp) other
  rw [List.replicate_succ, List.cons_append, directivesOf, if_neg plain, stop.1, stop.2]
  · simp only [← List.replicate_succ, List.length_replicate, Segment.directives, Segment.hasField]
    cases runDirective? letter (n + 1) <;> rfl
  · simp [backslash]
  · simp [backslash]

theorem directivesOf_segmented (segmented : Segmented pattern segments) :
    directivesOf pattern = (segments.flatMap Segment.directives, segments.any Segment.hasField) := by
  induction segmented with
  | nil => simp [directivesOf]
  | @run letter n rest segments plain backslash ends _ ih =>
    rw [directivesOf_run plain backslash n ends, ih]
    rfl
  | @quoted quote text rest segments quoted unquoted _ ih =>
    have stop := span_until unquoted (quote :: rest) (by simp)
    rw [directivesOf_quote quoted, stop.1, stop.2, List.drop_one, List.tail_cons, ih]
    rfl
  | @unclosed quote text quoted unquoted =>
    have stop := span_until unquoted [] (by simp)
    rw [List.append_nil] at stop
    rw [directivesOf_quote quoted, stop.1, stop.2]
    simp [directivesOf, Segment.directives, Segment.hasField]
  | escaped _ ih => simp [directivesOf, ih, Segment.directives, Segment.hasField]
  | dangling => simp [directivesOf]

/-- A text begins with the whole run of its first character. -/
theorem exists_run (c : Char) (rest : List Char) : ∃ n behind, c :: rest = List.replicate (n + 1) c ++ behind ∧
    behind.head? ≠ some c ∧ behind.length ≤ rest.length := by
  have run : rest.takeWhile (· == c) = List.replicate (rest.takeWhile (· == c)).length c :=
    List.eq_replicate_of_mem fun d member => by simpa using List.mem_takeWhile_imp member
  refine ⟨(rest.takeWhile (· == c)).length, rest.dropWhile (· == c), ?_, ?_, length_dropWhile_le _ rest⟩
  · rw [List.replicate_succ, ← run, List.cons_append, List.takeWhile_append_dropWhile]
  · intro first
    have stopped := List.head?_dropWhile_not (· == c) rest
    rw [first] at stopped
    simp at stopped

/-- Every pattern has parts. -/
theorem exists_segmented (pattern : List Char) : ∃ segments, Segmented pattern segments := by
  induction hn : pattern.length using Nat.strongRecOn generalizing pattern with
  | ind n ih =>
    subst hn
    have further (rest : List Char) (shorter : rest.length < pattern.length) := ih _ shorter rest rfl
    match pattern with
    | [] => exact ⟨_, .nil⟩
    | c :: rest =>
      by_cases quoted : c = '\'' ∨ c = '"'
      · by_cases closed : c ∈ rest
        · obtain ⟨text, behind, rfl, unquoted⟩ := List.eq_append_cons_of_mem closed
          have shorter : behind.length < (c :: (text ++ c :: behind)).length := by
            simp only [List.length_cons, List.length_append]
            omega
          obtain ⟨segments, segmented⟩ := further behind shorter
          exact ⟨_, .quoted quoted unquoted segmented⟩
        · exact ⟨_, .unclosed quoted closed⟩
      · by_cases backslash : c = '\\'
        · subst backslash
          cases rest with
          | nil => exact ⟨_, .dangling⟩
          | cons d rest =>
            obtain ⟨segments, segmented⟩ := further rest (by simp only [List.length_cons]; omega)
            exact ⟨_, .escaped segmented⟩
        · obtain ⟨n, behind, whole, ends, shorter⟩ := exists_run c rest
          obtain ⟨segments, segmented⟩ := further behind (Nat.lt_succ_of_le shorter)
          rw [whole]
          exact ⟨_, .run quoted backslash ends segmented⟩

end Reading

theorem Segment.hasField_iff (segment : Segment) : segment.hasField = true ↔
    ∃ letter ∈ fieldLetters, ∃ n, segment = .run letter n := by
  cases segment with
  | literal text => simp [hasField]
  | run letter n => simp [hasField, runDirective?_eq, isSome_fieldOf?]

/-- Every pattern has parts, and its directives say the same as they do. The directives are always valid, and
there are none exactly when no part is a run of a field's letter; otherwise a local time is shown as the texts
of the parts one after another. -/
theorem directives?_segmented (pattern : List Char) :
    (items? (directivesOf pattern).1).isSome = true ∧ (∃ segments, Segmented pattern segments) ∧
    ∀ segments, Segmented pattern segments →
      (directives? pattern = none ↔ ∀ letter ∈ fieldLetters, ∀ n, .run letter n ∉ segments) ∧
      ∀ directives, directives? pattern = some directives →
        ∀ t : LocalTime, t.format? directives = some (segments.flatMap (Segment.text t)) := by
  have valid {segments : List Segment} (segmented : Segmented pattern segments) :
      items? (directivesOf pattern).1 = some (segments.flatMap Segment.items) := by
    rw [directivesOf_segmented segmented, Segment.items?_flatMap]
  obtain ⟨parts, whole⟩ := exists_segmented pattern
  have found : directives? pattern =
      if (directivesOf pattern).2 then some (directivesOf pattern).1 else none := by
    simp [directives?, valid whole]
  refine ⟨by simp [valid whole], ⟨parts, whole⟩, fun segments segmented => ⟨?_, fun directives shown t => ?_⟩⟩
  · have unnamed : (directivesOf pattern).2 = false ↔ ∀ letter ∈ fieldLetters, ∀ n, .run letter n ∉ segments := by
      rw [directivesOf_segmented segmented, List.any_eq_false]
      simp only [Segment.hasField_iff]
      constructor
      · intro plain letter among n member
        exact plain _ member ⟨letter, among, n, rfl⟩
      · rintro apart segment member ⟨letter, among, n, rfl⟩
        exact apart letter among n member
    rw [found, ← unnamed]
    cases (directivesOf pattern).2 <;> simp
  · rw [found] at shown
    obtain ⟨-, same⟩ := Option.ite_none_right_eq_some.mp shown
    rw [← Option.some.inj same, LocalTime.format?, valid segmented, Option.map_some, List.flatMap_assoc]
    simp only [Segment.text_items]

/-- Percent signs and letters in quotes are no directives, the second quote opens a text that no quote ends,
and what a backslash escapes is no field. -/
theorem directives?_segmented_fused :
    let pattern := "%yyyy'%d'\\M%%HHH\"m".toList
    let segments : List Segment := [.run '%' 1, .run 'y' 4, .literal "%d".toList, .literal ['M'], .run '%' 2,
      .run 'H' 3, .literal ['m']]
    let t : LocalTime := ⟨⟨1706702400, 0⟩, 3600⟩
    Segmented pattern segments ∧ ∃ directives, directives? pattern = some directives ∧
      t.format? directives = some "%2024%dM%%12m".toList := by
  intro pattern segments t
  have segmented : Segmented pattern segments :=
    .run (n := 0) (by decide) (by decide) (by decide) <|
    .run (n := 3) (by decide) (by decide) (by decide) <|
    @Segmented.quoted '\'' "%d".toList _ _ (.inl rfl) (by decide) <| .escaped <|
    .run (n := 1) (by decide) (by decide) (by decide) <|
    .run (n := 2) (by decide) (by decide) (by decide) <| .unclosed (.inr rfl) (by decide)
  obtain ⟨-, -, reading⟩ := directives?_segmented pattern
  obtain ⟨unnamed, shown⟩ := reading segments segmented
  have named : directives? pattern ≠ none := by
    intro plain
    exact unnamed.mp plain 'y' (by decide) 4 (by simp [segments])
  obtain ⟨directives, found⟩ := Option.ne_none_iff_exists'.mp named
  refine ⟨segmented, directives, found, ?_⟩
  rw [shown directives found t]
  decide +kernel

end RequestBook.Calendar

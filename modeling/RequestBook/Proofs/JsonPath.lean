import RequestBook.Proofs.Grammar
import RequestBook.Proofs.JsonSorted
import RequestBook.Proofs.JsonText

/-! Paths into JSON bodies. A list of segments is written with points and brackets and read back as it
was, with or without the marks for the root; following the segments one by one leads to the value that a
path extracts, and fails where a segment names nothing. -/
namespace RequestBook

open Text

namespace Text

theorem eq_of_cutAt? {mark : Char} {text before after : List Char}
    (cut : cutAt? mark text = some (before, after)) : text = before ++ mark :: after := by
  induction text generalizing before with
  | nil => cases cut
  | cons c rest ih =>
    rw [cutAt?] at cut
    split at cut
    next same =>
      cases cut
      rw [same]
      rfl
    next =>
      obtain ⟨⟨more, behind⟩, found, eq⟩ := Option.map_eq_some_iff.mp cut
      cases eq
      rw [ih found, List.cons_append]

/-- Cutting at a mark does not depend on what stands behind it. -/
theorem cutAt?_extend {mark : Char} {text before after : List Char}
    (cut : cutAt? mark text = some (before, after)) (more : List Char) :
    cutAt? mark (text ++ more) = some (before, after ++ more) := by
  rw [eq_of_cutAt? cut, List.append_assoc, List.cons_append, cutAt?_append (unmarked_of_cutAt? cut)]

theorem isBlank_of_asciiDigit {c : Char} (digit : isAsciiDigit c = true) : isBlank c = false := by
  have unmarked : Inked [] := by simp [Inked]
  refine isBlank_of_continues unmarked ?_
  simp [continuesIdentifier, digit]

/-- The digits of a number are read as the number. -/
theorem readNat?_natText {bound n : Nat} (below : n < bound) : readNat? bound (natText n) = some n := by
  obtain ⟨c, digits, shown, digit, -⟩ := natText_eq_cons n
  have unsigned : ∀ rest, natText n ≠ '+' :: rest := by
    intro rest same
    rw [shown] at same
    rw [(List.cons.inj same).1] at digit
    cases digit
  have filled : (natText n).isEmpty = false := by
    rw [shown]
    rfl
  have all : (natText n).all isAsciiDigit = true :=
    List.all_eq_true.mpr fun c => isAsciiDigit_of_mem_natText
  unfold readNat?
  split
  next rest same => exact absurd same (unsigned rest)
  next => simp [filled, all, natOfDigits_natText, below]

theorem trim_natText (n : Nat) : trim (natText n) = natText n :=
  (trimmed_of_inked fun _ member => isBlank_of_asciiDigit (isAsciiDigit_of_mem_natText member)).trim_eq

end Text

namespace Json

inductive Leads : Json → Segment → Json → Prop where
  /-- the last of the fields with a name -/
  | field {fields : List (String × Json)} {name : String} {value : Json} : IsLast (name, value) fields →
      Leads (.object fields) (.field name) value
  | index {items : List Json} {position : Nat} {value : Json} : items[position]? = some value →
      Leads (.array items) (.index position) value

inductive Misses : Json → Segment → Prop where
  | missing {fields : List (String × Json)} {name : String} : (∀ field ∈ fields, field.1 ≠ name) →
      Misses (.object fields) (.field name)
  | noObject {value : Json} {name : String} : (∀ fields, value ≠ .object fields) →
      Misses value (.field name)
  | outOfRange {items : List Json} {position : Nat} : items.length ≤ position →
      Misses (.array items) (.index position)
  | noArray {value : Json} {position : Nat} : (∀ items, value ≠ .array items) →
      Misses value (.index position)

inductive Reaches : Json → List Segment → Json → Prop where
  | here {value : Json} : Reaches value [] value
  | step {value next target : Json} {segment : Segment} {rest : List Segment} :
      Leads value segment next → Reaches next rest target → Reaches value (segment :: rest) target

/-- Some segment leads nowhere from where those before it lead to. -/
def Fails (value : Json) (segments : List Segment) : Prop :=
  ∃ done segment rest place, segments = done ++ segment :: rest ∧ Reaches value done place ∧
    Misses place segment

section Steps

variable {value target : Json} {segment : Segment} {segments : List Segment}

theorem step?_eq_some_iff : step? value segment = some target ↔ Leads value segment target := by
  constructor
  · intro found
    cases segment with
    | field name =>
      cases value with
      | object fields => exact .field (field?_eq_some_iff.mp found)
      | _ => cases found
    | index position =>
      cases value with
      | array items => exact .index found
      | _ => cases found
  · rintro (last | found)
    · exact field?_eq_some_iff.mpr last
    · exact found

theorem step?_eq_none_iff : step? value segment = none ↔ Misses value segment := by
  constructor
  · intro none
    cases segment with
    | field name =>
      cases value with
      | object fields => exact .missing (field?_eq_none_iff.mp none)
      | _ => exact .noObject (by simp)
    | index position =>
      cases value with
      | array items => exact .outOfRange (List.getElem?_eq_none_iff.mp none)
      | _ => exact .noArray (by simp)
  · rintro (missing | other | beyond | other)
    · exact field?_eq_none_iff.mpr missing
    · cases value with
      | object fields => exact absurd rfl (other fields)
      | _ => rfl
    · exact List.getElem?_eq_none_iff.mpr beyond
    · cases value with
      | array items => exact absurd rfl (other items)
      | _ => rfl

theorem follow?_cons (value : Json) (segment : Segment) (rest : List Segment) :
    follow? value (segment :: rest) = (step? value segment).bind fun next => follow? next rest :=
  List.foldlM_cons

theorem follow?_eq_some_iff : follow? value segments = some target ↔ Reaches value segments target := by
  induction segments generalizing value with
  | nil =>
    constructor
    · intro found
      cases found
      exact .here
    · intro here
      cases here
      rfl
  | cons segment rest ih =>
    rw [follow?_cons, Option.bind_eq_some_iff]
    constructor
    · rintro ⟨next, found, behind⟩
      exact .step (step?_eq_some_iff.mp found) (ih.mp behind)
    · rintro (_ | ⟨leads, behind⟩)
      exact ⟨_, step?_eq_some_iff.mpr leads, ih.mpr behind⟩

theorem fails_cons_iff {rest : List Segment} : Fails value (segment :: rest) ↔
    Misses value segment ∨ ∃ next, Leads value segment next ∧ Fails next rest := by
  constructor
  · rintro ⟨done, stuck, behind, place, split, reaches, misses⟩
    cases done with
    | nil =>
      cases split
      cases reaches
      exact .inl misses
    | cons first done =>
      cases split
      cases reaches with
      | step leads further => exact .inr ⟨_, leads, done, stuck, behind, place, rfl, further, misses⟩
  · rintro (misses | ⟨next, leads, done, stuck, behind, place, rfl, reaches, misses⟩)
    · exact ⟨[], segment, rest, value, rfl, .here, misses⟩
    · exact ⟨segment :: done, stuck, behind, place, rfl, .step leads reaches, misses⟩

theorem follow?_eq_none_iff : follow? value segments = none ↔ Fails value segments := by
  induction segments generalizing value with
  | nil => simp [follow?, Fails]
  | cons segment rest ih =>
    rw [follow?_cons, Option.bind_eq_none_iff, fails_cons_iff]
    simp only [ih, ← step?_eq_none_iff, ← step?_eq_some_iff]
    cases step? value segment <;> simp

end Steps

/-- A segment that can be written in a path: a name without marks, or an index of 64 bits. -/
def Segment.Writable : Segment → Prop
  | .field name => name ≠ "" ∧ '.' ∉ name.toList ∧ '[' ∉ name.toList
  | .index position => position < unsignedLimit

def Segment.text : Segment → List Char
  | .field name => '.' :: name.toList
  | .index position => '[' :: (natText position ++ [']'])

/-- The path of segments, without marks for the root. No point stands before the first of them. -/
def pathText : List Segment → List Char
  | .field name :: rest => name.toList ++ rest.flatMap Segment.text
  | segments => segments.flatMap Segment.text

/-- The ways to write a path: from the root with a point, from the root if the path begins with an index,
and without a root if that is not mistaken for one. -/
inductive Written (segments : List Segment) : List Char → Prop where
  | pointed : Written segments ('$' :: '.' :: pathText segments)
  | rooted {position : Nat} : segments.head? = some (.index position) →
      Written segments ('$' :: pathText segments)
  | bare : (∀ c ∈ (pathText segments).head?, c ≠ '$' ∧ c ≠ '.' ∧ isBlank c = false) →
      Written segments (pathText segments)

section Reading

/-- The characters of a name are collected. -/
theorem readSegments_name {name : List Char} (point : '.' ∉ name) (bracket : '[' ∉ name)
    (collected rest : List Char) :
    readSegments collected (name ++ rest) = readSegments (name.reverse ++ collected) rest := by
  induction name generalizing collected with
  | nil => rfl
  | cons c name ih =>
    simp only [List.mem_cons, not_or] at point bracket
    rw [List.cons_append, readSegments, ih point.2 bracket.2]
    · simp
    · exact fun same => point.1 same.symm
    · exact fun same => bracket.1 same.symm

theorem readSegments_point (collected rest : List Char) :
    readSegments collected ('.' :: rest) = (readSegments [] rest).map (pendingField collected ++ ·) := by
  rw [readSegments]

/-- What stands between brackets is read as a number. -/
theorem readSegments_bracket {rest inside after : List Char} (cut : cutAt? ']' rest = some (inside, after))
    (collected : List Char) :
    readSegments collected ('[' :: rest) = (readNat? unsignedLimit (trim inside)).bind fun position =>
      (readSegments [] after).map (pendingField collected ++ .index position :: ·) := by
  rw [readSegments]
  split
  next none =>
    rw [cut] at none
    cases none
  next found =>
    rw [cut] at found
    cases found
    split
    next none => rw [none, Option.bind_none]
    next number => rw [number, Option.bind_some]

theorem readSegments_index {position : Nat} (below : position < unsignedLimit) (collected rest : List Char) :
    readSegments collected ('[' :: (natText position ++ ']' :: rest)) =
      (readSegments [] rest).map (pendingField collected ++ .index position :: ·) := by
  have unmarked : ']' ∉ natText position := by
    intro member
    cases isAsciiDigit_of_mem_natText member
  rw [readSegments_bracket (cutAt?_append unmarked rest), trim_natText, readNat?_natText below,
    Option.bind_some]

theorem pendingField_reverse {name : String} (filled : name ≠ "") :
    pendingField name.toList.reverse = [.field name] := by
  simp [pendingField, filled]

/-- What was written behind a segment is read back, and a name before it ends there. -/
theorem readSegments_flatMap {segments : List Segment} (writable : ∀ segment ∈ segments, segment.Writable)
    (collected : List Char) :
    readSegments collected (segments.flatMap Segment.text) = some (pendingField collected ++ segments) := by
  induction segments generalizing collected with
  | nil => rw [List.flatMap_nil, readSegments, List.append_nil]
  | cons segment rest ih =>
    obtain ⟨first, others⟩ := List.forall_mem_cons.mp writable
    cases segment with
    | field name =>
      obtain ⟨filled, point, bracket⟩ := first
      rw [List.flatMap_cons, Segment.text, List.cons_append, readSegments_point,
        readSegments_name point bracket, List.append_nil, ih others, pendingField_reverse filled]
      rfl
    | index position =>
      rw [List.flatMap_cons, Segment.text, List.cons_append, List.append_assoc, List.singleton_append,
        readSegments_index first, ih others]
      rfl

theorem readSegments_pathText {segments : List Segment}
    (writable : ∀ segment ∈ segments, segment.Writable) :
    readSegments [] (pathText segments) = some segments := by
  unfold pathText
  split
  next name rest =>
    obtain ⟨⟨filled, point, bracket⟩, others⟩ := List.forall_mem_cons.mp writable
    rw [readSegments_name point bracket, List.append_nil, readSegments_flatMap others,
      pendingField_reverse filled]
    rfl
  next => exact readSegments_flatMap writable []

/-- A point in front of a path says nothing. -/
theorem readSegments_unpointed (path : List Char) :
    readSegments [] ((dropStart? ['.'] path).getD path) = readSegments [] path := by
  cases pointed : dropStart? ['.'] path with
  | none => rfl
  | some rest =>
    rw [dropStart?_eq_some.mp pointed, Option.getD_some, List.singleton_append, readSegments_point]
    simp [pendingField]

/-- The segments of a path are those behind its dollar sign. -/
theorem path?_eq (path : List Char) :
    path? path = readSegments [] ((dropStart? ['$'] (trim path)).getD (trim path)) :=
  readSegments_unpointed _

theorem path?_rooted {path : List Char} (trimmed : Trimmed ('$' :: path)) :
    path? ('$' :: path) = readSegments [] path := by
  rw [path?_eq, trimmed.trim_eq]
  rfl

theorem path?_unrooted {path : List Char} (trimmed : Trimmed path) (unrooted : path.head? ≠ some '$') :
    path? path = readSegments [] path := by
  have apart : dropStart? ['$'] path = none := by
    refine dropStart?_eq_none ?_
    rintro ⟨rest, rfl⟩
    exact unrooted rfl
  rw [path?_eq, trimmed.trim_eq, apart, Option.getD_none]

theorem path?_written {segments : List Segment} {path : List Char}
    (writable : ∀ segment ∈ segments, segment.Writable)
    (ends : ∀ c ∈ (pathText segments).getLast?, isBlank c = false) (written : Written segments path) :
    path? path = some segments := by
  have reads := readSegments_pathText writable
  have closed : ∀ c ∈ ('$' :: pathText segments).getLast?, isBlank c = false := by
    cases shown : pathText segments with
    | nil => simp [isBlank]
    | cons d rest => rwa [shown] at ends
  cases written with
  | pointed =>
    have trimmed : Trimmed ('$' :: '.' :: pathText segments) := by
      refine ⟨by simp [isBlank], ?_⟩
      cases shown : pathText segments with
      | nil => simp [isBlank]
      | cons d rest => rwa [shown] at ends
    rw [path?_rooted trimmed, readSegments_point, reads]
    rfl
  | rooted => rw [path?_rooted ⟨by simp [isBlank], closed⟩, reads]
  | bare starts =>
    rw [path?_unrooted ⟨fun c first => (starts c first).2.2, ends⟩, reads]
    exact fun first => (starts '$' first).1 rfl

end Reading

/-- What a written path extracts is the text of the value that its segments lead to one by one, and
nothing is extracted exactly when the body is not JSON or one of the segments leads nowhere: a field is
missing, an index is out of range, or a value is of the wrong kind. -/
theorem extract?_written {segments : List Segment} {path : List Char}
    (writable : ∀ segment ∈ segments, segment.Writable)
    (ends : ∀ c ∈ (pathText segments).getLast?, isBlank c = false) (written : Written segments path)
    (body : List Char) :
    (∀ text, extract? body path = some text ↔ ∃ value target, parse? body = some value ∧
      Reaches value segments target ∧ text = target.sorted.plainText) ∧
    (extract? body path = none ↔ parse? body = none ∨ ∃ value, parse? body = some value ∧
      Fails value segments) := by
  have found : extract? body path = (parse? body).bind fun value =>
      (follow? value segments).map fun target => target.sorted.plainText := by
    rw [extract?, path?_written writable ends written]
    simp only [Option.bind_eq_bind, Option.bind_some, follow?_sorted]
    refine Option.bind_congr fun value _ => ?_
    cases follow? value segments <;> rfl
  constructor
  · intro text
    simp only [found, Option.bind_eq_some_iff, Option.map_eq_some_iff, follow?_eq_some_iff]
    constructor
    · rintro ⟨value, read, target, reaches, rfl⟩
      exact ⟨value, target, read, reaches, rfl⟩
    · rintro ⟨value, target, read, reaches, rfl⟩
      exact ⟨value, read, target, reaches, rfl⟩
  · rw [found]
    cases parse? body with
    | none => simp
    | some value => simp [follow?_eq_none_iff]

def nestedBody : List Char := "[\x7b\"a]\":1,\"a]\":\x7b\" b\":[null,\x7b\"z\":2,\"y\":1\x7d]\x7d\x7d]".toList

def nestedTarget : Json := .object [("z", .number (.integer 2)), ("y", .number (.integer 1))]

def nestedValue : Json :=
  .array [.object [("a]", .number (.integer 1)), ("a]", .object [(" b", .array [.null, nestedTarget])])]]

def nestedSegments : List Segment := [.index 0, .field "a]", .field " b", .index 1]

theorem extract?_written_nested : (∀ segment ∈ nestedSegments, segment.Writable) ∧
    (∀ c ∈ (pathText nestedSegments).getLast?, isBlank c = false) ∧
    Written nestedSegments "$[0].a]. b[1]".toList ∧
    extract? nestedBody "$[0].a]. b[1]".toList = some "\x7b\"y\":1,\"z\":2\x7d".toList := by
  have writable : ∀ segment ∈ nestedSegments, segment.Writable := by
    simp [nestedSegments, Segment.Writable, unsignedLimit]
  have ends : ∀ c ∈ (pathText nestedSegments).getLast?, isBlank c = false := by
    have last : (pathText nestedSegments).getLast? = some ']' := by decide
    rw [last]
    simp [isBlank]
  have indexed : nestedSegments.head? = some (.index 0) := rfl
  have written : Written nestedSegments "$[0].a]. b[1]".toList := .rooted indexed
  have small : ∀ n : Nat, n < 3 → ∀ depth, Readable depth (.number (.integer n)) := by
    intro n below depth
    exact .integer (by omega) (by simp only [unsignedLimit]; omega)
  have target : Readable 1 nestedTarget :=
    .object (by simpa using ⟨small 2 (by decide) 0, small 1 (by decide) 0⟩)
  have inner : Readable 2 (.array [.null, nestedTarget]) := .array (by simpa using ⟨.null, target⟩)
  have readable : Readable 5 nestedValue := by
    refine .array (List.forall_mem_singleton.mpr (.object ?_))
    simpa using ⟨small 1 (by decide) 3, .object (List.forall_mem_singleton.mpr inner)⟩
  have read : parse? nestedBody = some nestedValue := parse?_write readable (by decide)
  have reaches : Reaches nestedValue nestedSegments nestedTarget := follow?_eq_some_iff.mp rfl
  refine ⟨writable, ends, written, ?_⟩
  exact ((extract?_written writable ends written nestedBody).1 _).mpr ⟨_, _, read, reaches, by decide +kernel⟩

end Json

end RequestBook

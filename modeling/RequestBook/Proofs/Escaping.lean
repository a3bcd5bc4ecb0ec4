import RequestBook.Proofs.EmptyTags
import RequestBook.Proofs.References
import RequestBook.Proofs.WalkSelection

/-! Escaped texts. Extraction gives an escaped text back, and a text does not change when one of its
characters is written as a reference; white space behind a reference, however, is taken for layout when no
more character data follows. -/
namespace RequestBook.Markup

open Text (isBlank allBlank trimEnd)

def isSpecial (c : Char) : Bool := (predefined? c).isSome

def escapeChar (c : Char) : List Char :=
  match predefined? c with
  | some name => '&' :: (name ++ [';'])
  | none => [c]

def escape (text : List Char) : List Char := text.flatMap escapeChar

/-- What is left of a text that has been escaped: without the white space at its end, where that stands
behind an escaped character. -/
def kept (text : List Char) : List Char :=
  if (trimEnd text).getLast?.any isSpecial then trimEnd text else text

section Kept

variable {front rest : List Char} {c : Char}

/-- Trimming the end does not go beyond a character that is not blank. -/
theorem trimEnd_behind (inked : ∃ c ∈ rest, isBlank c = false) (front : List Char) :
    trimEnd (front ++ rest) = front ++ trimEnd rest := by
  obtain ⟨d, member, ink⟩ := inked
  induction front with
  | nil => rfl
  | cons c front ih =>
    have among : ∃ y ∈ c :: (front ++ rest), isBlank y = false := ⟨d, by simp [member], ink⟩
    exact (rdropWhile_cons among).trans (congrArg (c :: ·) ih)

theorem kept_append (inked : ∃ c ∈ rest, isBlank c = false) (front : List Char) :
    kept (front ++ rest) = front ++ kept rest := by
  have filled : trimEnd rest ≠ [] := by
    obtain ⟨d, member, ink⟩ := inked
    intro none
    have blank := List.rdropWhile_eq_nil_iff.mp none d member
    rw [ink] at blank
    cases blank
  rw [kept, kept, trimEnd_behind inked, List.getLast?_append_of_ne_nil _ filled]
  split <;> rfl

/-- White space behind an escaped character is left out. -/
theorem kept_special (special : isSpecial c = true) (ink : isBlank c = false) (blank : allBlank rest = true)
    (front : List Char) : kept (front ++ c :: rest) = front ++ [c] := by
  have behind : trimEnd rest = [] := List.rdropWhile_eq_nil_iff.mpr (List.all_eq_true.mp blank)
  have trimmed : trimEnd (front ++ c :: rest) = front ++ [c] := by
    have whole : trimEnd ((front ++ [c]) ++ rest) = (front ++ [c]) ++ trimEnd rest :=
      Text.trimEnd_append (by simpa using ink)
    rwa [behind, List.append_assoc, List.append_nil] at whole
  rw [kept, trimmed, if_pos (by simp [special])]

theorem kept_literal (literal : ∀ c ∈ front, isSpecial c = false) : kept front = front := by
  rw [kept, if_neg]
  rw [Option.any_eq_true]
  rintro ⟨c, last, special⟩
  have member : c ∈ front := (List.rdropWhile_prefix isBlank front).subset (List.mem_of_getLast? last)
  rw [literal c member] at special
  cases special

end Kept

/-- The pieces of an escaped text, behind characters that have been read already. -/
def escapedPieces (read : List Char) : List Char → List Event
  | [] => textPiece read
  | c :: rest =>
    match predefined? c with
    | some name => textPiece read ++ .reference name :: escapedPieces [] rest
    | none => escapedPieces (read ++ [c]) rest

section Pieces

variable {read text more : List Char}

theorem isCharacterData_of_literal {c : Char} (literal : predefined? c = none) : isCharacterData c = true := by
  simp only [isCharacterData, Bool.and_eq_true, bne_iff_ne]
  constructor <;> rintro rfl <;> cases literal

theorem readEvents_escape (literal : ∀ c ∈ read, isCharacterData c = true)
    (ends : ∀ c ∈ more.head?, isCharacterData c = false) :
    readEvents (read ++ (escape text ++ more)) = (readEvents more).map (escapedPieces read text ++ ·) := by
  induction text generalizing read with
  | nil => exact readEvents_textPiece literal ends
  | cons c rest ih =>
    rw [escape, List.flatMap_cons, ← escape, List.append_assoc, escapeChar, escapedPieces]
    cases named : predefined? c with
    | some name =>
      have reference : readReference (name ++ ';' :: (escape rest ++ more)) = some (name, escape rest ++ more) :=
        readReference_name (resolveReference?_predefined named).2
      simp only [List.cons_append, List.append_assoc]
      rw [readEvents_textPiece literal (by simp; decide), readEvents_reference (by simpa using reference),
        ← List.nil_append (escape rest ++ more), ih (by simp)]
      simp [Function.comp_def]
    | none =>
      have literal' : ∀ d ∈ read ++ [c], isCharacterData d = true := by
        simpa [or_imp, forall_and] using ⟨literal, isCharacterData_of_literal named⟩
      rw [← ih literal', List.append_assoc]

theorem isTag_textPiece (data : List Char) : ∀ e ∈ textPiece data, e.isTag = false := by
  unfold textPiece
  split <;> simp [Event.isTag]

theorem isTag_reference {events : List Event} (plain : ∀ e ∈ events, e.isTag = false) (data name : List Char) :
    ∀ e ∈ textPiece data ++ .reference name :: events, e.isTag = false := by
  intro e member
  obtain front | rfl | behind := (List.mem_append.mp member).imp_right List.mem_cons.mp
  · exact isTag_textPiece data e front
  · rfl
  · exact plain e behind

theorem isTag_escapedPieces : ∀ e ∈ escapedPieces read text, e.isTag = false := by
  induction text generalizing read with
  | nil => exact isTag_textPiece read
  | cons c rest ih =>
    rw [escapedPieces]
    split
    next name _ => exact isTag_reference ih read name
    next => exact ih

theorem not_speaks_textPiece (blank : allBlank text = true) : ¬ Speaks (textPiece text) := by
  unfold textPiece
  split <;> simp [Speaks, Event.isLayout, blank]

theorem speaks_textPiece (inked : ∃ c ∈ text, isBlank c = false) (events : List Event) :
    Speaks (textPiece text ++ events) := by
  obtain ⟨c, member, ink⟩ := inked
  have visible : allBlank text = false := List.all_eq_false.mpr ⟨c, member, by simp [ink]⟩
  rw [textPiece, if_neg (List.ne_nil_of_mem member)]
  exact speaks_cons.mpr (.inl ⟨rfl, visible⟩)

/-- Character data is said where there is none, or where something else than white space follows. -/
theorem characterData_textPiece {events : List Event} (speaks : text = [] ∨ Speaks (textPiece text ++ events)) :
    characterData (textPiece text ++ events) = text ++ characterData events := by
  by_cases empty : text = []
  · simp [textPiece, empty]
  · have speaks' := speaks.resolve_left empty
    rw [textPiece, if_neg empty, List.singleton_append] at speaks' ⊢
    exact characterData_cons speaks'

section Reference

variable {name : List Char} {c : Char}

theorem data?_reference (resolved : resolveReference? name = some c) :
    (Event.reference name).data? = some [c] := by
  rw [Event.data?, resolved]
  rfl

theorem speaks_of_reference (resolved : resolveReference? name = some c) (events others : List Event) :
    Speaks (events ++ .reference name :: others) :=
  ⟨_, List.mem_append_right events List.mem_cons_self, by rw [data?_reference resolved]; rfl, rfl⟩

theorem characterData_reference (resolved : resolveReference? name = some c) (events : List Event) :
    characterData (textPiece text ++ .reference name :: events) = text ++ c :: characterData events := by
  rw [characterData_textPiece (.inr (speaks_of_reference resolved _ events)),
    characterData_cons (speaks_of_reference resolved [] events), data?_reference resolved]
  rfl

end Reference

theorem escapedPieces_literal (literal : ∀ c ∈ text, predefined? c = none) :
    escapedPieces read text = textPiece (read ++ text) := by
  induction text generalizing read with
  | nil => rw [escapedPieces, List.append_nil]
  | cons c rest ih =>
    obtain ⟨first, others⟩ := List.forall_mem_cons.mp literal
    rw [escapedPieces, first]
    exact (ih others).trans (by rw [List.append_assoc]; rfl)

theorem isBlank_of_special {c : Char} (special : isSpecial c = true) : isBlank c = false := by
  unfold isSpecial predefined? at special
  split at special <;> first | rfl | cases special

/-- The character data of an escaped text is what is kept of it. -/
theorem characterData_escapedPieces (literal : ∀ c ∈ read, isSpecial c = false)
    (inked : ∃ c ∈ read ++ text, isBlank c = false) :
    characterData (escapedPieces read text) = kept (read ++ text) := by
  induction text generalizing read with
  | nil =>
    rw [List.append_nil] at inked ⊢
    have said := characterData_textPiece (.inr (speaks_textPiece inked []))
    rw [List.append_nil] at said
    rw [escapedPieces, said, kept_literal literal]
    exact List.append_nil _
  | cons c rest ih =>
    rw [escapedPieces]
    cases named : predefined? c with
    | some name =>
      have special : isSpecial c = true := by rw [isSpecial, named]; rfl
      have ink := isBlank_of_special special
      change characterData (textPiece read ++ .reference name :: escapedPieces [] rest) = _
      rw [characterData_reference (resolveReference?_predefined named).1]
      by_cases blank : allBlank rest = true
      · have plain : ∀ d ∈ rest, predefined? d = none := fun d member => by
          by_contra special'
          have white := List.all_eq_true.mp blank d member
          rw [isBlank_of_special (Option.isSome_iff_ne_none.mpr special')] at white
          cases white
        have silent : ¬ Speaks (escapedPieces [] rest) := by
          rw [escapedPieces_literal plain]
          exact not_speaks_textPiece blank
        rw [characterData_of_silent silent, kept_special special ink blank]
      · have inked' : ∃ d ∈ rest, isBlank d = false := by simpa [allBlank] using blank
        rw [ih (by simp) inked', List.nil_append, ← List.singleton_append, ← List.append_assoc,
          ← kept_append inked', List.append_assoc]
        rfl
    | none =>
      have plain : isSpecial c = false := by rw [isSpecial, named]; rfl
      rw [List.append_cons read c rest] at inked ⊢
      exact ih (by simpa [or_imp, forall_and] using ⟨literal, plain⟩) inked

end Pieces

section Extraction

variable {text : List Char}

theorem events?_escape (text : List Char) : events? ("<r>".toList ++ escape text ++ "</r>".toList) =
    some (.start ⟨"r", []⟩ :: (escapedPieces [] text ++ [.finish "r"])) := by
  have tag : readMarkup "r>".toList = some (.start ⟨"r", []⟩, []) := by decide +kernel
  have opening : readMarkup ("r>".toList ++ (escape text ++ "</r>".toList)) =
      some (.start ⟨"r", []⟩, escape text ++ "</r>".toList) := readMarkup_append _ tag
  have closing : readEvents "</r>".toList = some [.finish "r"] := by decide +kernel
  have inside : readEvents ([] ++ (escape text ++ "</r>".toList)) = _ :=
    readEvents_escape (by simp) (by simp; decide)
  rw [List.nil_append, closing] at inside
  have read := readEvents_markup opening
  rw [inside] at read
  simpa [events?, Text.dropStart?] using read

/-- An escaped text in an element is given back, without white space at its end that stands behind an
escaped character. -/
theorem extract?_element (inked : ∃ c ∈ text, isBlank c = false) :
    extract? ("<r>".toList ++ escape text ++ "</r>".toList) "/r".toList = some (kept text) := by
  have plain : ∀ e ∈ escapedPieces [] text, e.isTag = false := isTag_escapedPieces
  let whole : List Event := [.start ⟨"r", []⟩, .cdata (kept text), .finish "r"]
  have tags : (.start ⟨"r", []⟩ :: (escapedPieces [] text ++ [.finish "r"])).filter Event.isTag =
      whole.filter Event.isTag := by
    have none : (escapedPieces [] text).filter Event.isTag = [] :=
      List.filter_eq_nil_iff.mpr fun e member => by simp [plain e member]
    simp [whole, List.filter_cons, List.filter_append, none, Event.isTag]
  have walk : spoken (.start ⟨"r", []⟩ :: (escapedPieces [] text ++ [.finish "r"])) = spoken whole := by
    have said : characterData (escapedPieces [] text) = kept text := characterData_escapedPieces (by simp) inked
    have single : ∀ e ∈ [Event.cdata (kept text)], e.isTag = false := by simp [Event.isTag]
    have whole' : spoken whole = _ := spoken_leaf single ⟨"r", []⟩ "r"
    rw [spoken_leaf plain, said, whole', characterData_cons (speaks_cons.mpr (.inl ⟨rfl, rfl⟩))]
    simp [Event.data?, characterData]
  have made : document? whole = some ⟨⟨"", []⟩, [.element ⟨"r", []⟩ [.text (kept text)]]⟩ := by
    simp [whole, document?, Building.run, Building.feed, Building.start, Building.addText, Unclosed.add, maxOpen,
      Element.elements, Node.element?]
  have steps : query? "/r".toList = some [.element .child "r" none] := by decide +kernel
  rw [extract?_eq (events?_escape text), steps, Option.bind_some, select?_document tags walk, made]
  simp [select?, selectFrom, Axis.candidates, Element.elements, Node.element?, passes, Element.textContent,
    textOf, Node.textContent]

/-- An attribute in double quotes is read, and reading goes on behind it. -/
theorem readAttributes_quoted {seen : List (List Char)} {c : Char} {rest value : List Char}
    (first : isSpace c = false) (inner : ∀ d ∈ rest, isNameInner d = true) (fresh : c :: rest ∉ seen)
    (unquoted : '"' ∉ value) (after : List Char) :
    readAttributes seen (' ' :: c :: (rest ++ '=' :: '"' :: (value ++ '"' :: after))) =
      (c :: rest, value) :: readAttributes ((c :: rest) :: seen) after := by
  have begun : (' ' :: c :: (rest ++ '=' :: '"' :: (value ++ '"' :: after))).dropWhile isSpace =
      c :: (rest ++ '=' :: '"' :: (value ++ '"' :: after)) := by
    rw [List.dropWhile_cons_of_pos rfl, List.dropWhile_cons_of_neg (by simp [first])]
  have named : (rest ++ '=' :: '"' :: (value ++ '"' :: after)).takeWhile isNameInner = rest := by
    rw [List.takeWhile_append_of_pos inner, List.takeWhile_cons_of_neg (by decide), List.append_nil]
  have assigned : ((rest ++ '=' :: '"' :: (value ++ '"' :: after)).dropWhile isNameInner).dropWhile isSpace =
      '=' :: '"' :: (value ++ '"' :: after) := by
    rw [List.dropWhile_append_of_pos inner, List.dropWhile_cons_of_neg (by decide),
      List.dropWhile_cons_of_neg (by decide)]
  have closed := Text.cutAt?_append unquoted after
  have unseen : seen.contains (c :: rest) = false := by simpa using fresh
  rw [readAttributes]
  split
  next none => cases begun.symm.trans none
  next begins =>
    cases begun.symm.trans begins
    dsimp only
    split
    next none => cases assigned.symm.trans none
    next sign =>
      cases assigned.symm.trans sign
      rw [named, unseen]
      simp only [Bool.false_eq_true, if_false]
      split
      next none => cases none
      next opens =>
        cases opens
        rw [if_pos (.inl rfl)]
        split
        next none => cases closed.symm.trans none
        next closes =>
          cases closed.symm.trans closes
          rfl
    next other sign =>
      cases assigned.symm.trans sign
      exact absurd rfl other

def attributed (value : List Char) (unquoted : '"' ∉ value) : Spelling where
  name := ['r']
  attributes := ' ' :: 'a' :: '=' :: '"' :: (value ++ ['"'])
  named := by simp
  first := by simp
  plain := by simp [isSpace]
  apart := by simp [isSpace]
  enclosed := .plain (by decide) (by decide) (by decide) <| .plain (by decide) (by decide) (by decide) <|
    .plain (by decide) (by decide) (by decide) <| .quoted (.inl rfl) unquoted .nil
  last := by
    have shown : ['r'] ++ ' ' :: 'a' :: '=' :: '"' :: (value ++ ['"']) =
        ['r', ' ', 'a', '=', '"'] ++ value ++ ['"'] := by simp
    rw [shown]
    rintro ⟨front, whole⟩
    have same := congrArg List.getLast? whole
    rw [List.getLast?_concat, List.getLast?_concat] at same
    cases same

theorem attributed_tag {value : List Char} (unquoted : '"' ∉ value) :
    (attributed value unquoted).tag = ⟨"r", [("a", String.ofList value)]⟩ := by
  have read : readAttributes [] (' ' :: 'a' :: '=' :: '"' :: (value ++ ['"'])) = [(['a'], value)] := by
    have done : readAttributes [['a']] [] = [] := by rw [readAttributes]; rfl
    rw [← done]
    exact readAttributes_quoted rfl (List.forall_mem_nil _) (List.not_mem_nil) unquoted []
  have name : (attributed value unquoted).name = ['r'] := rfl
  rw [Spelling.tag, name, Tag.ofContent]
  simp only [attributed, List.singleton_append]
  rw [List.takeWhile_cons_of_pos (by decide), List.takeWhile_cons_of_neg (by decide),
    List.dropWhile_cons_of_pos (by decide), List.dropWhile_cons_of_neg (by decide), read]
  rfl

/-- A value without special characters is given back from an attribute. -/
theorem extract?_attribute (literal : ∀ c ∈ text, isSpecial c = false) :
    extract? ("<r a=\"".toList ++ escape text ++ "\"/>".toList) "/r/@a".toList = some text := by
  have unquoted : '"' ∉ text := fun member => by cases literal _ member
  have unescaped : escape text = text := by
    have same : ∀ c ∈ text, escapeChar c = [c] := fun c member => by
      have unnamed : predefined? c = none := by simpa [isSpecial] using literal c member
      rw [escapeChar, unnamed]
    rw [escape, List.flatMap_congr same, List.flatMap_singleton']
  have body : "<r a=\"".toList ++ escape text ++ "\"/>".toList = (attributed text unquoted).empty := by
    simp [unescaped, Spelling.empty, attributed]
  have read : events? (attributed text unquoted).empty = some [.empty ⟨"r", [("a", String.ofList text)]⟩] := by
    have read := (attributed text unquoted).readEvents_empty []
    rw [List.append_nil, readEvents, attributed_tag] at read
    exact read
  have steps : query? "/r/@a".toList = some [.element .child "r" none, .attribute "a"] := by decide +kernel
  rw [body, extract?_eq read, steps, Option.bind_some]
  simp [document?, Building.run, Building.feed, Building.start, Unclosed.add, select?, selectFrom,
    Axis.candidates, Element.elements, Node.element?, passes, Tag.attribute?]

end Extraction

end RequestBook.Markup

import RequestBook.Proofs.PieceReading
import RequestBook.Proofs.TagNesting

/-! Empty tags and pairs of tags. An empty tag says the same as an opening tag with its closing tag right
behind it, but only the pair counts against the number of open elements. -/
namespace RequestBook.Markup

/-- Text with closing brackets only inside quotes, and with every quote closed. -/
inductive Enclosed : List Char → Prop where
  | nil : Enclosed []
  | plain {c : Char} {rest : List Char} : c ≠ '>' → c ≠ '"' → c ≠ '\'' → Enclosed rest → Enclosed (c :: rest)
  | quoted {quote : Char} {inside rest : List Char} :
      quote = '"' ∨ quote = '\'' → quote ∉ inside → Enclosed rest → Enclosed (quote :: (inside ++ quote :: rest))

/-- What an element's tag is made of: its name, and behind it its attributes, set off by white space. -/
structure Spelling where
  name : List Char
  attributes : List Char
  named : name ≠ []
  /-- A slash, an exclamation mark or a question mark at the front makes another kind of markup. -/
  first : ∀ c ∈ name.head?, c ≠ '/' ∧ c ≠ '!' ∧ c ≠ '?'
  plain : ∀ c ∈ name, isSpace c = false ∧ c ≠ '>' ∧ c ≠ '"' ∧ c ≠ '\''
  apart : ∀ c ∈ attributes.head?, isSpace c = true
  enclosed : Enclosed attributes
  /-- A slash at the end makes an empty tag. -/
  last : ¬ ['/'] <:+ name ++ attributes

namespace Spelling

def tag (s : Spelling) : Tag := Tag.ofContent (s.name ++ s.attributes)

def empty (s : Spelling) : List Char := '<' :: (s.name ++ s.attributes ++ "/>".toList)

def pair (s : Spelling) : List Char :=
  '<' :: (s.name ++ s.attributes ++ '>' :: '<' :: '/' :: (s.name ++ ['>']))

end Spelling

section Reading

variable {content after rest : List Char}

theorem tagContent?_quoted {quote : Char} (inside : List Char) (unquoted : quote ∉ inside)
    (read : tagContent? none rest = some (content, after)) :
    tagContent? (some quote) (inside ++ quote :: rest) = some (inside ++ quote :: content, after) := by
  induction inside with
  | nil => simp [tagContent?, read, Text.keeping]
  | cons c inside ih =>
    obtain ⟨other, unquoted'⟩ := not_or.mp fun either => unquoted (List.mem_cons.mpr either)
    simp [tagContent?, Ne.symm other, ih unquoted', Text.keeping]

/-- The text of a tag ends at the first closing bracket outside quotes. -/
theorem Enclosed.tagContent? (enclosed : Enclosed content) (after : List Char) :
    tagContent? none (content ++ '>' :: after) = some (content, after) := by
  induction enclosed with
  | nil => rfl
  | plain open' double single _ ih => simp [Markup.tagContent?, open', double, single, ih, Text.keeping]
  | @quoted quote inside rest quotes unquoted _ ih =>
    have other : quote ≠ '>' := by rintro rfl; simp at quotes
    rw [List.cons_append, List.append_assoc, List.cons_append, Markup.tagContent?]
    simp only [if_neg other, if_pos quotes]
    rw [tagContent?_quoted inside unquoted ih]
    rfl

theorem Enclosed.append {first second : List Char} (left : Enclosed first) (right : Enclosed second) :
    Enclosed (first ++ second) := by
  induction left with
  | nil => exact right
  | plain open' double single _ ih => exact .plain open' double single ih
  | quoted quotes unquoted _ ih =>
    rw [List.cons_append, List.append_assoc]
    exact .quoted quotes unquoted ih

theorem enclosed_of_plain (plain : ∀ c ∈ content, c ≠ '>' ∧ c ≠ '"' ∧ c ≠ '\'') : Enclosed content := by
  induction content with
  | nil => exact .nil
  | cons c rest ih =>
    obtain ⟨⟨open', double, single⟩, others⟩ := List.forall_mem_cons.mp plain
    exact .plain open' double single (ih others)

theorem openingTag_slash (content : List Char) :
    openingTag (content ++ ['/']) = .empty (Tag.ofContent content) := by
  simp [openingTag, Text.dropEnd?, Text.dropStart?]

theorem openingTag_of_not_slash (last : ¬ ['/'] <:+ content) :
    openingTag content = .start (Tag.ofContent content) := by
  have apart : Text.dropStart? ['/'].reverse content.reverse = none :=
    Text.dropStart?_eq_none fun slash => last (List.reverse_prefix.mp slash)
  rw [openingTag, Text.dropEnd?, apart]
  rfl

theorem closingTag_of_name (plain : ∀ c ∈ content, isSpace c = false) :
    closingTag content = .finish (String.ofList content) := by
  have kept : content.reverse.dropWhile isSpace = content.reverse := by
    rw [List.dropWhile_eq_self_iff]
    intro filled
    simp [plain _ (List.mem_reverse.mp (List.getElem_mem filled)), -List.getElem_reverse]
  rw [closingTag, kept, List.reverse_reverse, ite_self]

end Reading

namespace Spelling

variable (s : Spelling) (after : List Char)

theorem enclosed_name : Enclosed s.name := enclosed_of_plain fun c member => (s.plain c member).2

theorem tag_name : s.tag.name = String.ofList s.name := by
  have names : ∀ c ∈ s.name, (!isSpace c) = true := fun c member => by simp [(s.plain c member).1]
  have stop : s.attributes.takeWhile (fun c => !isSpace c) = [] := by
    cases attributes : s.attributes with
    | nil => rfl
    | cons c rest => exact List.takeWhile_cons_of_neg (by simp [s.apart c (by simp [attributes])])
  rw [tag, Tag.ofContent, List.takeWhile_append_of_pos names, stop, List.append_nil]

/-- A tag is read from its name on. -/
theorem readMarkup_tag (slash : List Char) (enclosed : Enclosed slash) :
    readMarkup (s.name ++ s.attributes ++ slash ++ '>' :: after) =
      some (openingTag (s.name ++ s.attributes ++ slash), after) := by
  have read := ((s.enclosed_name.append s.enclosed).append enclosed).tagContent? after
  cases name : s.name with
  | nil => exact absurd name s.named
  | cons c rest =>
    obtain ⟨noSlash, noMark, noQuestion⟩ := s.first c (by simp [name])
    simp only [name, List.cons_append] at read ⊢
    rw [readMarkup_opening noSlash noMark noQuestion, read]
    rfl

theorem readEvents_empty :
    readEvents (s.empty ++ after) = (readEvents after).map (.empty s.tag :: ·) := by
  have slash : Enclosed ['/'] := .plain (by decide) (by decide) (by decide) .nil
  have read := s.readMarkup_tag after ['/'] slash
  rw [openingTag_slash] at read
  simpa [empty, tag] using readEvents_markup read

theorem readEvents_pair :
    readEvents (s.pair ++ after) = (readEvents after).map (.start s.tag :: .finish s.tag.name :: ·) := by
  have opening := s.readMarkup_tag ('<' :: '/' :: (s.name ++ '>' :: after)) [] .nil
  rw [List.append_nil, openingTag_of_not_slash s.last] at opening
  have closing : readMarkup ('/' :: (s.name ++ '>' :: after)) = some (.finish s.tag.name, after) := by
    rw [readMarkup, s.enclosed_name.tagContent? after, s.tag_name,
      ← closingTag_of_name fun c member => (s.plain c member).1]
    rfl
  have read := readEvents_markup opening
  rw [readEvents_markup closing, Option.map_map] at read
  simpa [pair, tag, Function.comp_def] using read

end Spelling

def openAfter (events : List Event) : Nat := events.countP Event.opens - events.countP Event.closes

namespace Building

variable {next : Building} {events : List Event}

theorem outer_length_run (built : start.run events = some next) : next.outer.length = openAfter events := by
  have counted := frames_length_run built
  have one : start.frames.length = 1 := rfl
  simp only [frames, List.length_map, List.length_cons, openAfter] at *
  omega

/-- A pair of tags with nothing between them builds what an empty tag builds, where another element may open. -/
theorem run_pair (b : Building) (tag : Tag) (events : List Event) :
    b.run (.start tag :: .finish tag.name :: events) =
      if b.outer.length < 128 then b.run (.empty tag :: events) else none := by
  by_cases room : b.outer.length < 128
  · simp [run_cons, feed, maxOpen, room]
  · simp [run_cons, feed, maxOpen, room]

end Building

theorem document?_pair (before : List Event) (tag : Tag) (after : List Event) :
    document? (before ++ .start tag :: .finish tag.name :: after) =
      if openAfter before < 128 then document? (before ++ .empty tag :: after) else none := by
  simp only [document?, Building.run_append]
  cases built : Building.start.run before with
  | none => simp
  | some b =>
    rw [Option.bind_some, Option.bind_some, Building.run_pair, Building.outer_length_run built]
    by_cases room : openAfter before < 128
    · rw [if_pos room, if_pos room]
    · rw [if_neg room, if_neg room]

/-- An element written as a pair of tags gives the text that it gives as an empty tag, and nothing where 128
elements are open already; the empty tag is taken there. -/
theorem extract?_pair (s : Spelling) {before : List Char} {pieces : List Event}
    (read : events? before = some pieces) (after path : List Char) :
    extract? (before ++ s.pair ++ after) path =
      if openAfter pieces < 128 then extract? (before ++ s.empty ++ after) path else none := by
  obtain ⟨start, read', behind⟩ := events?_append read
  have tagged (tag : List Char) (markup : tag.head? = some '<') :
      events? (before ++ tag ++ after) = (readEvents (tag ++ after)).map (pieces ++ ·) := by
    have head : (tag ++ after).head? = some '<' := by simp [List.head?_append, markup]
    rw [List.append_assoc, behind (tag ++ after) (.inr (by simp [head])),
      readEvents_append_markup read' (by simp [head]; decide)]
  rw [extract?, extract?, parse?, parse?, tagged s.pair rfl, tagged s.empty rfl,
    s.readEvents_pair, s.readEvents_empty]
  cases readEvents after with
  | none => simp
  | some rest =>
    simp only [Option.map_some, Option.bind_some, document?_pair]
    cases query? path with
    | none => simp
    | some steps =>
      by_cases room : openAfter pieces < 128
      · rw [if_pos room, if_pos room]
      · rw [if_neg room, if_neg room]
        rfl

theorem extract?_pair_quoted :
    let x : Spelling := {
      name := ['x']
      attributes := " k='>'".toList
      named := by simp
      first := by simp
      plain := by simp [isSpace]
      apart := by simp [isSpace]
      enclosed := .plain (by decide) (by decide) (by decide) <| .plain (by decide) (by decide) (by decide) <|
        .plain (by decide) (by decide) (by decide) <| .quoted (.inr rfl) (by decide : '\'' ∉ ['>']) .nil
      last := by decide }
    extract? ("<r>u".toList ++ x.pair ++ " v</r>".toList) "/r/x/@k".toList = some ">".toList := by
  intro x
  have read : events? "<r>u".toList = some [.start ⟨"r", []⟩, .text "u".toList] := by decide +kernel
  rw [extract?_pair x read " v</r>".toList "/r/x/@k".toList, if_pos (by decide)]
  decide +kernel

/-- Within 128 open elements an empty tag is taken and its pair of tags is not. -/
theorem extract?_empty_at_limit :
    let x : Spelling := {
      name := ['x']
      attributes := []
      named := by simp
      first := by simp
      plain := by simp [isSpace]
      apart := by simp [isSpace]
      enclosed := .nil
      last := by decide }
    let before := (List.replicate 128 "<a>".toList).flatten
    let after := 'v' :: (List.replicate 128 "</a>".toList).flatten
    (events? before).isSome ∧ extract? (before ++ x.empty ++ after) "/a".toList = some ['v'] ∧
      extract? (before ++ x.pair ++ after) "/a".toList = none := by
  decide +kernel

end RequestBook.Markup

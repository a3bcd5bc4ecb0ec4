import RequestBook.Document.Reading
import RequestBook.Proofs.Lines

/-! The canonical text of a request book, and that reading it gives back what was written. Between
two separators stand the lines of one request and nothing else, perhaps with blank lines behind them,
so a block holds its request whole and nothing in it is reported. -/
namespace RequestBook

open Text

structure Entry where
  title : Option String
  comments : List String
  name : Option String
  bindings : Variables
  method : String
  url : String
  version : Option String
  headers : Headers
  body : Option Body

/-- What is written of a document: all but what is found out when it is read. -/
structure Outline where
  bindings : Variables
  entries : List Entry

def Request.entry (r : Request) : Entry :=
  ⟨r.title, r.comments, r.name, r.bindings, r.method, r.url, r.version, r.headers, r.body⟩

def Document.outline (d : Document) : Outline := ⟨d.bindings, d.requests.map Request.entry⟩

def Body.lines : Body → List (List Char)
  | .inline text => splitAll '\n' text.toList
  | .file path => [Line.ofFile path]

namespace Entry

def opening (e : Entry) : List (List Char) :=
  e.comments.map Line.ofComment ++ (e.name.toList.map Line.ofName ++
    e.bindings.entries.map Line.ofDeclaration)

def closing (e : Entry) : List (List Char) :=
  match e.body with
  | none => []
  | some body => [] :: body.lines

def lines (e : Entry) : List (List Char) :=
  e.opening ++ Line.ofRequest e.method e.url e.version ::
    (e.headers.entries.map Line.ofHeader ++ e.closing)

end Entry

namespace Outline

def lines (o : Outline) : List (List Char) :=
  o.bindings.entries.map Line.ofDeclaration ++
    o.entries.flatMap fun e => Line.ofSeparator e.title :: e.lines

def text (o : Outline) : String := String.ofList (joinWith ['\n'] o.lines)

end Outline

/-- A body that is told from the lines around it: none of its lines separates, the last one is not
blank, and the first one that is not blank refers to no file. -/
def Body.Writable : Body → Prop
  | .inline text => '\r' ∉ text.toList ∧
      (∀ line ∈ splitAll '\n' text.toList, Line.separatorTitle? line = none) ∧
      (∀ line ∈ (splitAll '\n' text.toList).getLast?, allBlank line = false) ∧
      ∀ line ∈ (splitAll '\n' text.toList).find? (fun line => !allBlank line),
        Reading.fileReference? line = none
  | .file path => path.toList ≠ [] ∧ Neat path.toList

structure Entry.Writable (table : MethodTable) (e : Entry) : Prop where
  title : ∀ title ∈ e.title, title.toList ≠ [] ∧ Neat title.toList
  comments : ∀ text ∈ e.comments, Neat text.toList ∧ ¬ Line.NamesRequest text.toList
  name : ∀ name ∈ e.name, IsIdentifier requestMarks name.toList
  bindings : ∀ binding ∈ e.bindings.entries, Line.Declarable binding
  method : table.contains e.method = true
  url : e.url.toList ≠ [] ∧ Line.Target e.url.toList ∧ Unbroken e.url.toList
  version : ∀ version ∈ e.version, Line.Version version.toList
  headers : ∀ header ∈ e.headers.entries, Line.Writable header
  body : ∀ body ∈ e.body, body.Writable

structure Outline.Writable (table : MethodTable) (o : Outline) : Prop where
  bindings : ∀ binding ∈ o.bindings.entries, Line.Declarable binding
  entries : ∀ e ∈ o.entries, e.Writable table
  /-- variables that the first request declares would be those of the file -/
  first : ∀ e ∈ o.entries.head?, e.bindings.entries = []

namespace Text

theorem splitAll_ne_nil (mark : Char) (text : List Char) : splitAll mark text ≠ [] := by
  cases text with
  | nil => simp [splitAll]
  | cons c rest =>
    rw [splitAll]
    split
    · simp
    · split <;> simp

theorem joinWith_splitAll (mark : Char) (text : List Char) :
    joinWith [mark] (splitAll mark text) = text := by
  unfold joinWith
  induction text with
  | nil => rfl
  | cons c rest ih =>
    rw [splitAll]
    cases parts : splitAll mark rest with
    | nil => exact absurd parts (splitAll_ne_nil mark rest)
    | cons part parts' =>
      rw [parts] at ih
      split
      next same =>
        rw [same, ← ih]
        simp [List.intercalate]
      next =>
        rw [← ih]
        cases parts' <;> simp [List.intercalate]

/-- The texts between the marks hold none, and nothing that was not there. -/
theorem mem_splitAll {mark : Char} {text part : List Char} (member : part ∈ splitAll mark text) :
    ∀ c ∈ part, c ∈ text ∧ c ≠ mark := by
  induction text generalizing part with
  | nil =>
    simp [splitAll] at member
    simp [member]
  | cons c rest ih =>
    rw [splitAll] at member
    split at member
    next same =>
      rcases List.mem_cons.mp member with rfl | later
      · simp
      · intro d inside
        exact ⟨List.mem_cons_of_mem _ (ih later d inside).1, (ih later d inside).2⟩
    next other =>
      cases parts : splitAll mark rest with
      | nil => exact absurd parts (splitAll_ne_nil mark rest)
      | cons first more =>
        rw [parts] at member ih
        rcases List.mem_cons.mp member with rfl | later
        · intro d inside
          rcases List.mem_cons.mp inside with rfl | inside
          · exact ⟨List.mem_cons_self, other⟩
          · have found := ih List.mem_cons_self d inside
            exact ⟨List.mem_cons_of_mem _ found.1, found.2⟩
        · intro d inside
          have found := ih (List.mem_cons_of_mem _ later) d inside
          exact ⟨List.mem_cons_of_mem _ found.1, found.2⟩

theorem splitAll_unmarked {mark : Char} {part : List Char} (unmarked : mark ∉ part) :
    splitAll mark part = [part] := by
  induction part with
  | nil => rfl
  | cons c rest ih =>
    simp only [List.mem_cons, not_or] at unmarked
    rw [splitAll, if_neg (Ne.symm unmarked.1), ih unmarked.2]

theorem splitAll_append {mark : Char} {part : List Char} (unmarked : mark ∉ part) (rest : List Char) :
    splitAll mark (part ++ mark :: rest) = part :: splitAll mark rest := by
  induction part with
  | nil => rw [List.nil_append, splitAll, if_pos rfl]
  | cons c more ih =>
    simp only [List.mem_cons, not_or] at unmarked
    rw [List.cons_append, splitAll, if_neg (Ne.symm unmarked.1), ih unmarked.2]

theorem joinWith_cons_cons (glue first second : List Char) (parts : List (List Char)) :
    joinWith glue (first :: second :: parts) = first ++ (glue ++ joinWith glue (second :: parts)) := by
  simp [joinWith, List.intercalate]

theorem mem_joinWith {glue : List Char} {parts : List (List Char)} {c : Char}
    (member : c ∈ joinWith glue parts) : c ∈ glue ∨ ∃ part ∈ parts, c ∈ part := by
  induction parts with
  | nil => cases member
  | cons part parts ih =>
    cases parts with
    | nil =>
      rw [joinWith, List.intercalate_singleton] at member
      exact .inr ⟨part, List.mem_cons_self, member⟩
    | cons next parts =>
      rw [joinWith_cons_cons] at member
      rcases List.mem_append.mp member with first | member
      · exact .inr ⟨part, List.mem_cons_self, first⟩
      rcases List.mem_append.mp member with between | later
      · exact .inl between
      · exact (ih later).imp_right fun ⟨other, inside, own⟩ => ⟨other, List.mem_cons_of_mem _ inside, own⟩

/-- Parts without the mark are told apart again. -/
theorem splitAll_joinWith {mark : Char} {parts : List (List Char)} (filled : parts ≠ [])
    (unmarked : ∀ part ∈ parts, mark ∉ part) : splitAll mark (joinWith [mark] parts) = parts := by
  induction parts with
  | nil => contradiction
  | cons part parts ih =>
    obtain ⟨first, others⟩ := List.forall_mem_cons.mp unmarked
    cases parts with
    | nil => simpa [joinWith] using splitAll_unmarked first
    | cons next parts =>
      rw [joinWith_cons_cons, List.singleton_append, splitAll_append first, ih (by simp) others]

/-- A line reaches to the line end behind it. -/
theorem lines_behind {line rest : List Char} {more : List (List Char)} (unbroken : Unbroken line)
    (ends : lines rest = [] :: more) : lines (line ++ rest) = line :: more := by
  induction line with
  | nil => exact ends
  | cons c line ih =>
    obtain ⟨plain, others⟩ := List.forall_mem_cons.mp unbroken
    rw [List.cons_append, lines, if_neg (not_or.mpr plain), ih others]
    intro behind eq
    exact absurd eq plain.1

theorem lines_unbroken {line : List Char} (unbroken : Unbroken line) : lines line = [line] := by
  have alone := @lines_behind line [] [] unbroken rfl
  rwa [List.append_nil] at alone

theorem lines_append {line : List Char} (unbroken : Unbroken line) (rest : List Char) :
    lines (line ++ '\n' :: rest) = line :: lines rest :=
  lines_behind unbroken (by simp [lines])

theorem lines_replicate (extra : Nat) :
    lines (List.replicate extra '\n') = List.replicate (extra + 1) [] := by
  induction extra with
  | zero => rfl
  | succ extra ih => simp [List.replicate_succ, lines] at ih ⊢; exact ih

/-- The lines of a text that was joined from lines, with line feeds behind it. -/
theorem lines_joinWith {parts : List (List Char)} (unbroken : ∀ part ∈ parts, Unbroken part) (extra : Nat) :
    ∃ count, lines (joinWith ['\n'] parts ++ List.replicate extra '\n') =
      parts ++ List.replicate count [] := by
  induction parts with
  | nil => exact ⟨extra + 1, lines_replicate extra⟩
  | cons part parts ih =>
    obtain ⟨first, others⟩ := List.forall_mem_cons.mp unbroken
    cases parts with
    | nil =>
      refine ⟨extra, ?_⟩
      rw [joinWith, List.intercalate_singleton]
      cases extra with
      | zero => simpa using lines_unbroken first
      | succ extra => rw [List.replicate_succ, lines_append first, lines_replicate]; rfl
    | cons next parts =>
      obtain ⟨count, rest⟩ := ih others
      refine ⟨count, ?_⟩
      rw [joinWith_cons_cons, List.append_assoc, List.append_assoc, List.singleton_append,
        lines_append first, rest]
      rfl

end Text

namespace Entry

variable {table : MethodTable} {e : Entry}

def kinds (e : Entry) : List LineKind :=
  e.comments.map .comment ++ (e.name.toList.map .nameDirective ++
    e.bindings.entries.map fun binding => .declaration binding.1 binding.2)

theorem classify_opening (writable : e.Writable table) : e.opening.map (Line.classify table) = e.kinds := by
  have comments : (e.comments.map Line.ofComment).map (Line.classify table) = e.comments.map .comment := by
    rw [List.map_map]
    refine List.map_congr_left fun text member => ?_
    obtain ⟨neat, silent⟩ := writable.comments text member
    rw [Function.comp_apply, Line.classify_ofComment neat.1 silent]
  have names : (e.name.toList.map Line.ofName).map (Line.classify table) =
      e.name.toList.map .nameDirective := by
    rw [List.map_map]
    refine List.map_congr_left fun name member => ?_
    rw [Function.comp_apply, Line.classify_ofName (writable.name name (Option.mem_toList.mp member))]
  rw [opening, kinds, List.map_append, List.map_append, comments, names,
    Line.map_classify_ofDeclaration writable.bindings]

/-- What a line behind the headers can be. -/
theorem body_of_closing {line : List Char} (member : line ∈ e.closing) : line = [] ∨
    (∃ text, e.body = some (.inline text) ∧ line ∈ splitAll '\n' text.toList) ∨
    ∃ path, e.body = some (.file path) ∧ line = Line.ofFile path := by
  rw [closing] at member
  cases body : e.body with
  | none => simp [body] at member
  | some body' =>
    rw [body] at member
    rcases List.mem_cons.mp member with rfl | inside
    · exact .inl rfl
    · cases body' with
      | inline text => exact .inr (.inl ⟨text, rfl, inside⟩)
      | file path => exact .inr (.inr ⟨path, rfl, List.mem_singleton.mp inside⟩)

theorem unbroken_lines (writable : e.Writable table) (capitals : Line.Capitals e.method.toList) :
    ∀ line ∈ e.lines, Unbroken line := by
  intro line member
  rw [lines, opening] at member
  simp only [List.mem_append, List.mem_cons, List.mem_map, Option.mem_toList] at member
  rcases member with (⟨text, written, rfl⟩ | ⟨name, written, rfl⟩ | ⟨binding, written, rfl⟩) | rfl |
    ⟨header, written, rfl⟩ | inBody
  · exact Line.unbroken_ofComment (writable.comments text written).1.2
  · exact Line.unbroken_ofName (writable.name name written)
  · exact Line.unbroken_ofDeclaration (writable.bindings binding written)
  · exact Line.unbroken_ofRequest capitals writable.url.2.2 writable.version
  · exact Line.unbroken_ofHeader (writable.headers header written)
  · rcases body_of_closing inBody with rfl | ⟨text, body, inside⟩ | ⟨path, body, rfl⟩
    · exact (by decide : Unbroken [])
    · intro c member
      obtain ⟨inText, other⟩ := mem_splitAll inside c member
      exact ⟨fun eq => (writable.body _ body).1 (eq ▸ inText), other⟩
    · exact Line.unbroken_ofFile (writable.body _ body).2.2

/-- No line of an entry separates. -/
theorem separatorTitle?_lines (writable : e.Writable table) (capitals : Line.Capitals e.method.toList) :
    ∀ line ∈ e.lines, Line.separatorTitle? line = none := by
  intro line member
  rw [lines] at member
  simp only [List.mem_append, List.mem_cons, List.mem_map] at member
  rcases member with before | rfl | ⟨header, written, rfl⟩ | inBody
  · have inside : Line.classify table line ∈ e.kinds := by
      rw [← classify_opening writable]
      exact List.mem_map_of_mem before
    refine @Line.separatorTitle?_of_classify table line fun title eq => ?_
    simp [eq, kinds] at inside
  · refine @Line.separatorTitle?_of_classify table _ fun title eq => ?_
    rw [Line.classify_ofRequest capitals writable.url.2.1 writable.url.1 writable.version] at eq
    cases eq
  · exact Line.separatorTitle?_ofHeader (writable.headers header written)
  · rcases body_of_closing inBody with rfl | ⟨text, body, inside⟩ | ⟨path, body, rfl⟩
    · rfl
    · exact (writable.body _ body).2.1 line inside
    · exact Line.separatorTitle?_ofFile (writable.body _ body).2.1 (writable.body _ body).1

end Entry

namespace Outline

variable {table : MethodTable} {o : Outline}

theorem unbroken_lines (writable : o.Writable table)
    (capitals : ∀ e ∈ o.entries, Line.Capitals e.method.toList) : ∀ line ∈ o.lines, Unbroken line := by
  intro line member
  rw [lines] at member
  simp only [List.mem_append, List.mem_map, List.mem_flatMap, List.mem_cons] at member
  rcases member with ⟨binding, written, rfl⟩ | ⟨e, written, rfl | inside⟩
  · exact Line.unbroken_ofDeclaration (writable.bindings binding written)
  · exact Line.unbroken_ofSeparator fun title given => ((writable.entries e written).title title given).2.2
  · exact Entry.unbroken_lines (writable.entries e written) (capitals e written) line inside

end Outline

end RequestBook

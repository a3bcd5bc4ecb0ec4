import RequestBook.Proofs.Canonical
import RequestBook.Proofs.Occurrence
import RequestBook.Proofs.Positions

/-! What can be relied on of a request that was read. Whatever the text, sensible or not, the parts of
its requests have the form that everything behind the reader takes for granted. -/
namespace RequestBook

open Text

/-- Each part of the request is as it can be written: no blanks around it, nothing in it that would have
ended it, and a name that references can be made to. -/
structure Request.WellFormed (r : Request) : Prop where
  method : Line.Capitals r.method.toList
  url : r.url.toList ≠ [] ∧ Trimmed r.url.toList ∧ Line.Target r.url.toList
  version : ∀ version ∈ r.version, Line.Version version.toList
  name : ∀ name ∈ r.name, Reference.parse? (groupText (name.toList ++ ".response.body.*".toList)) =
    some ⟨name, .response, .body, "*"⟩
  title : ∀ title ∈ r.title, title.toList ≠ [] ∧ Trimmed title.toList
  comments : ∀ text ∈ r.comments, Trimmed text.toList
  headers : ∀ header ∈ r.headers.entries,
    header.1.toList ≠ [] ∧ Trimmed header.1.toList ∧ ':' ∉ header.1.toList
  distinct : r.headers.entries.Pairwise fun first second => sameName first.1 second.1 = false
  body : ∀ body ∈ r.body, body.Writable

/-- An identifier can be referred to. -/
theorem Reference.parse?_name {name : String} (identifier : IsIdentifier requestMarks name.toList) :
    parse? (groupText (name.toList ++ ".response.body.*".toList)) = some ⟨name, .response, .body, "*"⟩ := by
  let s : Spelling := ⟨[], name.toList, .response, .body, ['*'], rfl, identifier, by decide, by decide⟩
  have text : s.text = groupText (name.toList ++ ".response.body.*".toList) := rfl
  have reference : s.reference = ⟨name, .response, .body, "*"⟩ := by
    simp only [Spelling.reference, s, String.ofList_toList]
    rfl
  rw [← text, parse?_text, reference]

/-- No two headers of a request have one name. -/
theorem Headers.distinct_names (headers : Headers) :
    headers.entries.Pairwise fun first second => sameName first.1 second.1 = false := by
  refine (List.pairwise_map.mp headers.distinct).imp fun other => ?_
  rw [Bool.eq_false_iff]
  exact fun same => other (sameName_iff.mp same)

namespace Block

section Body

variable {lines : List NumberedLine}

/-- The lines of an inline body, told apart again. -/
theorem splitAll_payload (unbroken : ∀ line ∈ lines, Unbroken line.text)
    (inked : lines.all NumberedLine.isBlank = false) :
    splitAll '\n' (joinWith ['\n'] ((payload lines).map NumberedLine.text)) =
      (payload lines).map NumberedLine.text := by
  refine splitAll_joinWith ?_ ?_
  · intro empty
    have blank := List.rdropWhile_eq_nil_iff.mp (List.map_eq_nil_iff.mp empty)
    rw [List.all_eq_true.mpr blank] at inked
    cases inked
  · intro part member feed
    obtain ⟨line, inside, rfl⟩ := List.mem_map.mp member
    exact (unbroken line ((List.rdropWhile_prefix _ lines).subset inside) '\n' feed).2 rfl

theorem writable_inline (plain : ∀ line ∈ lines, isSeparator line = false)
    (unbroken : ∀ line ∈ lines, Unbroken line.text) (inked : lines.all NumberedLine.isBlank = false)
    (unreferenced : bodyFile? lines = none) :
    (Body.inline (String.ofList (joinWith ['\n'] ((payload lines).map NumberedLine.text)))).Writable := by
  have kept : ∀ line ∈ payload lines, line ∈ lines := (List.rdropWhile_prefix _ lines).subset
  rw [Body.Writable, String.toList_ofList, splitAll_payload unbroken inked]
  refine ⟨?returns, ?separators, ?ends, ?starts⟩
  case returns =>
    intro member
    rcases mem_joinWith member with between | ⟨part, inside, own⟩
    · simp at between
    · obtain ⟨line, taken, rfl⟩ := List.mem_map.mp inside
      exact (unbroken line (kept line taken) '\r' own).1 rfl
  case separators =>
    intro part member
    obtain ⟨line, inside, rfl⟩ := List.mem_map.mp member
    exact separatorTitle?_of_plain (plain line (kept line inside))
  case ends =>
    intro part last
    rw [List.getLast?_map] at last
    obtain ⟨line, ends, rfl⟩ := Option.map_eq_some_iff.mp last
    have filled : payload lines ≠ [] := by
      intro empty
      rw [empty] at ends
      cases ends
    have inkedLast := List.rdropWhile_last_not NumberedLine.isBlank lines filled
    rw [List.getLast?_eq_some_getLast filled] at ends
    cases ends
    exact Bool.eq_false_iff.mpr inkedLast
  case starts =>
    intro part first
    rw [List.find?_map] at first
    obtain ⟨line, found, rfl⟩ := Option.map_eq_some_iff.mp first
    have start : lines.find? (fun line => !line.isBlank) = some line := by
      rw [← head?_dropWhile_payload, ← List.find?_not_eq_head?_dropWhile]
      exact found
    rw [bodyFile?, start, Option.bind_some, Option.map_eq_none_iff] at unreferenced
    exact unreferenced

theorem writable_body (plain : ∀ line ∈ lines, isSeparator line = false)
    (unbroken : ∀ line ∈ lines, Unbroken line.text) {body : Body} (said : body? lines = some body) :
    body.Writable := by
  unfold body? at said
  split at said
  next => cases said
  next inked =>
    split at said
    next path number found =>
      cases said
      obtain ⟨first, inside, referred⟩ := Option.bind_eq_some_iff.mp found
      obtain ⟨_, reference, eq⟩ := Option.map_eq_some_iff.mp referred
      cases eq
      exact Line.neat_of_fileReference? (unbroken first (List.mem_of_find?_eq_some inside)) reference
    next unreferenced =>
      cases said
      exact writable_inline plain unbroken (by simpa using inked) unreferenced

end Body

/-- Every header of a section is one of its fields. -/
theorem field_of_mem_fields {lines : List NumberedLine} {header : String × String}
    (member : header ∈ fields lines) : ∃ line ∈ lines, ∃ value, field? line = some (header.1, value) := by
  induction lines with
  | nil => cases member
  | cons line rest ih =>
    have later : header ∈ fields rest → ∃ l ∈ line :: rest, ∃ value, field? l = some (header.1, value) := by
      intro inside
      obtain ⟨l, own, found⟩ := ih inside
      exact ⟨l, List.mem_cons_of_mem _ own, found⟩
    rw [fields] at member
    split at member
    next name value found =>
      rcases List.mem_cons.mp member with rfl | inside
      · exact ⟨line, List.mem_cons_self, value, found⟩
      · exact later inside
    next => exact later member

theorem named_headers {lines : List NumberedLine} {header : String × String}
    (member : header ∈ (Roster.ofList (fields lines) : Headers).entries) :
    header.1.toList ≠ [] ∧ Trimmed header.1.toList ∧ ':' ∉ header.1.toList := by
  obtain ⟨line, _, value, found⟩ := field_of_mem_fields (Roster.mem_of_mem_ofList member)
  exact Line.named_of_field (classifyHeader_of_field? found)

/-- The request of a block has the form that is relied on. -/
theorem wellFormed_request? {table : MethodTable} {b : Block}
    (plain : ∀ line ∈ b.lines, isSeparator line = false)
    (unbroken : ∀ line ∈ b.lines, Unbroken line.text)
    (titled : ∀ title ∈ b.title, title.toList ≠ [] ∧ Trimmed title.toList) {own : Variables} {r : Request}
    (read : b.request? table own = some r) : r.WellFormed := by
  obtain ⟨opening, _, _, kind⟩ := exists_opening read
  have asks := Line.asks_of_requestLine kind
  have inBody : ∀ line ∈ b.bodyLines table, line ∈ b.lines := by
    intro line member
    have behind := (sections_sublist table b).subset (List.mem_append_right _ member)
    rw [lines_eq table b]
    exact List.mem_append_right _ (List.mem_append_right _ behind)
  obtain ⟨_, _, rfl⟩ := Option.map_eq_some_iff.mp read
  refine ⟨asks.method, ⟨asks.filled, asks.target.trimmed, asks.target⟩, asks.version, ?name, titled, ?comments,
    fun header member => named_headers member, Headers.distinct_names _, ?body⟩
  case name =>
    intro name named
    obtain ⟨line, _, directive⟩ := List.mem_filterMap.mp (List.mem_of_getLast? named)
    obtain ⟨_, _, read⟩ := Line.readIdentifier_of_nameDirective (classify_of_directive? directive)
    exact Reference.parse?_name (readIdentifier_eq_some read).1
  case comments =>
    intro text member
    obtain ⟨line, _, comment⟩ := List.mem_filterMap.mp member
    exact Line.trimmed_of_comment (classify_of_comment? comment)
  case body =>
    intro body said
    exact writable_body (fun line member => plain line (inBody line member))
      (fun line member => unbroken line (inBody line member)) said

end Block

namespace Document

theorem wellFormed_ofBlocks (table : MethodTable) (path : String) (text : List Char) {r : Request}
    (member : r ∈ (ofBlocks table path (Block.split none (numberLines (lines text)))).requests) :
    r.WellFormed := by
  obtain ⟨b, inside, own, file, bare, read, rfl⟩ := block_of_mem_ofBlocks member
  have held : ∀ line ∈ b.lines, line ∈ numberLines (lines text) ∧ Block.isSeparator line = false :=
    fun line own => Block.mem_of_mem_split inside own
  have unbroken : ∀ line ∈ b.lines, Unbroken line.text := by
    intro line own
    obtain ⟨index, bound, rfl⟩ := List.mem_mapIdx.mp (held line own).1
    exact unbroken_of_mem_lines (List.getElem_mem bound)
  have titled : ∀ title ∈ b.title, title.toList ≠ [] ∧ Trimmed title.toList := by
    intro title given
    rcases Block.title_of_mem_split inside with none | ⟨line, _, separates⟩
    · rw [none] at given
      cases given
    · rw [Option.mem_def.mp given] at separates
      exact Line.trimmed_of_separatorTitle? separates
  -- linking changes none of the parts that are spoken of
  exact { Block.wellFormed_request? (fun line own => (held line own).2) unbroken titled read with }

/-- What is declared before the first request line belongs to the file. -/
theorem bindings_first (table : MethodTable) (path : String) (blocks : List Block) :
    ∀ r ∈ (ofBlocks table path blocks).requests.head?, r.bindings = .empty := by
  intro r head
  cases rest : blocks.dropWhile fun b => (b.opening? table).isNone with
  | nil => simp [ofBlocks, rest] at head
  | cons first later =>
    have opens : (first.opening? table).isNone = false := by
      simpa [rest] using List.head?_dropWhile_not (fun b => (b.opening? table).isNone) blocks
    obtain ⟨opening, found⟩ := Option.isSome_iff_exists.mp (Option.isNone_eq_false_iff.mp opens)
    simp only [ofBlocks, rest, List.take_succ_cons, List.take_zero, List.filterMap_cons, Block.request?,
      found, Option.map_some, List.filterMap_nil, List.cons_append, List.map_cons, List.head?_cons,
      Option.mem_some] at head
    rw [← head]
    rfl

/-- Every text with a path is read, the requests have the form that is relied on, and the first of them
has no variables of its own. -/
theorem parse_wellFormed (table : MethodTable) {path : String} (placed : path ≠ "") (content : String) :
    ∃ d, parse table path content = .ok d ∧ (∀ r ∈ d.requests, r.WellFormed) ∧
      ∀ r ∈ d.requests.head?, r.bindings = .empty :=
  ⟨_, parse_of_placed table placed content, fun _ member => wellFormed_ofBlocks table path _ member,
    bindings_first table path _⟩

def careless : String :=
  "@v = 1\n### A \n//  hi \n# @name x-1\nget  http://a/{{ b }}  HTTP/1.1\nX : 1\nx: 2\n: 3\n\n\n a\n \n" ++
    "###\n@w = 3\nPOST b\n\n < ./f \nrest\n"

theorem parse_careless : ∃ d, parse .standard "book" careless = .ok d ∧
    (∀ r ∈ d.requests, r.WellFormed) ∧
    d.requests.map (fun r => (r.method, r.url, r.name, r.bindings.entries)) =
      [("GET", "http://a/{{ b }}", some "x-1", []), ("POST", "b", none, [("w", "3")])] ∧
    d.requests.map (fun r => (r.headers.entries, r.body)) =
      [([("x", "2")], some (.inline "\n a")), ([], some (.file "./f"))] := by
  obtain ⟨d, parsed, wellFormed, _⟩ := @parse_wellFormed .standard "book" (by decide) careless
  have read : d = read .standard "book" careless := eq_read_of_parse parsed
  exact ⟨d, parsed, wellFormed, by rw [read]; decide +kernel, by rw [read]; decide +kernel⟩

end Document

end RequestBook

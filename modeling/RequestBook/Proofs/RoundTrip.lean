import RequestBook.Proofs.BlockReading
import RequestBook.Proofs.Canonical

/-! Reading the canonical text of a request book gives back what was written. Between two separators
stand the lines of one request and nothing else, perhaps with blank lines behind them, so a block
says what its request says and nothing in it is reported. -/
namespace RequestBook

open Text

theorem map_text_numberLines (lines : List (List Char)) :
    (numberLines lines).map NumberedLine.text = lines := by
  refine List.ext_getElem (by simp [numberLines]) ?_
  simp [numberLines]

/-- What a request reads from is found out, not written. -/
theorem map_entry_link (d : Document) (requests : List Request) :
    (requests.map d.link).map Request.entry = requests.map Request.entry := by
  rw [List.map_map]
  rfl

namespace Block

variable {table : MethodTable}

/-- Where a block is cut by its request line. -/
theorem cut_of_opening {b : Block} {before behind : List NumberedLine} {line : NumberedLine}
    {parts : String × String × Option String} (whole : b.lines = before ++ line :: behind)
    (closed : ∀ l ∈ before, requestLine? table l = none) (opens : requestLine? table line = some parts) :
    b.preamble table = before ∧ b.opening? table = some (line, parts) ∧ b.behind table = behind := by
  have silent : ∀ l ∈ before, (requestLine? table l).isNone = true := by
    intro l member
    rw [closed l member, Option.isNone_none]
  refine ⟨?_, ?_, ?_⟩
  · rw [preamble, whole, List.takeWhile_append_of_pos silent]
    simp [opens]
  · have none : before.findSome? (fun l => (requestLine? table l).map (l, ·)) = none := by
      rw [List.findSome?_eq_none_iff]
      intro l member
      rw [closed l member, Option.map_none]
    rw [opening?, whole, List.findSome?_append, none]
    simp [opens]
  · rw [Block.behind, whole, List.dropWhile_append_of_pos silent]
    simp [opens]

/-- Where the headers end. -/
theorem cut_of_blank {b : Block} {headers rest : List NumberedLine} (whole : b.behind table = headers ++ rest)
    (inked : ∀ l ∈ headers, l.isBlank = false) (ends : ∀ l ∈ rest.head?, l.isBlank = true) :
    b.headerLines table = headers ∧ b.bodyLines table = rest.tail := by
  have visible : ∀ l ∈ headers, (!l.isBlank) = true := by
    intro l member
    rw [inked l member, Bool.not_false]
  rw [headerLines, bodyLines, whole, List.takeWhile_append_of_pos visible,
    List.dropWhile_append_of_pos visible]
  cases rest with
  | nil => simp
  | cons l rest => simp [ends l rfl]

theorem findingsOf_eq_nil {problem? : NumberedLine → Option Problem} {lines : List NumberedLine}
    (fine : ∀ l ∈ lines, problem? l = none) : findingsOf problem? lines = [] := by
  rw [findingsOf, List.filterMap_eq_nil_iff]
  intro l member
  rw [fine l member, Option.map_none]

theorem beforeField_of_all {lines : List NumberedLine} (all : ∀ l ∈ lines, (field? l).isSome = true) :
    beforeField lines = [] := by
  cases lines with
  | nil => rfl
  | cons line rest =>
    obtain ⟨own, found⟩ := Option.isSome_iff_exists.mp (all line List.mem_cons_self)
    exact beforeField_cons_some found rest

/-- Header lines that are all fields have no continuations. -/
theorem fields_of_all {lines : List NumberedLine} (all : ∀ l ∈ lines, (field? l).isSome = true) :
    fields lines = lines.filterMap field? := by
  induction lines with
  | nil => rfl
  | cons line rest ih =>
    obtain ⟨first, others⟩ := List.forall_mem_cons.mp all
    obtain ⟨⟨name, value⟩, found⟩ := Option.isSome_iff_exists.mp first
    rw [fields, found, List.filterMap_cons_some found, ih others, beforeField_of_all others]
    rfl

theorem headerFindings_of_all {lines : List NumberedLine} (all : ∀ l ∈ lines, (field? l).isSome = true) :
    headerFindings lines = [] := by
  rw [headerFindings, beforeField_of_all all]
  refine findingsOf_eq_nil fun line member => ?_
  obtain ⟨own, found⟩ := Option.isSome_iff_exists.mp (all line ((List.dropWhile_sublist _).subset member))
  exact headerProblem?_of_field found true

theorem isBlank_of_empty {lines : List NumberedLine} {count : Nat}
    (held : lines.map NumberedLine.text = List.replicate count []) : ∀ l ∈ lines, l.isBlank = true := by
  intro l member
  have inside : l.text ∈ List.replicate count [] := held ▸ List.mem_map_of_mem member
  rw [NumberedLine.isBlank, List.eq_of_mem_replicate inside]
  rfl

/-- Blank lines behind a body belong to it as little as those behind a request. -/
theorem body?_append_blanks (lines : List NumberedLine) {blanks : List NumberedLine}
    (empty : ∀ l ∈ blanks, l.isBlank = true) :
    body? (lines ++ blanks) = body? lines ∧ bodyFinding? (lines ++ blanks) = bodyFinding? lines := by
  have kept : payload (lines ++ blanks) = payload lines := by
    have reversed : ∀ l ∈ blanks.reverse, l.isBlank = true := by
      intro l member
      exact empty l (List.mem_reverse.mp member)
    rw [payload, payload, List.rdropWhile, List.reverse_append, List.dropWhile_append_of_pos reversed]
    rfl
  have all : blanks.all NumberedLine.isBlank = true := List.all_eq_true.mpr empty
  have none : blanks.find? (fun line => !line.isBlank) = Option.none := by
    rw [List.find?_eq_none]
    intro l member
    simp [empty l member]
  have file : bodyFile? (lines ++ blanks) = bodyFile? lines := by
    rw [bodyFile?, bodyFile?, List.find?_append, none, Option.or_none]
  rw [body?, body?, bodyFinding?, bodyFinding?, kept, file, List.all_append, all, Bool.and_true]
  exact ⟨rfl, rfl⟩

theorem body?_inline {lines : List NumberedLine} {text : String} (writable : (Body.inline text).Writable)
    (held : lines.map NumberedLine.text = splitAll '\n' text.toList) :
    body? lines = some (.inline text) ∧ bodyFinding? lines = none := by
  obtain ⟨-, -, last, first⟩ := writable
  have ends : ∀ l ∈ lines.getLast?, l.isBlank = false := by
    intro l member
    refine last l.text ?_
    rw [← held, List.getLast?_map, Option.mem_def.mp member]
    rfl
  have filled : lines ≠ [] := by
    rintro rfl
    exact splitAll_ne_nil _ _ held.symm
  have inked : lines.all NumberedLine.isBlank = false :=
    List.all_eq_false.mpr ⟨lines.getLast filled, List.getLast_mem filled,
      by simp [ends _ (List.getLast?_eq_some_getLast filled)]⟩
  have kept : payload lines = lines := by
    refine List.rdropWhile_eq_self_iff.mpr fun filled' => ?_
    simp [ends _ (List.getLast?_eq_some_getLast filled')]
  have file : bodyFile? lines = none := by
    rw [bodyFile?]
    cases found : lines.find? fun line => !line.isBlank with
    | none => rfl
    | some line =>
      have shown : (splitAll '\n' text.toList).find? (fun line => !allBlank line) = some line.text := by
        rw [← held, List.find?_map]
        exact congrArg (Option.map NumberedLine.text) found
      rw [Option.bind_some, first line.text shown, Option.map_none]
  have joined : List.intercalate ['\n'] (lines.map NumberedLine.text) = text.toList := by
    rw [held]
    exact joinWith_splitAll '\n' text.toList
  rw [body?, bodyFinding?, inked, file, kept, joined]
  simp

theorem body?_file {line : NumberedLine} {path : String} (writable : (Body.file path).Writable)
    (held : line.text = Line.ofFile path) :
    body? [line] = some (.file path) ∧ bodyFinding? [line] = none := by
  obtain ⟨filled, trimmed, -⟩ := writable
  have inked : line.isBlank = false := by
    rw [NumberedLine.isBlank, held]
    simp [Line.ofFile, allBlank, isBlank]
  have file : bodyFile? [line] = some (path, line.number) := by
    simp [bodyFile?, inked, held, Line.fileReference?_ofFile trimmed filled]
  have kept : payload [line] = [line] := List.rdropWhile_eq_self_iff.mpr fun _ => by simp [inked]
  rw [body?, bodyFinding?, file, kept]
  simp [inked]

/-- Lines that hold a body, and blank lines behind it. -/
theorem body?_of_lines {lines : List NumberedLine} {body : Body} (writable : body.Writable) {count : Nat}
    (held : lines.map NumberedLine.text = body.lines ++ List.replicate count []) :
    body? lines = some body ∧ bodyFinding? lines = none := by
  obtain ⟨own, blanks, rfl, ownText, blankText⟩ := List.map_eq_append_iff.mp held
  obtain ⟨sameBody, sameFinding⟩ := body?_append_blanks own (isBlank_of_empty blankText)
  rw [sameBody, sameFinding]
  cases body with
  | inline text => exact body?_inline writable ownText
  | file path =>
    obtain ⟨line, rfl, shown⟩ := List.map_eq_singleton_iff.mp ownText
    exact body?_file writable shown

/-- Lines that hold headers are read as these, and there is nothing wrong with them. -/
theorem headers_of_lines {lines : List NumberedLine} {headers : Headers}
    (writable : ∀ header ∈ headers.entries, Line.Writable header)
    (held : lines.map NumberedLine.text = headers.entries.map Line.ofHeader) :
    (∀ l ∈ lines, l.isBlank = false) ∧ Roster.ofList (fields lines) = headers ∧
      headerFindings lines = [] := by
  have pairs : lines.map field? = headers.entries.map some := by
    have shown : lines.map field? = (lines.map NumberedLine.text).map fun text => field? ⟨0, text⟩ := by
      rw [List.map_map]
      rfl
    rw [shown, held, List.map_map]
    refine List.map_congr_left fun header member => ?_
    simp [field?, Line.classifyHeader_ofHeader (writable header member)]
  have all : ∀ l ∈ lines, (field? l).isSome = true := by
    intro l member
    have inside : field? l ∈ headers.entries.map some := pairs ▸ List.mem_map_of_mem member
    obtain ⟨header, -, found⟩ := List.mem_map.mp inside
    rw [← found, Option.isSome_some]
  have read : lines.filterMap field? = headers.entries := by
    have shown : lines.filterMap field? = (lines.map field?).filterMap id := by
      rw [List.filterMap_map]
      rfl
    rw [shown, pairs, List.filterMap_map]
    exact List.filterMap_some
  refine ⟨?_, ?_, headerFindings_of_all all⟩
  · intro l member
    have inside : l.text ∈ headers.entries.map Line.ofHeader := held ▸ List.mem_map_of_mem member
    obtain ⟨header, written, shown⟩ := List.mem_map.mp inside
    rw [NumberedLine.isBlank, ← shown, Line.allBlank_ofHeader (writable header written)]
  · rw [fields_of_all all, read, Roster.ofList_entries]

theorem classify_mem {lines : List NumberedLine} {kinds : List LineKind}
    (shown : (lines.map NumberedLine.text).map (Line.classify table) = kinds) {l : NumberedLine}
    (member : l ∈ lines) : Line.classify table l.text ∈ kinds := by
  rw [← shown, List.map_map]
  exact List.mem_map_of_mem member

/-- Lines of one kind, read one by one. -/
theorem filterMap_kinds {α β : Type} {part : NumberedLine → Option α} {kind : β → LineKind}
    {gives : β → Option α}
    (reads : ∀ l item, Line.classify table l.text = kind item → part l = gives item)
    {lines : List NumberedLine} {items : List β}
    (shown : (lines.map NumberedLine.text).map (Line.classify table) = items.map kind) :
    lines.filterMap part = items.filterMap gives := by
  induction lines generalizing items with
  | nil =>
    cases items with
    | nil => rfl
    | cons => cases shown
  | cons l lines ih =>
    cases items with
    | nil => cases shown
    | cons item items =>
      obtain ⟨first, others⟩ := List.cons.inj shown
      rw [List.filterMap_cons, List.filterMap_cons, reads l item first, ih others]

end Block

namespace Entry

variable {table : MethodTable} {e : Entry}

/-- No line before the request line opens the request or is wrong. -/
theorem kinds_plain {lines : List NumberedLine}
    (shown : (lines.map NumberedLine.text).map (Line.classify table) = e.kinds) :
    ∀ l ∈ lines, Block.requestLine? table l = none ∧ Block.preambleProblem? table l = none := by
  intro l member
  have inside := Block.classify_mem shown member
  simp only [kinds, List.mem_append, List.mem_map] at inside
  rcases inside with ⟨_, _, kind⟩ | ⟨_, _, kind⟩ | ⟨_, _, kind⟩ <;>
    simp [Block.requestLine?, Block.preambleProblem?, ← kind]

/-- What is read off the lines before the request line, given what is read off each kind of them. -/
theorem filterMap_opening {α : Type} {part : NumberedLine → Option α} {lines : List NumberedLine}
    (shown : (lines.map NumberedLine.text).map (Line.classify table) = e.kinds)
    (comment name : String → Option α) (declaration : String × String → Option α)
    (comments : ∀ l text, Line.classify table l.text = .comment text → part l = comment text)
    (names : ∀ l own, Line.classify table l.text = .nameDirective own → part l = name own)
    (declarations : ∀ l binding, Line.classify table l.text = .declaration binding.1 binding.2 →
      part l = declaration binding) :
    lines.filterMap part = e.comments.filterMap comment ++ (e.name.toList.filterMap name ++
      e.bindings.entries.filterMap declaration) := by
  rw [List.map_map, kinds] at shown
  obtain ⟨commentLines, rest, rfl, commentKinds, restKinds⟩ := List.map_eq_append_iff.mp shown
  obtain ⟨nameLines, bindingLines, rfl, nameKinds, bindingKinds⟩ := List.map_eq_append_iff.mp restKinds
  rw [← List.map_map] at commentKinds nameKinds bindingKinds
  rw [List.filterMap_append, List.filterMap_append, Block.filterMap_kinds comments commentKinds,
    Block.filterMap_kinds names nameKinds, Block.filterMap_kinds declarations bindingKinds]

/-- A block in which an entry stands and nothing else but blank lines behind it. -/
def Fills (e : Entry) (b : Block) : Prop :=
  b.title = e.title ∧ ∃ count, b.lines.map NumberedLine.text = e.lines ++ List.replicate count []

/-- A block that says what the entry says, with nothing wrong in it. -/
structure SaidBy (table : MethodTable) (e : Entry) (b : Block) : Prop where
  request : ∀ own, ∃ r, b.request? table own = some r ∧ r.entry = { e with bindings := own }
  declarations : b.declarations table = e.bindings.entries
  silent : b.findings table = []

/-- What stands before, on and behind the request line of the block that an entry fills. -/
theorem Fills.cut {b : Block} (fills : e.Fills b) (writable : e.Writable table)
    (capitals : Line.Capitals e.method.toList) : ∃ line,
      ((b.preamble table).map NumberedLine.text).map (Line.classify table) = e.kinds ∧
      b.opening? table = some (line, e.method, e.url, e.version) ∧
      ∃ count, (b.behind table).map NumberedLine.text =
        e.headers.entries.map Line.ofHeader ++ (e.closing ++ List.replicate count []) := by
  obtain ⟨-, count, held⟩ := fills
  rw [lines, List.append_assoc, List.cons_append, List.append_assoc] at held
  obtain ⟨before, rest, whole, openingText, restText⟩ := List.map_eq_append_iff.mp held
  obtain ⟨line, behind, rfl, lineText, behindText⟩ := List.map_eq_cons_iff.mp restText
  have kinds : (before.map NumberedLine.text).map (Line.classify table) = e.kinds := by
    rw [openingText, classify_opening writable]
  have closed : ∀ l ∈ before, Block.requestLine? table l = none := fun l member =>
    (kinds_plain kinds l member).1
  have opens : Block.requestLine? table line = some (e.method, e.url, e.version) := by
    rw [Block.requestLine?, lineText,
      Line.classify_ofRequest capitals writable.url.2.1 writable.url.1 writable.version]
  obtain ⟨preamble, opening, after⟩ := Block.cut_of_opening whole closed opens
  exact ⟨line, by rw [preamble, kinds], opening, count, by rw [after, behindText]⟩

/-- What stands behind the headers begins with a blank line, if there is anything, and holds the body. -/
theorem body?_of_closing {rest : List NumberedLine} {count : Nat} (writable : ∀ body ∈ e.body, body.Writable)
    (held : rest.map NumberedLine.text = e.closing ++ List.replicate count []) :
    (∀ l ∈ rest.head?, l.isBlank = true) ∧ Block.body? rest.tail = e.body ∧
      Block.bodyFinding? rest.tail = none := by
  rw [closing] at held
  cases body : e.body with
  | none =>
    rw [body, List.nil_append] at held
    have blank := Block.isBlank_of_empty held
    obtain ⟨sameBody, sameFinding⟩ := Block.body?_append_blanks [] fun l member =>
      blank l (List.mem_of_mem_tail member)
    rw [List.nil_append] at sameBody sameFinding
    exact ⟨fun l member => blank l (List.mem_of_mem_head? member), sameBody, sameFinding⟩
  | some body' =>
    rw [body, List.cons_append] at held
    obtain ⟨line, own, rfl, lineText, ownText⟩ := List.map_eq_cons_iff.mp held
    refine ⟨?_, Block.body?_of_lines (writable body' body) ownText⟩
    intro l member
    obtain rfl : line = l := Option.some.inj member
    rw [NumberedLine.isBlank, lineText]
    rfl

theorem Fills.said {b : Block} (fills : e.Fills b) (writable : e.Writable table)
    (capitals : Line.Capitals e.method.toList) : e.SaidBy table b := by
  obtain ⟨line, kinds, opening, count, behindText⟩ := fills.cut writable capitals
  obtain ⟨headers, rest, whole, headerText, restText⟩ := List.map_eq_append_iff.mp behindText
  obtain ⟨inked, read, silent⟩ := Block.headers_of_lines writable.headers headerText
  obtain ⟨ends, body, bodySilent⟩ := body?_of_closing writable.body restText
  obtain ⟨headerLines, bodyLines⟩ := Block.cut_of_blank whole inked ends
  have comments : (b.preamble table).filterMap (Block.comment? table) = e.comments := by
    refine (filterMap_opening kinds some (fun _ => none) (fun _ => none) ?_ ?_ ?_).trans (by simp)
    all_goals
      intro l own kind
      simp [Block.comment?, kind]
  have names : (b.preamble table).filterMap (Block.directive? table) = e.name.toList := by
    refine (filterMap_opening kinds (fun _ => none) some (fun _ => none) ?_ ?_ ?_).trans (by simp)
    all_goals
      intro l own kind
      simp [Block.directive?, kind]
  have name : ((b.preamble table).filterMap (Block.directive? table)).getLast? = e.name := by
    rw [names]
    cases e.name <;> rfl
  have declarations : b.declarations table = e.bindings.entries := by
    refine (filterMap_opening kinds (fun _ => none) (fun _ => none) some ?_ ?_ ?_).trans (by simp)
    all_goals
      intro l own kind
      simp [Block.declaration?, kind]
  refine ⟨fun own => ?_, declarations, ?_⟩
  · rw [Block.request?, opening]
    refine ⟨_, rfl, ?_⟩
    simp only [Request.entry, headerLines, bodyLines, comments, name, read, body, fills.1]
  · have before : Block.findingsOf (Block.preambleProblem? table) (b.preamble table) = [] :=
      Block.findingsOf_eq_nil fun l member => (kinds_plain kinds l member).2
    have known : b.unknownMethod? table = none := by
      rw [Block.unknownMethod?, opening]
      exact if_pos writable.method
    rw [Block.findings, before, known, headerLines, silent, bodyLines, bodySilent]
    rfl

end Entry

namespace Block

variable {table : MethodTable}

/-- The lines of entries, each behind its separator, fall into the blocks that say what the entries say. -/
theorem split_lines {entries : List Entry} (writable : ∀ e ∈ entries, e.Writable table)
    (capitals : ∀ e ∈ entries, Line.Capitals e.method.toList) {first : List (List Char)}
    (plain : ∀ line ∈ first, Line.separatorTitle? line = none) {count : Nat} {lines : List NumberedLine}
    (held : lines.map NumberedLine.text = first ++
      ((entries.flatMap fun e => Line.ofSeparator e.title :: e.lines) ++ List.replicate count []))
    (title : Option String) : ∃ own blocks extra, split title lines = ⟨title, own⟩ :: blocks ∧
      own.map NumberedLine.text = first ++ List.replicate extra [] ∧
      List.Forall₂ (Entry.SaidBy table) entries blocks := by
  induction entries generalizing first lines title with
  | nil =>
    refine ⟨lines, [], count, split_of_plain ?_ title, held, .nil⟩
    intro l member
    have inside : l.text ∈ first ++ List.replicate count [] := held ▸ List.mem_map_of_mem member
    rw [isSeparator, Option.isSome_eq_false_iff, Option.isNone_iff_eq_none]
    rcases List.mem_append.mp inside with written | empty
    · exact plain l.text written
    · rw [List.eq_of_mem_replicate empty]
      rfl
  | cons e entries ih =>
    obtain ⟨writableFirst, writableRest⟩ := List.forall_mem_cons.mp writable
    obtain ⟨capitalsFirst, capitalsRest⟩ := List.forall_mem_cons.mp capitals
    rw [List.flatMap_cons, List.cons_append, List.cons_append, List.append_assoc] at held
    obtain ⟨before, behind, rfl, beforeText, behindText⟩ := List.map_eq_append_iff.mp held
    obtain ⟨line, rest, rfl, lineText, restText⟩ := List.map_eq_cons_iff.mp behindText
    obtain ⟨own, blocks, extra, cut, ownText, said⟩ := ih writableRest capitalsRest
      (Entry.separatorTitle?_lines writableFirst capitalsFirst) restText e.title
    have plainBefore : ∀ l ∈ before, isSeparator l = false := by
      intro l member
      have inside : l.text ∈ first := beforeText ▸ List.mem_map_of_mem member
      rw [isSeparator, plain l.text inside, Option.isSome_none]
    have separates : Line.separatorTitle? line.text = some e.title := by
      rw [lineText]
      exact Line.separatorTitle?_ofSeparator fun title written =>
        ⟨(writableFirst.title title written).1, (writableFirst.title title written).2.1⟩
    refine ⟨before, ⟨e.title, own⟩ :: blocks, 0, ?_, by simpa using beforeText, ?_⟩
    · rw [split_separator plainBefore separates, cut]
    · have fills : e.Fills ⟨e.title, own⟩ := ⟨rfl, extra, ownText⟩
      exact .cons (fills.said writableFirst capitalsFirst) said

/-- A block without a request line in which nothing is wrong only declares. -/
theorem declares_of_plain {b : Block}
    (plain : ∀ l ∈ b.lines, requestLine? table l = none ∧ preambleProblem? table l = none) :
    b.opening? table = none ∧ b.declarations table = b.lines.filterMap (declaration? table) ∧
      b.findings table = [] := by
  rcases opening_cases table b with ⟨closed, all, nothing⟩ | ⟨line, method, url, version, _, opens, whole⟩
  · refine ⟨closed, by rw [declarations, all], ?_⟩
    have silent : findingsOf (preambleProblem? table) b.lines = [] :=
      findingsOf_eq_nil fun l member => (plain l member).2
    have known : b.unknownMethod? table = none := by rw [unknownMethod?, closed]; rfl
    rw [findings, all, silent, known, headerLines, bodyLines, nothing]
    rfl
  · have member : line ∈ b.lines := by rw [whole]; simp
    rw [(plain line member).1] at opens
    cases opens

/-- The block before the first separator, which holds the declarations of the file. -/
theorem declares_of_lines {b : Block} {bindings : Variables} {count : Nat}
    (declarable : ∀ binding ∈ bindings.entries, Line.Declarable binding)
    (held : b.lines.map NumberedLine.text =
      bindings.entries.map Line.ofDeclaration ++ List.replicate count []) :
    b.opening? table = none ∧ b.declarations table = bindings.entries ∧ b.findings table = [] := by
  obtain ⟨own, blanks, whole, ownText, blankText⟩ := List.map_eq_append_iff.mp held
  have ownKinds : (own.map NumberedLine.text).map (Line.classify table) =
      bindings.entries.map fun binding => .declaration binding.1 binding.2 := by
    rw [ownText, Line.map_classify_ofDeclaration declarable]
  have blankKind : ∀ l ∈ blanks, Line.classify table l.text = .blank := by
    intro l member
    have inside : l.text ∈ List.replicate count [] := blankText ▸ List.mem_map_of_mem member
    rw [List.eq_of_mem_replicate inside]
    rfl
  have plain : ∀ l ∈ b.lines, requestLine? table l = none ∧ preambleProblem? table l = none := by
    intro l member
    rw [whole] at member
    rcases List.mem_append.mp member with declared | blank
    · obtain ⟨binding, -, kind⟩ := List.mem_map.mp (classify_mem ownKinds declared)
      simp [requestLine?, preambleProblem?, ← kind]
    · simp [requestLine?, preambleProblem?, blankKind l blank]
  obtain ⟨closed, declares, fine⟩ := declares_of_plain plain
  refine ⟨closed, ?_, fine⟩
  have read : own.filterMap (declaration? table) = bindings.entries := by
    refine (filterMap_kinds (fun l binding kind => ?_) ownKinds).trans List.filterMap_some
    simp [declaration?, kind]
  have none : blanks.filterMap (declaration? table) = [] := by
    rw [List.filterMap_eq_nil_iff]
    intro l member
    simp [declaration?, blankKind l member]
  rw [declares, whole, List.filterMap_append, read, none, List.append_nil]

/-- The requests of blocks that say what entries say, each with the variables of its block. -/
theorem entry_requests {entries : List Entry} {blocks : List Block}
    (said : List.Forall₂ (Entry.SaidBy table) entries blocks) :
    (blocks.filterMap fun b => b.request? table (.ofList (b.declarations table))).map Request.entry =
      entries ∧ blocks.flatMap (fun b => (b.findings table).map diagnostic) = [] := by
  induction said with
  | nil => exact ⟨rfl, rfl⟩
  | @cons e b entries blocks first _ ih =>
    obtain ⟨r, found, same⟩ := first.request (.ofList (b.declarations table))
    have whole : r.entry = e := by
      rw [same, first.declarations, Roster.ofList_entries]
    refine ⟨?_, by rw [List.flatMap_cons, first.silent, ih.2]; rfl⟩
    rw [List.filterMap_cons, found]
    exact congrArg₂ _ whole ih.1

/-- The document of a block that declares and of blocks that say what entries say. -/
theorem outline_ofBlocks {silent : Block} {blocks : List Block} {o : Outline}
    (closed : silent.opening? table = none) (declares : silent.declarations table = o.bindings.entries)
    (said : List.Forall₂ (Entry.SaidBy table) o.entries blocks)
    (first : ∀ e ∈ o.entries.head?, e.bindings.entries = []) (path : String) :
    (Document.ofBlocks table path (silent :: blocks)).outline = o := by
  obtain ⟨bindings, entries⟩ := o
  have shut : (silent.opening? table).isNone = true := by rw [closed, Option.isNone_none]
  cases said with
  | nil =>
    simp only [Document.ofBlocks, List.takeWhile_cons, List.dropWhile_cons, shut, if_true,
      List.takeWhile_nil, List.dropWhile_nil]
    simp [Document.outline, declares, Roster.ofList_entries]
  | @cons e b entries blocks saidFirst saidLater =>
    obtain ⟨r, found, same⟩ := saidFirst.request .empty
    have opens : (b.opening? table).isNone = false := by
      rw [request?] at found
      cases opening : b.opening? table with
      | none => simp [opening] at found
      | some => rfl
    have bare : e.bindings = .empty := Roster.ext (first e rfl)
    have whole : r.entry = e := by rw [same, ← bare]
    have none : b.declarations table = [] := saidFirst.declarations.trans (first e rfl)
    have later := (entry_requests saidLater).1
    simp only [Document.ofBlocks, List.takeWhile_cons, List.dropWhile_cons, shut, if_true, opens]
    simp only [Document.outline, map_entry_link]
    simp [declares, Roster.ofList_entries, found, none, whole, later]

end Block

theorem Block.capitals_method {table : MethodTable} {b : Block} {own : Variables} {r : Request}
    (read : b.request? table own = some r) : Line.Capitals r.method.toList := by
  obtain ⟨line, _, _, kind⟩ := exists_opening read
  exact (Line.asks_of_requestLine kind).method

/-- The methods of requests that were read are in upper case. -/
theorem Document.capitals_of_parse {table : MethodTable} {path content : String} {d : Document}
    (parsed : Document.parse table path content = .ok d) :
    ∀ e ∈ d.outline.entries, Line.Capitals e.method.toList := by
  intro e member
  obtain ⟨r, inside, rfl⟩ := List.mem_map.mp member
  obtain ⟨b, own, file, bare, read, rfl⟩ := block_of_parse parsed inside
  change Line.Capitals bare.method.toList
  exact Block.capitals_method read

namespace Outline

variable {table : MethodTable} {o : Outline}

/-- Reading the text of an outline gives the outline back, with nothing to report, however many line
feeds stand behind it. -/
theorem parse_text (writable : o.Writable table)
    (capitals : ∀ e ∈ o.entries, Line.Capitals e.method.toList) {path : String} (placed : path ≠ "")
    (extra : Nat) : ∃ d, Document.parse table path
        (o.text ++ String.ofList (List.replicate extra '\n')) = .ok d ∧
      d.path = path ∧ d.outline = o ∧ d.diagnostics = [] := by
  obtain ⟨count, cut⟩ := lines_joinWith (unbroken_lines writable capitals) extra
  have content : (o.text ++ String.ofList (List.replicate extra '\n')).toList =
      joinWith ['\n'] o.lines ++ List.replicate extra '\n' := by
    simp [text]
  have held : (numberLines (Text.lines (joinWith ['\n'] o.lines ++ List.replicate extra '\n'))).map
      NumberedLine.text = o.bindings.entries.map Line.ofDeclaration ++
        ((o.entries.flatMap fun e => Line.ofSeparator e.title :: e.lines) ++ List.replicate count []) := by
    rw [map_text_numberLines, cut, lines, List.append_assoc]
  have plain : ∀ line ∈ o.bindings.entries.map Line.ofDeclaration, Line.separatorTitle? line = none := by
    intro line member
    obtain ⟨binding, written, rfl⟩ := List.mem_map.mp member
    refine @Line.separatorTitle?_of_classify table _ fun title eq => ?_
    rw [Line.classify_ofDeclaration (writable.bindings binding written)] at eq
    cases eq
  obtain ⟨own, blocks, rest, split, ownText, said⟩ :=
    Block.split_lines writable.entries capitals plain held none
  obtain ⟨closed, declares, fine⟩ := @Block.declares_of_lines table ⟨none, own⟩ _ _ writable.bindings ownText
  refine ⟨.ofBlocks table path (⟨none, own⟩ :: blocks), ?_, rfl,
    Block.outline_ofBlocks closed declares said writable.first path, ?_⟩
  · rw [Document.parse, if_neg (by simpa using placed), Document.read_eq_ofBlocks, content, split]
  · change ((⟨none, own⟩ :: blocks : List Block).flatMap fun b => (b.findings table).map Block.diagnostic) = []
    rw [List.flatMap_cons, fine, (Block.entry_requests said).2]
    rfl

def sample : Outline where
  bindings := .ofList [("host", "https://x.example.com"), ("note", "")]
  entries := [
    { title := some "Sign in", comments := ["as a guest", ""], name := some "sign-in", bindings := .empty
      method := "POST", url := "{{host}}/users/{{ user id }}", version := some "HTTP/1.1"
      headers := .ofList [("Accept", "text/html"), ("X-Trace", "a: b")]
      body := some (.inline "\n@not = declared\n# kept") },
    { title := none, comments := [], name := none, bindings := .ofList [("page", "1")]
      method := "GET", url := "{{host}}/list?page={{page}}", version := none, headers := .empty
      body := some (.file "./query.json") }]

theorem writable_sample : sample.Writable .standard := by
  have signIn : Line.Target "{{host}}/users/{{ user id }}".toList := by
    have front : Line.Target "{{host}}/users/".toList := Line.target_of_inked (by decide)
    exact front.append (@Line.Target.placeholder " user id ".toList [] (by decide) .nil)
  have list : Line.Target "{{host}}/list?page={{page}}".toList := Line.target_of_inked (by decide)
  have silent : ∀ text ∈ ["as a guest", ""], Neat text.toList ∧ ¬ Line.NamesRequest text.toList := by
    refine List.forall_mem_cons.mpr ⟨⟨by decide, Line.not_namesRequest (by decide)⟩,
      List.forall_mem_singleton.mpr ⟨by decide, Line.not_namesRequest (by decide)⟩⟩
  have version : ∀ version ∈ some "HTTP/1.1", Line.Version version.toList := by
    rintro _ ⟨⟩
    have one : ∀ c ∈ ['1'], isDigit c = true := List.forall_mem_singleton.mpr (by decide)
    exact ⟨['1'], by decide, one, .inr ⟨['1'], by decide, one, rfl⟩⟩
  have body : ∀ body ∈ some (Body.inline "\n@not = declared\n# kept"), body.Writable := by
    rintro _ ⟨⟩
    exact ⟨by decide, by decide, by decide, by decide⟩
  have file : ∀ body ∈ some (Body.file "./query.json"), body.Writable := by
    rintro _ ⟨⟩
    exact ⟨by decide, by decide⟩
  refine ⟨by decide, ?_, by decide⟩
  refine List.forall_mem_cons.mpr ⟨?_, List.forall_mem_singleton.mpr ?_⟩
  · exact ⟨by decide, silent, by decide, by decide, by decide, ⟨by decide, signIn, by decide⟩, version,
      by decide, body⟩
  · exact ⟨by decide, by simp, by decide, by decide, by decide, ⟨by decide, list, by decide⟩,
      by simp, by decide, file⟩

theorem parse_text_sample : sample.Writable .standard ∧
    (∀ e ∈ sample.entries, Line.Capitals e.method.toList) ∧ "book.http" ≠ "" ∧
    ∃ d, Document.parse .standard "book.http" (sample.text ++ String.ofList (List.replicate 1 '\n')) =
        .ok d ∧ d.path = "book.http" ∧ d.outline = sample ∧ d.diagnostics = [] :=
  ⟨writable_sample, by decide, by decide, parse_text writable_sample (by decide) (by decide) 1⟩

def asking (method : String) : Outline where
  bindings := .empty
  entries := [
    { title := none, comments := [], name := none, bindings := .empty, method := method
      url := "https://x.example.com/", version := none, headers := .empty, body := none }]

theorem writable_asking {method : String} (accepted : table.contains method = true) :
    (asking method).Writable table := by
  have target : Line.Target "https://x.example.com/".toList := Line.target_of_inked (by decide)
  have unbroken : Unbroken "https://x.example.com/".toList := by decide
  refine ⟨by simp [asking, Roster.empty], List.forall_mem_singleton.mpr ?_, by simp [asking, Roster.empty]⟩
  exact ⟨by simp, by simp, by simp, by simp [Roster.empty], accepted, ⟨by simp, target, unbroken⟩, by simp,
    by simp [Roster.empty], by simp⟩

/-- No reading gives back a request whose method is not in upper case. -/
theorem not_outline_asking {method : String} (other : ¬ Line.Capitals method.toList) (path content : String) :
    ¬ ∃ d, Document.parse table path content = .ok d ∧ d.outline = asking method := by
  rintro ⟨d, parsed, same⟩
  have capitals := Document.capitals_of_parse parsed
  rw [same] at capitals
  exact other (capitals _ List.mem_cons_self)

/-- That the methods are accepted is not enough: they may be accepted in lower case, or because they
were added, and hold other characters than letters. -/
theorem not_parse_text_of_accepted :
    ((asking "get").Writable .standard ∧ ¬ ∃ d,
      Document.parse .standard "book.http" (asking "get").text = .ok d ∧ d.outline = asking "get") ∧
    ((asking "M-SEARCH").Writable (.withExtra ["M-SEARCH"]) ∧ ¬ ∃ d,
      Document.parse (.withExtra ["M-SEARCH"]) "book.http" (asking "M-SEARCH").text = .ok d ∧
        d.outline = asking "M-SEARCH") :=
  ⟨⟨writable_asking (by decide), not_outline_asking (by decide) _ _⟩,
    writable_asking (by decide), not_outline_asking (by decide) _ _⟩

end Outline

end RequestBook

import Mathlib.Data.List.TakeWhile
import RequestBook.Proofs.Blocks
import RequestBook.Proofs.Roster

/-! Reading line by line against reading block by block. Each phase of a block runs through its own
lines and leaves what the block says of them; at a separator nothing is left over. -/
namespace RequestBook

def Document.reported (d : Document) (findings : List (Problem × NumberedLine)) : Document :=
  { d with diagnostics := d.diagnostics ++ findings.map Block.diagnostic }

@[simp] theorem Document.reported_nil (d : Document) : d.reported [] = d := by
  simp [Document.reported]

@[simp] theorem Document.reported_append (d : Document) (first second : List (Problem × NumberedLine)) :
    (d.reported first).reported second = d.reported (first ++ second) := by
  simp [Document.reported]

@[simp] theorem Document.requests_reported (d : Document) (findings : List (Problem × NumberedLine)) :
    (d.reported findings).requests = d.requests := rfl

theorem Reading.report_eq (d : Document) (phase : Phase) (problem : Problem) (line : NumberedLine) :
    Reading.report ⟨d, phase⟩ problem line = ⟨d.reported [(problem, line)], phase⟩ := rfl

def Request.withHeaders (r : Request) (headers : Headers) : Request := { r with headers := headers }

@[simp] theorem Request.headers_withHeaders (r : Request) (headers : Headers) :
    (r.withHeaders headers).headers = headers := rfl

@[simp] theorem Request.withHeaders_withHeaders (r : Request) (first second : Headers) :
    (r.withHeaders first).withHeaders second = r.withHeaders second := rfl

@[simp] theorem Request.withHeaders_self (r : Request) : r.withHeaders r.headers = r := rfl

def Request.withBody (r : Request) (body : Option Body) : Request := { r with body := body }

theorem Request.withBody_of_eq {r : Request} {body : Option Body} (same : r.body = body) :
    r.withBody body = r := by
  subst same
  rfl

namespace Block

variable {table : MethodTable} {d : Document}

theorem separatorTitle?_of_plain {line : NumberedLine} (plain : isSeparator line = false) :
    Line.separatorTitle? line.text = none := by
  simpa [isSeparator] using plain

theorem read_preamble {line : NumberedLine} (plain : isSeparator line = false) (p : Preamble) :
    Reading.read table ⟨d, .preamble p⟩ line = Reading.readPreamble ⟨d, .preamble p⟩ table p line := by
  simp only [Reading.read, separatorTitle?_of_plain plain]

theorem read_headers {line : NumberedLine} (plain : isSeparator line = false) (request : Request)
    (last : Option String) :
    Reading.read table ⟨d, .headers request last⟩ line =
      Reading.readHeader ⟨d, .headers request last⟩ request last line := by
  simp only [Reading.read, separatorTitle?_of_plain plain]

theorem read_body {line : NumberedLine} (plain : isSeparator line = false) (request : Request)
    (kept : List NumberedLine) :
    Reading.read table ⟨d, .body request kept⟩ line = ⟨d, .body request (kept ++ [line])⟩ := by
  simp only [Reading.read, separatorTitle?_of_plain plain]

theorem foldl_body (request : Request) (kept lines : List NumberedLine)
    (plain : ∀ line ∈ lines, isSeparator line = false) :
    lines.foldl (Reading.read table) ⟨d, .body request kept⟩ = ⟨d, .body request (kept ++ lines)⟩ := by
  induction lines generalizing kept with
  | nil => simp
  | cons line rest ih =>
    obtain ⟨plainLine, plainRest⟩ := List.forall_mem_cons.mp plain
    rw [List.foldl_cons, read_body plainLine]
    simpa using ih (kept ++ [line]) plainRest

theorem trim_ne_nil {text : List Char} (inked : Text.allBlank text = false) : Text.trim text ≠ [] := by
  intro empty
  have blank : ∀ c ∈ Text.trimStart text, Text.isBlank c = true := by
    simpa [Text.trim, Text.trimEnd] using empty
  have start : Text.trimStart text = [] := by
    cases kept : Text.trimStart text with
    | nil => rfl
    | cons c rest =>
      have visible := List.head?_dropWhile_not Text.isBlank text
      rw [Text.trimStart] at kept
      simp [kept, blank c (by rw [Text.trimStart, kept]; simp)] at visible
  rw [Text.trimStart, List.dropWhile_eq_nil_iff] at start
  have all : Text.allBlank text = true := List.all_eq_true.mpr start
  simp [inked] at all

/-- A continuation is never empty, since its line is not blank. -/
theorem continued_eq {line : NumberedLine} {more : String} (inked : line.isBlank = false)
    (kind : Line.classifyHeader line.text = .continuation more) (value : String) :
    Reading.continued more value = value ++ " " ++ more := by
  have visible : Text.trim line.text ≠ [] := trim_ne_nil inked
  have text : more = String.ofList (Text.trim line.text) := by
    rw [Line.classifyHeader] at kind
    split at kind
    · exact (HeaderLine.continuation.inj kind).symm
    · dsimp only at kind
      split at kind
      · contradiction
      · split at kind
        · contradiction
        · split at kind <;> contradiction
  have inside : more.isEmpty = false := by
    rw [text]
    cases kept : Text.trim line.text with
    | nil => contradiction
    | cons c rest => simp
  simp [Reading.continued, inside]

/-- A line of the header section behind the field `name`: it is a field of its own, or it may
continue that field. -/
theorem readHeader_after {line : NumberedLine} (inked : line.isBlank = false) (request : Request)
    (name : String) :
    Reading.readHeader ⟨d, .headers request (some name)⟩ request (some name) line =
      ⟨d.reported (findingsOf (headerProblem? true) [line]),
        match field? line with
        | some (own, value) => .headers (request.withHeaders (request.headers.insert own value)) (some own)
        | none => .headers (request.withHeaders
            (request.headers.modify name (continued · (continuation? line).toList))) (some name)⟩ := by
  simp only [Reading.readHeader, inked, Bool.false_eq_true, if_false]
  cases kind : Line.classifyHeader line.text with
  | continuation more =>
    have change : Reading.continued more = (continued · [more]) :=
      funext fun value => continued_eq inked kind value
    simp [findingsOf, headerProblem?, field?, continuation?, kind, change, Request.withHeaders]
  | field own value => simp [findingsOf, headerProblem?, field?, kind, Request.withHeaders]
  | comment => simp [findingsOf, headerProblem?, field?, continuation?, kind, continued]
  | missingColon =>
    simp [findingsOf, headerProblem?, field?, continuation?, kind, continued, Reading.report_eq]
  | emptyName =>
    simp [findingsOf, headerProblem?, field?, continuation?, kind, continued, Reading.report_eq]

theorem readHeader_blank {line : NumberedLine} (blank : line.isBlank = true) (request : Request)
    (last : Option String) :
    Reading.readHeader ⟨d, .headers request last⟩ request last line = ⟨d, .body request []⟩ := by
  simp [Reading.readHeader, blank]

/-- A line of the header section before any field. -/
theorem readHeader_before {line : NumberedLine} (inked : line.isBlank = false) (request : Request) :
    Reading.readHeader ⟨d, .headers request none⟩ request none line =
      ⟨d.reported (findingsOf (headerProblem? false) [line]),
        match field? line with
        | some (own, value) => .headers (request.withHeaders (request.headers.insert own value)) (some own)
        | none => .headers request none⟩ := by
  simp only [Reading.readHeader, inked, Bool.false_eq_true, if_false]
  cases kind : Line.classifyHeader line.text <;>
    simp [findingsOf, headerProblem?, field?, kind, Reading.report_eq, Request.withHeaders]

theorem headerProblem?_of_field {line : NumberedLine} {own : String × String}
    (found : field? line = some own) (afterField : Bool) : headerProblem? afterField line = none := by
  unfold field? at found
  unfold headerProblem?
  cases kind : Line.classifyHeader line.text <;> simp_all

theorem findingsOf_cons (problem? : NumberedLine → Option Problem) (line : NumberedLine)
    (rest : List NumberedLine) :
    findingsOf problem? (line :: rest) = findingsOf problem? [line] ++ findingsOf problem? rest := by
  change List.filterMap _ ([line] ++ rest) = _
  exact List.filterMap_append

theorem continued_append (value : String) (first second : List String) :
    continued value (first ++ second) = continued (continued value first) second :=
  List.foldl_append

theorem beforeField_cons_none {line : NumberedLine} (none : field? line = none)
    (rest : List NumberedLine) : beforeField (line :: rest) = line :: beforeField rest := by
  simp [beforeField, none]

theorem beforeField_cons_some {line : NumberedLine} {own : String × String}
    (found : field? line = some own) (rest : List NumberedLine) : beforeField (line :: rest) = [] := by
  simp [beforeField, found]

/-- Running through header lines behind the field `name`. -/
theorem foldl_headers_after (lines : List NumberedLine) (request : Request) (name : String)
    (plain : ∀ line ∈ lines, isSeparator line = false)
    (inked : ∀ line ∈ lines, line.isBlank = false) :
    ∃ last, lines.foldl (Reading.read table) ⟨d, .headers request (some name)⟩ =
      ⟨d.reported (findingsOf (headerProblem? true) lines),
        .headers (request.withHeaders ((request.headers.modify name
          (continued · ((beforeField lines).filterMap continuation?))).insertAll (fields lines)))
          (some last)⟩ := by
  induction lines generalizing d request name with
  | nil => exact ⟨name, by simp [findingsOf, beforeField, continued, fields]⟩
  | cons line rest ih =>
    obtain ⟨plainLine, plainRest⟩ := List.forall_mem_cons.mp plain
    obtain ⟨inkedLine, inkedRest⟩ := List.forall_mem_cons.mp inked
    rw [List.foldl_cons, read_headers plainLine, readHeader_after inkedLine]
    cases own : field? line with
    | some found =>
      obtain ⟨last, run⟩ := ih (request.withHeaders (request.headers.insert found.1 found.2)) found.1
        plainRest inkedRest
      refine ⟨last, run.trans ?_⟩
      rw [Document.reported_append, ← findingsOf_cons, beforeField_cons_some own]
      simp [fields, own, Roster.modify_insert, continued]
    | none =>
      obtain ⟨last, run⟩ := ih (request.withHeaders
        (request.headers.modify name (continued · (continuation? line).toList))) name plainRest inkedRest
      refine ⟨last, run.trans ?_⟩
      rw [Document.reported_append, ← findingsOf_cons, beforeField_cons_none own]
      have texts : (line :: beforeField rest).filterMap continuation? =
          (continuation? line).toList ++ (beforeField rest).filterMap continuation? := by
        cases found : continuation? line <;> simp [found]
      simp only [Request.headers_withHeaders, Request.withHeaders_withHeaders, Roster.modify_modify,
        fields, own, texts, continued_append, Function.comp_def]

/-- Running through a header section from its beginning. -/
theorem foldl_headers (lines : List NumberedLine) (request : Request)
    (plain : ∀ line ∈ lines, isSeparator line = false)
    (inked : ∀ line ∈ lines, line.isBlank = false) :
    ∃ last, lines.foldl (Reading.read table) ⟨d, .headers request none⟩ =
      ⟨d.reported (headerFindings lines),
        .headers (request.withHeaders (request.headers.insertAll (fields lines))) last⟩ := by
  induction lines generalizing d with
  | nil => exact ⟨none, by simp [headerFindings, findingsOf, beforeField, fields]⟩
  | cons line rest ih =>
    obtain ⟨plainLine, plainRest⟩ := List.forall_mem_cons.mp plain
    obtain ⟨inkedLine, inkedRest⟩ := List.forall_mem_cons.mp inked
    rw [List.foldl_cons, read_headers plainLine, readHeader_before inkedLine]
    cases own : field? line with
    | some found =>
      obtain ⟨last, run⟩ := foldl_headers_after rest
        (request.withHeaders (request.headers.insert found.1 found.2)) found.1 plainRest inkedRest
      refine ⟨some last, run.trans ?_⟩
      have findings : findingsOf (headerProblem? false) [line] ++ findingsOf (headerProblem? true) rest =
          headerFindings (line :: rest) := by
        simp [headerFindings, beforeField, own, findingsOf, headerProblem?_of_field own]
      rw [Document.reported_append, findings]
      simp [fields, own, Roster.modify_insert]
    | none =>
      obtain ⟨last, run⟩ := ih plainRest inkedRest
      refine ⟨last, run.trans ?_⟩
      have findings : findingsOf (headerProblem? false) [line] ++ headerFindings rest =
          headerFindings (line :: rest) := by
        rw [headerFindings, headerFindings, beforeField_cons_none own,
          findingsOf_cons _ _ (beforeField rest), List.append_assoc]
        simp [own]
      rw [Document.reported_append, findings]
      simp [fields, own]

/-- The document after the declarations of a block, which are the file's if no request came before. -/
def declaring (d : Document) (pairs : List (String × String)) : Document :=
  if d.requests.isEmpty then { d with bindings := d.bindings.insertAll pairs } else d

def owned (d : Document) (pairs : List (String × String)) : List (String × String) :=
  if d.requests.isEmpty then [] else pairs

def noted (table : MethodTable) (d : Document) (p : Preamble) (lines : List NumberedLine) : Preamble where
  name := (lines.filterMap (directive? table)).getLast?.or p.name
  title := p.title
  comments := p.comments ++ lines.filterMap (comment? table)
  bindings := p.bindings.insertAll (owned d (lines.filterMap (declaration? table)))

@[simp] theorem requests_declaring (d : Document) (pairs : List (String × String)) :
    (declaring d pairs).requests = d.requests := by
  unfold declaring
  split <;> rfl

@[simp] theorem declaring_nil (d : Document) : declaring d [] = d := by
  unfold declaring
  split <;> rfl

theorem declaring_reported (d : Document) (findings : List (Problem × NumberedLine))
    (pairs : List (String × String)) :
    declaring (d.reported findings) pairs = (declaring d pairs).reported findings := by
  by_cases first : d.requests.isEmpty <;> simp [declaring, Document.reported, first]

theorem declaring_declaring (d : Document) (pairs more : List (String × String)) :
    declaring (declaring d pairs) more = declaring d (pairs ++ more) := by
  by_cases first : d.requests.isEmpty <;> simp [declaring, first, Roster.insertAll_append]

theorem noted_congr {e : Document} (same : e.requests = d.requests) (p : Preamble)
    (lines : List NumberedLine) : noted table e p lines = noted table d p lines := by
  simp only [noted, owned, same]

theorem noted_noted (p : Preamble) (lines more : List NumberedLine) :
    noted table d (noted table d p lines) more = noted table d p (lines ++ more) := by
  by_cases first : d.requests.isEmpty <;>
    simp [noted, owned, first, Roster.insertAll_append, List.getLast?_append, Option.or_assoc]

theorem readPreamble_eq {line : NumberedLine} (closed : requestLine? table line = none) (p : Preamble) :
    Reading.readPreamble ⟨d, .preamble p⟩ table p line =
      ⟨(declaring d ([line].filterMap (declaration? table))).reported
          (findingsOf (preambleProblem? table) [line]),
        .preamble (noted table d p [line])⟩ := by
  unfold requestLine? at closed
  unfold Reading.readPreamble
  cases kind : Line.classify table line.text with
  | requestLine => simp [kind] at closed
  | declaration name value =>
    by_cases first : d.requests.isEmpty <;>
      simp [Reading.declare, declaring, noted, owned, findingsOf, preambleProblem?, declaration?,
        directive?, comment?, kind, first]
  | _ =>
    simp [Reading.report_eq, declaring, noted, owned, findingsOf, preambleProblem?, declaration?,
      directive?, comment?, kind]

theorem foldl_preamble (lines : List NumberedLine) (p : Preamble)
    (plain : ∀ line ∈ lines, isSeparator line = false)
    (closed : ∀ line ∈ lines, requestLine? table line = none) :
    lines.foldl (Reading.read table) ⟨d, .preamble p⟩ =
      ⟨(declaring d (lines.filterMap (declaration? table))).reported
          (findingsOf (preambleProblem? table) lines),
        .preamble (noted table d p lines)⟩ := by
  induction lines generalizing d p with
  | nil => simp [declaring, noted, owned, findingsOf]
  | cons line rest ih =>
    have same : ((declaring d ([line].filterMap (declaration? table))).reported
        (findingsOf (preambleProblem? table) [line])).requests = d.requests := requests_declaring d _
    obtain ⟨plainLine, plainRest⟩ := List.forall_mem_cons.mp plain
    obtain ⟨closedLine, closedRest⟩ := List.forall_mem_cons.mp closed
    rw [List.foldl_cons, read_preamble plainLine, readPreamble_eq closedLine,
      ih _ plainRest closedRest, noted_congr same, noted_noted, declaring_reported, declaring_declaring,
      Document.reported_append, ← findingsOf_cons, ← List.filterMap_append, List.singleton_append]

theorem classify_of_requestLine? {line : NumberedLine} {method url : String} {version : Option String}
    (opens : requestLine? table line = some (method, url, version)) :
    Line.classify table line.text = .requestLine method url version := by
  unfold requestLine? at opens
  split at opens <;> simp_all

theorem classify_of_directive? {line : NumberedLine} {name : String}
    (names : directive? table line = some name) : Line.classify table line.text = .nameDirective name := by
  unfold directive? at names
  split at names <;> simp_all

theorem classify_of_comment? {line : NumberedLine} {text : String}
    (comments : comment? table line = some text) : Line.classify table line.text = .comment text := by
  unfold comment? at comments
  split at comments <;> simp_all

theorem classifyHeader_of_field? {line : NumberedLine} {name value : String}
    (found : field? line = some (name, value)) : Line.classifyHeader line.text = .field name value := by
  unfold field? at found
  split at found <;> simp_all

theorem readPreamble_requestLine {line : NumberedLine} {method url : String} {version : Option String}
    (opens : requestLine? table line = some (method, url, version)) (p : Preamble) :
    Reading.readPreamble ⟨d, .preamble p⟩ table p line =
      ⟨d.reported (if table.contains method then [] else [(.unknownMethod method, line)]),
        .headers { Request.ofLine method url line.number with
          version := version, name := p.name, title := p.title, comments := p.comments
          bindings := p.bindings } none⟩ := by
  unfold Reading.readPreamble
  by_cases known : table.contains method <;>
    simp [classify_of_requestLine? opens, Reading.openRequest, known, Reading.report_eq]

def adding (d : Document) (requests : List Request) : Document :=
  { d with requests := d.requests ++ requests.map d.link }

@[simp] theorem adding_nil (d : Document) : adding d [] = d := by
  simp [adding]

theorem adding_reported (d : Document) (findings : List (Problem × NumberedLine)) (requests : List Request) :
    adding (d.reported findings) requests = (adding d requests).reported findings := rfl

theorem adding_adding (d : Document) (first second : List Request) :
    adding (adding d first) second = adding d (first ++ second) := by
  simp only [adding, List.map_append, List.append_assoc]
  rfl

/-- The first line that is not blank is found whether or not the blank lines at the end are kept. -/
theorem head?_dropWhile_payload (lines : List NumberedLine) :
    ((payload lines).dropWhile NumberedLine.isBlank).head? = lines.find? fun line => !line.isBlank := by
  induction lines using List.reverseRecOn with
  | nil => simp [payload]
  | append_singleton lines line ih =>
    by_cases blank : line.isBlank = true
    · rw [payload, List.rdropWhile_concat_pos _ _ _ blank, List.find?_append]
      rw [payload] at ih
      simp [ih, blank]
    · rw [payload, List.rdropWhile_concat_neg _ _ _ blank, List.find?_not_eq_head?_dropWhile]

theorem bodyOf_eq (lines : List NumberedLine) : Reading.bodyOf lines = (body? lines, bodyFinding? lines) := by
  have first := head?_dropWhile_payload lines
  have trimmed : Reading.withoutTrailingBlanks lines = payload lines := rfl
  simp only [Reading.bodyOf, trimmed]
  cases kept : (payload lines).dropWhile NumberedLine.isBlank with
  | nil =>
    rw [kept, List.head?_nil] at first
    have blank : lines.all NumberedLine.isBlank = true := by
      simpa [List.find?_eq_none] using first.symm
    simp [body?, bodyFinding?, bodyFile?, blank, ← first]
  | cons line rest =>
    rw [kept, List.head?_cons] at first
    have inked : lines.all NumberedLine.isBlank = false := by
      have member := List.mem_of_find?_eq_some first.symm
      have visible := List.find?_some first.symm
      refine List.all_eq_false.mpr ⟨line, member, by simpa using visible⟩
    cases reference : Reading.fileReference? line.text with
    | none => simp [body?, bodyFinding?, bodyFile?, inked, ← first, reference, Text.joinWith]
    | some path => simp [body?, bodyFinding?, bodyFile?, inked, ← first, reference, kept]

theorem close_body (request : Request) (lines : List NumberedLine) :
    (Reading.close ⟨d, .body request lines⟩).document =
      (adding d [request.withBody (body? lines)]).reported (bodyFinding? lines).toList := by
  simp only [Reading.close, bodyOf_eq]
  cases bodyFinding? lines with
  | none => rw [Option.toList_none, Document.reported_nil]; rfl
  | some finding => rfl

/-- Everything behind the request line, up to the end of the block. -/
theorem foldl_behind (lines : List NumberedLine) (request : Request)
    (plain : ∀ line ∈ lines, isSeparator line = false) (bare : request.body = none) :
    let headers := lines.takeWhile fun line => !line.isBlank
    let body := (lines.dropWhile fun line => !line.isBlank).tail
    (lines.foldl (Reading.read table) ⟨d, .headers request none⟩).close.document =
      (adding d [(request.withHeaders (request.headers.insertAll (fields headers))).withBody
        (body? body)]).reported (headerFindings headers ++ (bodyFinding? body).toList) := by
  intro headers body
  have whole : headers ++ lines.dropWhile (fun line => !line.isBlank) = lines :=
    List.takeWhile_append_dropWhile
  have inked : ∀ line ∈ headers, line.isBlank = false := fun line member => by
    simpa using List.mem_takeWhile_imp member
  obtain ⟨last, run⟩ := @foldl_headers table d headers request
    (fun line member => plain line (List.takeWhile_subset _ member)) inked
  rw [← whole, List.foldl_append, run]
  cases rest : lines.dropWhile fun line => !line.isBlank with
  | nil =>
    have empty : body = [] := by simp [body, rest]
    have silent : bodyFinding? body = none := by simp [empty, bodyFinding?, bodyFile?]
    have same : (request.withHeaders (request.headers.insertAll (fields headers))).body = body? body := by
      simp [empty, body?, bare, Request.withHeaders]
    rw [silent, Request.withBody_of_eq same, Option.toList_none, List.append_nil, ← adding_reported]
    rfl
  | cons blank after =>
    have tail : body = after := by simp [body, rest]
    have member : ∀ line ∈ blank :: after, line ∈ lines := fun line inside =>
      (List.dropWhile_sublist _).subset (rest ▸ inside)
    have ends : blank.isBlank = true := by
      simpa [rest] using List.head?_dropWhile_not (fun line : NumberedLine => !line.isBlank) lines
    rw [List.foldl_cons, read_headers (plain blank (member blank (by simp))), readHeader_blank ends,
      foldl_body _ _ _ fun line inside => plain line (member line (List.mem_cons_of_mem _ inside)),
      close_body, List.nil_append, adding_reported, Document.reported_append, tail]

theorem preamble_closed (b : Block) :
    ∀ line ∈ b.preamble table, requestLine? table line = none := fun line member => by
  simpa using List.mem_takeWhile_imp member

/-- A block has no request line, or it is the preamble, the request line and what is behind it. -/
theorem opening_cases (table : MethodTable) (b : Block) :
    (b.opening? table = none ∧ b.preamble table = b.lines ∧ b.behind table = []) ∨
    ∃ line method url version, b.opening? table = some (line, method, url, version) ∧
      requestLine? table line = some (method, url, version) ∧
      b.lines = b.preamble table ++ line :: b.behind table := by
  have whole : b.preamble table ++ b.lines.dropWhile (fun line => (requestLine? table line).isNone) =
      b.lines := List.takeWhile_append_dropWhile
  cases rest : b.lines.dropWhile fun line => (requestLine? table line).isNone with
  | nil =>
    rw [rest, List.append_nil] at whole
    refine .inl ⟨?_, whole, by rw [behind, rest, List.tail_nil]⟩
    rw [opening?, List.findSome?_eq_none_iff]
    intro line member
    rw [preamble_closed b line (whole ▸ member), Option.map_none]
  | cons line after =>
    have tail : b.behind table = after := by rw [behind, rest, List.tail_cons]
    have opens : (requestLine? table line).isSome = true := by
      simpa [rest] using List.head?_dropWhile_not (fun line => (requestLine? table line).isNone) b.lines
    obtain ⟨⟨method, url, version⟩, found⟩ := Option.isSome_iff_exists.mp opens
    rw [rest] at whole
    refine .inr ⟨line, method, url, version, ?_, found, by rw [tail, whole]⟩
    have silent : (b.preamble table).findSome? (fun line => (requestLine? table line).map (line, ·)) = none := by
      rw [List.findSome?_eq_none_iff]
      intro l member
      rw [preamble_closed b l member, Option.map_none]
    rw [opening?, ← whole, List.findSome?_append, silent]
    simp [found]

/-- The request of a block stands on one of its lines, which is a request line and says the same. -/
theorem exists_opening {b : Block} {own : Variables} {r : Request} (read : b.request? table own = some r) :
    ∃ line ∈ b.lines, r.line = line.number ∧
      Line.classify table line.text = .requestLine r.method r.url r.version := by
  rcases opening_cases table b with ⟨none, _⟩ | ⟨line, method, url, version, found, opens, whole⟩
  · rw [request?, none] at read
    cases read
  · rw [request?, found] at read
    cases read
    exact ⟨line, by simp [whole], rfl, classify_of_requestLine? opens⟩

def extend (table : MethodTable) (d : Document) (b : Block) : Document :=
  (adding (declaring d (b.declarations table))
    (b.request? table (.ofList (owned d (b.declarations table)))).toList).reported (b.findings table)

/-- The lines of a block, read one by one. -/
theorem foldl_block (b : Block) (plain : ∀ line ∈ b.lines, isSeparator line = false) :
    (b.lines.foldl (Reading.read table) ⟨d, .preamble (.titled b.title)⟩).close.document =
      extend table d b := by
  have before := @foldl_preamble table d (b.preamble table) (.titled b.title)
    (fun line member => plain line (List.takeWhile_subset _ member)) (preamble_closed b)
  rcases opening_cases table b with ⟨none, all, nothing⟩ | ⟨line, method, url, version, found, opens, whole⟩
  · have silent : b.findings table = findingsOf (preambleProblem? table) b.lines := by
      simp [findings, all, unknownMethod?, none, headerLines, bodyLines, nothing, headerFindings,
        findingsOf, beforeField, bodyFinding?, bodyFile?]
    have unopened : b.request? table (.ofList (owned d (b.declarations table))) = Option.none := by
      rw [request?, none, Option.map_none]
    rw [all] at before
    rw [before, extend, unopened, silent, declarations, all, Option.toList_none, adding_nil]
    rfl
  · rw [whole, List.foldl_append, before, List.foldl_cons,
      read_preamble (plain line (by rw [whole]; simp)), readPreamble_requestLine opens,
      foldl_behind _ _ (fun l member => plain l (by rw [whole]; simp [member])) rfl]
    have warned : (b.unknownMethod? table).toList =
        if table.contains method then [] else [(.unknownMethod method, line)] := by
      rw [unknownMethod?, found]
      by_cases known : table.contains method <;> simp [known]
    rw [extend, adding_reported, adding_reported, Document.reported_append, Document.reported_append,
      findings, warned, request?, found, Option.map_some, Option.toList_some]
    simp only [noted, Preamble.titled, Option.or_none, List.nil_append]
    rfl

theorem titles_of_plain {lines : List NumberedLine} (plain : ∀ line ∈ lines, isSeparator line = false) :
    lines.filterMap (fun line => Line.separatorTitle? line.text) = [] := by
  rw [List.filterMap_eq_nil_iff]
  intro line member
  exact separatorTitle?_of_plain (plain line member)

theorem split_of_plain {lines : List NumberedLine} (plain : ∀ line ∈ lines, isSeparator line = false)
    (title : Option String) : split title lines = [⟨title, lines⟩] := by
  rw [split, titles_of_plain plain, List.splitOnP_eq_singleton plain]
  rfl

theorem split_separator {before : List NumberedLine} (plain : ∀ line ∈ before, isSeparator line = false)
    {line : NumberedLine} {next : Option String} (separates : Line.separatorTitle? line.text = some next)
    (title : Option String) (rest : List NumberedLine) :
    split title (before ++ line :: rest) = ⟨title, before⟩ :: split next rest := by
  have cut : isSeparator line = true := by simp [isSeparator, separates]
  have titles : (line :: rest).filterMap (fun line => Line.separatorTitle? line.text) =
      next :: rest.filterMap fun line => Line.separatorTitle? line.text := by
    simp [separates]
  rw [split, List.splitOnP_append_cons_of_forall_mem plain line cut, List.filterMap_append,
    titles_of_plain plain, List.nil_append, titles]
  rfl

/-- Lines read one by one, given those of the block that is open. -/
theorem foldl_lines (lines before : List NumberedLine) (title : Option String)
    (plain : ∀ line ∈ before, isSeparator line = false) :
    ((before ++ lines).foldl (Reading.read table) ⟨d, .preamble (.titled title)⟩).close.document =
      (split title (before ++ lines)).foldl (extend table) d := by
  induction lines generalizing before title d with
  | nil =>
    rw [List.append_nil, split_of_plain plain]
    exact foldl_block ⟨title, before⟩ plain
  | cons line rest ih =>
    cases separates : Line.separatorTitle? line.text with
    | none =>
      have longer : ∀ l ∈ before ++ [line], isSeparator l = false := by
        intro l member
        rcases List.mem_append.mp member with inside | last
        · exact plain l inside
        · rw [List.mem_singleton.mp last]
          simp [isSeparator, separates]
      simpa using ih (before ++ [line]) title longer
    | some next =>
      have block : ((before.foldl (Reading.read table) ⟨d, .preamble (.titled title)⟩).close).document =
          extend table d ⟨title, before⟩ := foldl_block ⟨title, before⟩ plain
      have after := @ih (extend table d ⟨title, before⟩) [] next (by simp)
      rw [List.nil_append] at after
      rw [split_separator plain separates, List.foldl_append, List.foldl_cons, List.foldl_cons, ← after,
        Reading.read, separates]
      rw [← block]

/-- Behind the first request, a block adds its request with its own variables. -/
theorem foldl_extend_later (blocks : List Block) (begun : d.requests ≠ []) :
    blocks.foldl (extend table) d =
      (adding d (blocks.filterMap fun b => b.request? table (.ofList (b.declarations table)))).reported
        (blocks.flatMap (findings table)) := by
  induction blocks generalizing d with
  | nil => simp
  | cons b rest ih =>
    have step : extend table d b =
        (adding d (b.request? table (.ofList (b.declarations table))).toList).reported (b.findings table) := by
      simp [extend, declaring, owned, begun]
    have still : (extend table d b).requests ≠ [] := by
      simp [step, Document.reported, adding, begun]
    rw [List.foldl_cons, ih still, step, adding_reported, Document.reported_append, adding_adding]
    congr 2
    cases found : b.request? table (.ofList (b.declarations table)) <;> simp [found]

/-- As long as no request has come, the declarations of a block are the file's. -/
theorem extend_first (fresh : d.requests = []) (b : Block) :
    extend table d b =
      (adding (declaring d (b.declarations table)) (b.request? table .empty).toList).reported
        (b.findings table) := by
  simp only [extend, owned, fresh, List.isEmpty_nil, if_true]
  rfl

/-- The block with the first request line, and those behind it. -/
theorem foldl_extend_opening {first : Block} (opens : (first.opening? table).isSome = true)
    (later : List Block) (fresh : d.requests = []) :
    (first :: later).foldl (extend table) d =
      (adding (declaring d (first.declarations table)) ((first.request? table .empty).toList ++
        later.filterMap fun b => b.request? table (.ofList (b.declarations table)))).reported
        (first.findings table ++ later.flatMap (findings table)) := by
  obtain ⟨opening, found⟩ := Option.isSome_iff_exists.mp opens
  have begun : (extend table d first).requests ≠ [] := by
    simp [extend_first fresh, request?, found, adding, Document.reported]
  rw [List.foldl_cons, foldl_extend_later later begun, extend_first fresh, adding_reported,
    Document.reported_append, adding_adding]

/-- Blocks without a request line only declare. -/
theorem foldl_extend_silent (blocks : List Block) (fresh : d.requests = [])
    (silent : ∀ b ∈ blocks, b.opening? table = none) :
    blocks.foldl (extend table) d =
      (declaring d (blocks.flatMap (declarations table))).reported (blocks.flatMap (findings table)) := by
  induction blocks generalizing d with
  | nil => simp
  | cons b rest ih =>
    have step : extend table d b = (declaring d (b.declarations table)).reported (b.findings table) := by
      simp [extend_first fresh, request?, silent b (by simp)]
    have still : (extend table d b).requests = [] := by
      rw [step]
      exact (requests_declaring d _).trans fresh
    rw [List.foldl_cons, ih still fun b member => silent b (List.mem_cons_of_mem _ member), step,
      declaring_reported, Document.reported_append, declaring_declaring]
    rfl

end Block

open Block in
/-- The document of blocks by the steps that reading takes. -/
theorem Document.ofBlocks_eq (table : MethodTable) (path : String) (blocks : List Block) :
    Document.ofBlocks table path blocks =
      let silent := blocks.takeWhile fun b => (b.opening? table).isNone
      let rest := blocks.dropWhile fun b => (b.opening? table).isNone
      (adding (declaring (.empty path) ((silent ++ rest.take 1).flatMap (declarations table)))
        ((rest.take 1).filterMap (fun b => b.request? table .empty) ++
          (rest.drop 1).filterMap fun b => b.request? table (.ofList (b.declarations table)))).reported
        (blocks.flatMap (findings table)) := by
  simp only [Document.ofBlocks, Document.reported, List.map_flatMap]
  rfl

open Block in
theorem Document.foldl_extend (table : MethodTable) (path : String) (blocks : List Block) :
    blocks.foldl (extend table) (.empty path) = .ofBlocks table path blocks := by
  have whole : blocks.takeWhile (fun b => (b.opening? table).isNone) ++
      blocks.dropWhile (fun b => (b.opening? table).isNone) = blocks := List.takeWhile_append_dropWhile
  have silent : ∀ b ∈ blocks.takeWhile (fun b => (b.opening? table).isNone), b.opening? table = none :=
    fun b member => by simpa using List.mem_takeWhile_imp member
  rw [Document.ofBlocks_eq]
  dsimp only
  conv_lhs => rw [← whole]
  rw [List.foldl_append, foldl_extend_silent _ rfl silent]
  cases rest : blocks.dropWhile fun b => (b.opening? table).isNone with
  | nil =>
    rw [rest, List.append_nil] at whole
    simp [whole]
  | cons first later =>
    have opens : (first.opening? table).isSome = true := by
      simpa [rest] using List.head?_dropWhile_not (fun b => (b.opening? table).isNone) blocks
    rw [rest] at whole
    have findings : blocks.flatMap (findings table) =
        (blocks.takeWhile fun b => (b.opening? table).isNone).flatMap (findings table) ++
          (first.findings table ++ later.flatMap (findings table)) := by
      conv_lhs => rw [← whole]
      simp
    rw [foldl_extend_opening opens later (by simp [Document.empty]),
      declaring_reported, declaring_declaring, adding_reported, Document.reported_append, findings]
    have one : [first].filterMap (fun b => b.request? table .empty) =
        (first.request? table .empty).toList := by
      cases found : first.request? table .empty <;> simp [found]
    simp [one]

/-- Reading line by line is reading block by block. -/
theorem Document.read_eq_ofBlocks (table : MethodTable) (path content : String) :
    Document.read table path content =
      .ofBlocks table path (Block.split none (numberLines (Text.lines content.toList))) := by
  have run := @Block.foldl_lines table (.empty path) (numberLines (Text.lines content.toList)) [] none
    (by simp)
  rw [List.nil_append, Document.foldl_extend] at run
  exact run

theorem Document.parse_eq_ofBlocks (table : MethodTable) (path content : String) :
    Document.parse table path content =
      if path.isEmpty then .error .emptyPath
      else .ok (.ofBlocks table path (Block.split none (numberLines (Text.lines content.toList)))) := by
  rw [Document.parse, Document.read_eq_ofBlocks]

/-- Every text with a path is read. -/
theorem Document.parse_of_placed (table : MethodTable) {path : String} (placed : path ≠ "") (content : String) :
    Document.parse table path content =
      .ok (.ofBlocks table path (Block.split none (numberLines (Text.lines content.toList)))) := by
  rw [Document.parse, if_neg (by simpa using placed), Document.read_eq_ofBlocks]

/-- The requests of a document are those of its blocks, linked to the ones they read from. -/
theorem Document.block_of_mem_ofBlocks {table : MethodTable} {path : String} {blocks : List Block}
    {r : Request} (member : r ∈ (ofBlocks table path blocks).requests) :
    ∃ b ∈ blocks, ∃ (own : Variables) (file : Document) (bare : Request),
      b.request? table own = some bare ∧ r = file.link bare := by
  obtain ⟨bare, inside, rfl⟩ := List.mem_map.mp member
  rcases List.mem_append.mp inside with first | later
  · obtain ⟨b, taken, read⟩ := List.mem_filterMap.mp first
    exact ⟨b, (List.dropWhile_sublist _).subset (List.mem_of_mem_take taken), _, _, bare, read, rfl⟩
  · obtain ⟨b, left, read⟩ := List.mem_filterMap.mp later
    exact ⟨b, (List.dropWhile_sublist _).subset (List.mem_of_mem_drop left), _, _, bare, read, rfl⟩

/-- Every request that was read is the request of a block, linked to those it reads from. -/
theorem Document.block_of_parse {table : MethodTable} {path content : String} {d : Document}
    (parsed : Document.parse table path content = .ok d) {r : Request} (member : r ∈ d.requests) :
    ∃ (b : Block) (own : Variables) (file : Document) (bare : Request),
      b.request? table own = some bare ∧ r = file.link bare := by
  unfold parse at parsed
  split at parsed
  · cases parsed
  · cases parsed
    rw [read_eq_ofBlocks] at member
    obtain ⟨b, _, read⟩ := block_of_mem_ofBlocks member
    exact ⟨b, read⟩

end RequestBook

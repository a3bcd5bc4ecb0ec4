import RequestBook.Proofs.Positions

/-! The order of a document is that of its text. Findings are reported at lines further and further
down, the ones about a body as well, which are made when its block ends and name a line before. Each of
them points at the line it is about, and each request at its request line. -/
namespace RequestBook

/-- A finding points at a line of the text, at the first character that is not blank. No separator is
ever reported. -/
structure Diagnostic.PointsInto (lines : List (List Char)) (x : Diagnostic) : Prop where
  first : 1 ≤ x.line
  last : x.line ≤ lines.length
  at_text : ∃ text, lines[x.line - 1]? = some text ∧ Line.separatorTitle? text = none ∧
    x.column = (text.takeWhile Text.isBlank).length + 1
  severity : x.severity = x.code.severity

/-- A request stands on its request line. -/
structure Request.StandsOn (table : MethodTable) (lines : List (List Char)) (r : Request) : Prop where
  first : 1 ≤ r.line
  opening : ∃ text, lines[r.line - 1]? = some text ∧
    Line.classify table text = .requestLine r.method r.url r.version

/-- Findings and requests in the order of the lines that they stand on, at most one of them on each. -/
structure Document.Ordered (table : MethodTable) (lines : List (List Char)) (d : Document) : Prop where
  findings_increase : (d.diagnostics.map Diagnostic.line).Pairwise (· < ·)
  findings : ∀ x ∈ d.diagnostics, x.PointsInto lines
  requests_increase : (d.requests.map Request.line).Pairwise (· < ·)
  requests : ∀ r ∈ d.requests, r.StandsOn table lines

/-- The number of a line tells where it stands. -/
theorem getElem?_of_mem_numberLines {lines : List (List Char)} {line : NumberedLine}
    (member : line ∈ numberLines lines) :
    1 ≤ line.number ∧ line.number ≤ lines.length ∧ lines[line.number - 1]? = some line.text := by
  obtain ⟨index, bound, rfl⟩ := List.mem_mapIdx.mp member
  exact ⟨Nat.le_add_left 1 index, bound, List.getElem?_eq_getElem bound⟩

namespace Document

variable (table : MethodTable) (path : String) (lines : List (List Char))

/-- The findings of all blocks stand on different lines, one behind the other. -/
theorem finding_lines_increase :
    ((ofBlocks table path (Block.split none (numberLines lines))).diagnostics.map Diagnostic.line).Pairwise
      (· < ·) := by
  have numbers : (ofBlocks table path (Block.split none (numberLines lines))).diagnostics.map
      Diagnostic.line = (Block.split none (numberLines lines)).flatMap fun b =>
        ((b.findings table).map Prod.snd).map NumberedLine.number := by
    change List.map _ (List.flatMap _ _) = _
    rw [List.map_flatMap]
    refine List.flatMap_congr fun b _ => ?_
    rw [List.map_map, List.map_map]
    rfl
  have inside := (Block.lines_split_sublist none (numberLines lines)).map NumberedLine.number
  rw [List.map_flatMap] at inside
  rw [numbers]
  refine (numbers_increase lines).sublist ?_
  refine (List.Sublist.flatMap_right _ fun b _ => ?_).trans inside
  exact (b.findings_sublist table).map NumberedLine.number

theorem ordered_ofBlocks :
    (ofBlocks table path (Block.split none (numberLines lines))).Ordered table lines := by
  refine ⟨finding_lines_increase table path lines, ?_, request_lines_increase table path lines, ?_⟩
  · intro x member
    obtain ⟨b, inside, found⟩ := List.mem_flatMap.mp member
    obtain ⟨finding, listed, rfl⟩ := List.mem_map.mp found
    obtain ⟨own, plain⟩ := Block.mem_of_mem_split inside (Block.mem_of_mem_findings listed)
    obtain ⟨first, last, text⟩ := getElem?_of_mem_numberLines own
    exact ⟨first, last, ⟨_, text, Block.separatorTitle?_of_plain plain, rfl⟩, rfl⟩
  · intro r member
    obtain ⟨b, inside, own, file, bare, read, rfl⟩ := block_of_mem_ofBlocks member
    obtain ⟨line, listed, number, kind⟩ := Block.exists_opening read
    obtain ⟨first, _, text⟩ := getElem?_of_mem_numberLines (Block.mem_of_mem_split inside listed).1
    rw [← number] at first text
    exact ⟨first, _, text, kind⟩

/-- Every text with a path is read, and what is read is in the order of the lines of the text. -/
theorem parse_ordered (table : MethodTable) {path : String} (placed : path ≠ "") (content : String) :
    ∃ d, parse table path content = .ok d ∧ d.Ordered table (Text.lines content.toList) :=
  ⟨_, parse_of_placed table placed content, ordered_ofBlocks table path _⟩

/-- Findings of every kind, with all three ends of lines. What is wrong with the body is known at the
second separator and stands before it. -/
def troubled : String :=
  "@bad\r\n###\n  PURGE http://a\r no colon\n:\n\n< ./b.json\n\n  rest\n### next\rGET\nGET http://b"

theorem parse_troubled : ∃ d, parse .standard "book" troubled = .ok d ∧
    d.Ordered .standard (Text.lines troubled.toList) ∧
    d.diagnostics.map (fun x => (x.code, x.line, x.column)) =
      [(.variableDeclaration, 1, 1), (.unknownMethod, 3, 3), (.header, 4, 2), (.header, 5, 1),
        (.body, 8, 1), (.requestLine, 11, 1)] ∧
    d.requests.map Request.line = [3, 12] := by
  obtain ⟨d, parsed, ordered⟩ := @parse_ordered .standard "book" (by decide) troubled
  have read : d = read .standard "book" troubled := eq_read_of_parse parsed
  exact ⟨d, parsed, ordered, by rw [read]; decide +kernel, by rw [read]; decide +kernel⟩

end Document

end RequestBook

import Mathlib.Data.List.Flatten
import Mathlib.Data.List.Nodup
import RequestBook.Proofs.BlockReading
import RequestBook.Proofs.Grammar

/-! Where requests and findings stand. Every one of them stands on a line of the text, no two requests
on the same one, and a line and a column are at most one more than the length of the text. -/
namespace RequestBook

namespace Block

def heading? (table : MethodTable) (b : Block) : Option (Nat × String) :=
  (b.opening? table).map fun (line, method, _) => (line.number, method)

theorem heading_request? (table : MethodTable) (b : Block) (own : Variables) :
    (b.request? table own).map (fun r => (r.line, r.method)) = b.heading? table := by
  rw [request?, heading?, Option.map_map]
  rfl

theorem heading_filterMap (table : MethodTable) (own : Block → Variables) (blocks : List Block) :
    (blocks.filterMap fun b => b.request? table (own b)).map (fun r => (r.line, r.method)) =
      blocks.filterMap (heading? table) := by
  rw [List.map_filterMap]
  exact List.filterMap_congr fun b _ => heading_request? table b (own b)

/-- The lines of the blocks are those lines of the document that are no separators, in order. -/
theorem lines_split (lines before : List NumberedLine) (title : Option String)
    (plain : ∀ line ∈ before, isSeparator line = false) :
    (split title (before ++ lines)).flatMap Block.lines = (before ++ lines).filter (!isSeparator ·) := by
  have kept : before.filter (!isSeparator ·) = before :=
    List.filter_eq_self.mpr fun line member => by rw [plain line member, Bool.not_false]
  induction lines generalizing before title with
  | nil => simp [split_of_plain plain, kept]
  | cons line rest ih =>
    cases separates : Line.separatorTitle? line.text with
    | none =>
      have longer : ∀ l ∈ before ++ [line], isSeparator l = false := by
        intro l member
        rcases List.mem_append.mp member with inside | last
        · exact plain l inside
        · rw [List.mem_singleton.mp last]
          simp [isSeparator, separates]
      have kept : (before ++ [line]).filter (!isSeparator ·) = before ++ [line] :=
        List.filter_eq_self.mpr fun l member => by rw [longer l member, Bool.not_false]
      simpa using ih (before ++ [line]) title longer kept
    | some next =>
      have cut : isSeparator line = true := by simp [isSeparator, separates]
      have after := ih [] next (by simp) rfl
      rw [List.nil_append] at after
      rw [split_separator plain separates, List.flatMap_cons, after, List.filter_append, kept,
        List.filter_cons_of_neg (by simp [cut])]

theorem lines_split_sublist (title : Option String) (lines : List NumberedLine) :
    ((split title lines).flatMap Block.lines).Sublist lines := by
  have kept := lines_split lines [] title (by simp)
  rw [List.nil_append] at kept
  rw [kept]
  exact List.filter_sublist

/-- The lines of a block are lines of the document, and none is a separator. -/
theorem mem_of_mem_split {title : Option String} {lines : List NumberedLine} {b : Block}
    (inside : b ∈ split title lines) {line : NumberedLine} (own : line ∈ b.lines) :
    line ∈ lines ∧ isSeparator line = false := by
  have kept := lines_split lines [] title (by simp)
  rw [List.nil_append] at kept
  have listed := List.mem_flatMap.mpr ⟨b, inside, own⟩
  rw [kept, List.mem_filter] at listed
  exact ⟨listed.1, by simpa using listed.2⟩

theorem title_of_mem_split {title : Option String} {lines : List NumberedLine} {b : Block}
    (inside : b ∈ split title lines) :
    b.title = title ∨ ∃ line ∈ lines, Line.separatorTitle? line.text = some b.title := by
  have titles : b.title ∈ title :: lines.filterMap fun line => Line.separatorTitle? line.text := by
    rw [split] at inside
    obtain ⟨i, bound, rfl⟩ := List.mem_iff_getElem.mp inside
    rw [List.getElem_zipWith]
    exact List.getElem_mem _
  rcases List.mem_cons.mp titles with first | later
  · exact .inl first
  · exact .inr (List.mem_filterMap.mp later)

theorem heading_sublist (table : MethodTable) (b : Block) :
    ((b.heading? table).toList.map Prod.fst).Sublist (b.lines.map NumberedLine.number) := by
  rw [heading?]
  cases found : b.opening? table with
  | none => simp
  | some opening =>
    obtain ⟨line, inside, opens⟩ := List.exists_of_findSome?_eq_some found
    obtain ⟨parts, _, rfl⟩ := Option.map_eq_some_iff.mp opens
    simpa using ⟨line, inside, rfl⟩

theorem findingsOf_sublist (problem? : NumberedLine → Option Problem) (lines : List NumberedLine) :
    ((findingsOf problem? lines).map Prod.snd).Sublist lines := by
  induction lines with
  | nil => exact .slnil
  | cons line rest ih =>
    cases found : problem? line with
    | none => simpa [findingsOf, found] using ih.cons line
    | some problem => simpa [findingsOf, found] using ih

theorem headerFindings_sublist (lines : List NumberedLine) :
    ((headerFindings lines).map Prod.snd).Sublist lines := by
  have whole : beforeField lines ++ lines.dropWhile (fun line => (field? line).isNone) = lines :=
    List.takeWhile_append_dropWhile
  have parts := (findingsOf_sublist (headerProblem? false) (beforeField lines)).append
    (findingsOf_sublist (headerProblem? true) (lines.dropWhile fun line => (field? line).isNone))
  rw [headerFindings, List.map_append]
  rwa [whole] at parts

theorem mem_of_bodyFinding? {lines : List NumberedLine} {finding : Problem × NumberedLine}
    (found : bodyFinding? lines = some finding) : finding.2 ∈ lines := by
  obtain ⟨⟨path, number⟩, _, found⟩ := Option.bind_eq_some_iff.mp found
  obtain ⟨line, first, rfl⟩ := Option.map_eq_some_iff.mp found
  have dropped := (List.tail_sublist _).subset (List.mem_of_head? first)
  have kept := (List.dropWhile_sublist _).subset dropped
  exact (List.rdropWhile_prefix _ lines).subset kept

theorem bodyFinding?_sublist (lines : List NumberedLine) :
    ((bodyFinding? lines).toList.map Prod.snd).Sublist lines := by
  cases found : bodyFinding? lines with
  | none => simp
  | some finding => exact List.singleton_sublist.mpr (mem_of_bodyFinding? found)

section Parts

variable (table : MethodTable) (b : Block)

theorem unknownMethod?_sublist :
    ((b.unknownMethod? table).toList.map Prod.snd).Sublist ((b.opening? table).toList.map Prod.fst) := by
  cases found : b.opening? table with
  | none => simp [unknownMethod?, found]
  | some opening => by_cases known : table.contains opening.2.1 <;> simp [unknownMethod?, found, known]

theorem lines_eq :
    b.lines = b.preamble table ++ ((b.opening? table).toList.map Prod.fst ++ b.behind table) := by
  rcases opening_cases table b with ⟨none, all, nothing⟩ | ⟨line, _, _, _, found, _, whole⟩
  · simp [none, all, nothing]
  · simpa [found] using whole

theorem sections_sublist : (b.headerLines table ++ b.bodyLines table).Sublist (b.behind table) := by
  have whole : b.headerLines table ++ (b.behind table).dropWhile (fun line => !line.isBlank) =
      b.behind table := List.takeWhile_append_dropWhile
  have parts := (List.Sublist.refl (b.headerLines table)).append
    (List.tail_sublist ((b.behind table).dropWhile fun line => !line.isBlank))
  rwa [whole] at parts

/-- What is found in a block is found on its lines, in their order and at most once on each. -/
theorem findings_sublist : ((b.findings table).map Prod.snd).Sublist b.lines := by
  have sections := ((headerFindings_sublist _).append (bodyFinding?_sublist _)).trans (sections_sublist table b)
  rw [lines_eq table b, findings, List.map_append, List.map_append, List.map_append]
  exact (findingsOf_sublist _ _).append ((unknownMethod?_sublist table b).append sections)

end Parts

theorem mem_of_mem_findings {table : MethodTable} {b : Block} {finding : Problem × NumberedLine}
    (member : finding ∈ b.findings table) : finding.2 ∈ b.lines :=
  (findings_sublist table b).subset (List.mem_map_of_mem member)

end Block

theorem numbers_increase (lines : List (List Char)) :
    ((numberLines lines).map NumberedLine.number).Pairwise (· < ·) := by
  have numbers : (numberLines lines).map NumberedLine.number = List.range' 1 lines.length := by
    refine List.ext_getElem (by simp [numberLines]) ?_
    simp [numberLines, Nat.add_comm]
  rw [numbers]
  exact List.pairwise_lt_range'

namespace Document

theorem headings_ofBlocks (table : MethodTable) (path : String) (blocks : List Block) :
    (ofBlocks table path blocks).requests.map (fun r => (r.line, r.method)) =
      blocks.filterMap (Block.heading? table) := by
  let silent := blocks.takeWhile fun b => (b.opening? table).isNone
  let rest := blocks.dropWhile fun b => (b.opening? table).isNone
  have whole : silent ++ (rest.take 1 ++ rest.drop 1) = blocks := by
    rw [List.take_append_drop]
    exact List.takeWhile_append_dropWhile
  have nothing : silent.filterMap (Block.heading? table) = [] := by
    refine List.filterMap_eq_nil_iff.mpr fun b member => ?_
    have closed : b.opening? table = none := by simpa using List.mem_takeWhile_imp member
    rw [Block.heading?, closed, Option.map_none]
  have linked : ∀ (file : Document) (bare : List Request),
      (bare.map file.link).map (fun r => (r.line, r.method)) = bare.map fun r => (r.line, r.method) := by
    intro file bare
    rw [List.map_map]
    rfl
  rw [← whole, List.filterMap_append, List.filterMap_append, nothing, List.nil_append]
  change (List.map _ (_ ++ _)).map _ = _
  rw [whole, linked, List.map_append, Block.heading_filterMap table (fun _ => .empty),
    Block.heading_filterMap table fun b => .ofList (b.declarations table)]

/-- Each request stands on a line behind those of the requests before it. -/
theorem request_lines_increase (table : MethodTable) (path : String) (lines : List (List Char)) :
    ((ofBlocks table path (Block.split none (numberLines lines))).requests.map Request.line).Pairwise
      (· < ·) := by
  have numbers : (ofBlocks table path (Block.split none (numberLines lines))).requests.map Request.line =
      (Block.split none (numberLines lines)).flatMap fun b => (b.heading? table).toList.map Prod.fst := by
    have headings := congrArg (List.map Prod.fst)
      (headings_ofBlocks table path (Block.split none (numberLines lines)))
    rw [List.map_map] at headings
    refine headings.trans ?_
    rw [List.filterMap_eq_flatMap_toList, List.map_flatMap]
  have inside := (Block.lines_split_sublist none (numberLines lines)).map NumberedLine.number
  rw [List.map_flatMap] at inside
  rw [numbers]
  refine (numbers_increase lines).sublist ?_
  exact (List.Sublist.flatMap_right _ fun b _ => b.heading_sublist table).trans inside

/-- No two requests stand on one line. -/
theorem nodup_lines (table : MethodTable) (path : String) (lines : List (List Char)) :
    ((ofBlocks table path (Block.split none (numberLines lines))).requests.map Request.line).Nodup :=
  (request_lines_increase table path lines).imp Nat.ne_of_lt

end Document

/-- The characters of the lines, and one end for each line but the last, make up the text. -/
theorem Text.length_lines (text : List Char) :
    (Text.lines text).length + (Text.lines text).flatten.length ≤ text.length + 1 := by
  fun_induction Text.lines text with
  | case1 => simp
  | case2 rest ih =>
    simp only [List.length_cons, List.flatten_cons, List.nil_append]
    omega
  | case3 c rest _ ends ih =>
    simp only [List.length_cons, List.flatten_cons, List.nil_append]
    omega
  | case4 c rest _ plain none ih =>
    simp only [List.length_cons, List.length_nil, List.flatten_cons, List.flatten_nil, List.append_nil]
    omega
  | case5 c rest _ plain line more shown ih =>
    simp only [shown, List.length_cons, List.flatten_cons, List.length_append] at ih ⊢
    omega

/-- There is no line end within a line. -/
theorem Text.unbroken_of_mem_lines {text line : List Char} (member : line ∈ Text.lines text) :
    Text.Unbroken line := by
  fun_induction Text.lines text generalizing line with
  | case1 => simp_all [Text.Unbroken]
  | case2 rest ih =>
    rcases List.mem_cons.mp member with rfl | later
    · simp [Text.Unbroken]
    · exact ih later
  | case3 c rest _ ends ih =>
    rcases List.mem_cons.mp member with rfl | later
    · simp [Text.Unbroken]
    · exact ih later
  | case4 c rest _ plain none ih =>
    rw [List.mem_singleton.mp member]
    simpa [Text.Unbroken] using plain
  | case5 c rest _ plain first more shown ih =>
    rcases List.mem_cons.mp member with rfl | later
    · have behind : Text.Unbroken first := ih (by simp [shown])
      exact List.forall_mem_cons.mpr ⟨by simpa using plain, behind⟩
    · exact ih (by simp [shown, later])

/-- Numbers and lengths of lines are bounded by the length of the text. -/
theorem length_of_mem_numberLines {text : List Char} {line : NumberedLine}
    (member : line ∈ numberLines (Text.lines text)) :
    line.number ≤ text.length + 1 ∧ line.text.length ≤ text.length := by
  obtain ⟨index, bound, rfl⟩ := List.mem_mapIdx.mp member
  have whole := Text.length_lines text
  have part := ((List.sublist_flatten_of_mem (List.getElem_mem bound))).length_le
  dsimp only
  omega

namespace Document

structure Within (limit : Nat) (d : Document) : Prop where
  requests : ∀ r ∈ d.requests, r.line < limit
  lines : ∀ x ∈ d.diagnostics, x.line < limit
  columns : ∀ x ∈ d.diagnostics, x.column < limit

theorem within_ofBlocks (table : MethodTable) (path : String) {limit : Nat} {blocks : List Block}
    (bounded : ∀ b ∈ blocks, ∀ line ∈ b.lines, line.number < limit ∧ Line.firstColumn line.text < limit) :
    (ofBlocks table path blocks).Within limit := by
  have placed : ∀ x ∈ (ofBlocks table path blocks).diagnostics, x.line < limit ∧ x.column < limit := by
    intro x member
    obtain ⟨b, inside, found⟩ := List.mem_flatMap.mp member
    obtain ⟨finding, listed, rfl⟩ := List.mem_map.mp found
    exact bounded b inside finding.2 (Block.mem_of_mem_findings listed)
  refine ⟨?_, fun x member => (placed x member).1, fun x member => (placed x member).2⟩
  intro r member
  have heading := List.mem_map_of_mem (f := fun r : Request => (r.line, r.method)) member
  rw [headings_ofBlocks] at heading
  obtain ⟨b, inside, opens⟩ := List.mem_filterMap.mp heading
  have shown : r.line ∈ (b.heading? table).toList.map Prod.fst := by simp [opens]
  obtain ⟨line, own, same⟩ := List.mem_map.mp ((b.heading_sublist table).subset shown)
  rw [← same]
  exact (bounded b inside line own).1

theorem eq_read_of_parse {table : MethodTable} {path content : String} {d : Document}
    (parsed : parse table path content = .ok d) : d = read table path content := by
  unfold parse at parsed
  split at parsed <;> cases parsed
  rfl

/-- The lines and columns of a document are at most one more than the length of its text. -/
theorem within_of_parse {table : MethodTable} {path content : String} {d : Document}
    (parsed : parse table path content = .ok d) {limit : Nat} (fits : content.length + 1 < limit) :
    d.Within limit := by
  rw [eq_read_of_parse parsed, read_eq_ofBlocks]
  refine within_ofBlocks table path fun b inside line own => ?_
  have listed : line ∈ numberLines (Text.lines content.toList) := by
    refine (Block.lines_split_sublist none _).subset ?_
    exact List.mem_flatMap.mpr ⟨b, inside, own⟩
  obtain ⟨number, text⟩ := length_of_mem_numberLines listed
  have blanks : (line.text.takeWhile Text.isBlank).length ≤ line.text.length :=
    (List.takeWhile_sublist _).length_le
  rw [String.length_toList] at number text
  rw [Line.firstColumn]
  omega

end Document

end RequestBook

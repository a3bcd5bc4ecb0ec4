import RequestBook.Proofs.Positions
import RequestBook.Proofs.RoundTrip

/-! What the accepted methods decide. They are looked up in two places: where a request line is read
with a method that is not among them, and where a line that is nothing else begins with one of them.
Both only lead to a finding. So the requests and the variables of a document do not depend on the
accepted methods, nor does any other finding. -/
namespace RequestBook

open Text

namespace Line

def leadingLetters (line : List Char) : String := String.ofList ((trim line).takeWhile isAsciiLetter)

/-- Whether a line is neither blank nor a separator, has no at sign in front, and is neither a comment
nor a request line. -/
def fitsNothing (line : List Char) : Bool :=
  (separatorTitle? line).isNone && !(trim line).isEmpty && (trim line).head? != some '@' &&
    !isComment (trim line) && (readAddress (trim line)).isNone && (readRequestLine (trim line)).isNone

def opensAccepted (table : MethodTable) (line : List Char) : Bool :=
  !(leadingLetters line).isEmpty && table.contains (leadingLetters line)

/-- A line that is neither blank nor a separator nor marked with an at sign is a comment, or it may be
a request line. -/
theorem classify_unmarked {line : List Char} (plain : separatorTitle? line = none)
    (filled : trim line ≠ []) (unmarked : (trim line).head? ≠ some '@') (table : MethodTable) :
    classify table line =
      if isComment (trim line) then
        match readDirective (commentText (trim line)) with
        | some name => .nameDirective (String.ofList name)
        | none => .comment (String.ofList (trim (commentText (trim line))))
      else classifyRequest table (trim line) := by
  have inside : separatorTitle? (trim line) = none := by
    rw [← plain, separatorTitle?, separatorTitle?, trim_trim]
  unfold classify
  dsimp only
  rw [inside]
  split
  next eq => cases eq
  next eq => exact absurd eq filled
  next rest _ shown =>
    rw [shown] at unmarked
    exact absurd rfl unmarked
  next => rfl

/-- A line is of one kind whatever methods are accepted, and that kind does not tell of methods. -/
def Settled (line : List Char) : Prop :=
  ∃ kind, (∀ table, classify table line = kind) ∧ kind ≠ .other ∧
    ∀ token, kind ≠ .malformedRequestLine token

/-- The accepted methods matter for lines that fit nothing else, and for no other line. -/
theorem classify_cases (line : List Char) :
    (fitsNothing line = true ∧ ∀ table, classify table line =
      if opensAccepted table line then .malformedRequestLine (upperToken (leadingLetters line))
      else .other) ∨
    (fitsNothing line = false ∧ Settled line) := by
  cases separates : separatorTitle? line with
  | some title =>
    have inside : separatorTitle? (trim line) = some title := by
      rw [← separates, separatorTitle?, separatorTitle?, trim_trim]
    refine .inr ⟨by simp [fitsNothing, separates], .separator title, fun table => ?_, by simp, by simp⟩
    simp [classify, inside]
  | none =>
    by_cases filled : trim line = []
    · refine .inr ⟨by simp [fitsNothing, filled], .blank, fun table => ?_, by simp, by simp⟩
      rw [classify, filled]
      rfl
    by_cases marked : (trim line).head? = some '@'
    · obtain ⟨rest, shown⟩ := List.head?_eq_some_iff.mp marked
      refine .inr ⟨by simp [fitsNothing, marked], ?_⟩
      cases declares : readVariable rest with
      | none => exact ⟨_, fun table => by rw [classify_at shown, declares], by simp, by simp⟩
      | some pair => exact ⟨_, fun table => by rw [classify_at shown, declares], by simp, by simp⟩
    have reduced := classify_unmarked separates filled marked
    by_cases comment : isComment (trim line) = true
    · refine .inr ⟨by simp [fitsNothing, comment], ?_⟩
      simp only [comment, if_true] at reduced
      cases names : readDirective (commentText (trim line)) with
      | none => exact ⟨_, fun table => by rw [reduced, names], by simp, by simp⟩
      | some name => exact ⟨_, fun table => by rw [reduced, names], by simp, by simp⟩
    simp only [comment, Bool.false_eq_true, if_false] at reduced
    cases address : readAddress (trim line) with
    | some found =>
      refine .inr ⟨by simp [fitsNothing, address],
        .requestLine Method.get.name (String.ofList found.1) found.2, fun table => ?_, by simp, by simp⟩
      rw [reduced, classifyRequest, address]
    | none =>
      cases request : readRequestLine (trim line) with
      | some found =>
        refine .inr ⟨by simp [fitsNothing, request],
          .requestLine (upperToken (String.ofList found.1)) (String.ofList found.2.1) found.2.2,
          fun table => ?_, by simp, by simp⟩
        rw [reduced, classifyRequest, address, request]
      | none =>
        refine .inl ⟨?_, fun table => ?_⟩
        · simp [fitsNothing, separates, filled, marked, comment, address, request]
        · rw [reduced, classifyRequest, address, request]
          rfl

end Line

def Code.isAboutMethods (code : Code) : Bool := code == .unknownMethod || code == .requestLine

namespace Block

section Parts

variable (table other : MethodTable)

/-- What is read off the kind of a line does not depend on the accepted methods, if it is nothing
where the line fits nothing. -/
theorem part_eq {α : Type} (line : List Char) (part : MethodTable → Option α)
    (reads : ∀ t u, Line.classify t line = Line.classify u line → part t = part u)
    (silent : ∀ t, Line.classify t line = .other ∨
      (∃ token, Line.classify t line = .malformedRequestLine token) → part t = none) :
    part table = part other := by
  rcases Line.classify_cases line with ⟨_, kinds⟩ | ⟨_, kind, always, _⟩
  · have nothing : ∀ t, part t = none := by
      intro t
      apply silent
      rw [kinds t]
      split
      · exact .inr ⟨_, rfl⟩
      · exact .inl rfl
    rw [nothing, nothing]
  · apply reads
    rw [always, always]

theorem requestLine?_eq : requestLine? table = requestLine? other := by
  funext line
  apply part_eq table other line.text (fun t => requestLine? t line)
  · intro t u same
    simp only [requestLine?, same]
  · rintro t (kind | ⟨token, kind⟩) <;> simp [requestLine?, kind]

theorem declaration?_eq : declaration? table = declaration? other := by
  funext line
  apply part_eq table other line.text (fun t => declaration? t line)
  · intro t u same
    simp only [declaration?, same]
  · rintro t (kind | ⟨token, kind⟩) <;> simp [declaration?, kind]

theorem directive?_eq : directive? table = directive? other := by
  funext line
  apply part_eq table other line.text (fun t => directive? t line)
  · intro t u same
    simp only [directive?, same]
  · rintro t (kind | ⟨token, kind⟩) <;> simp [directive?, kind]

theorem comment?_eq : comment? table = comment? other := by
  funext line
  apply part_eq table other line.text (fun t => comment? t line)
  · intro t u same
    simp only [comment?, same]
  · rintro t (kind | ⟨token, kind⟩) <;> simp [comment?, kind]

theorem preamble_eq : preamble table = preamble other :=
  funext fun b => by rw [preamble, preamble, requestLine?_eq table other]

theorem opening?_eq : opening? table = opening? other :=
  funext fun b => by rw [opening?, opening?, requestLine?_eq table other]

theorem behind_eq : behind table = behind other :=
  funext fun b => by rw [behind, behind, requestLine?_eq table other]

theorem declarations_eq : declarations table = declarations other :=
  funext fun b => by rw [declarations, declarations, preamble_eq table other, declaration?_eq table other]

theorem request?_eq : request? table = request? other := by
  funext b own
  simp only [request?, headerLines, bodyLines, opening?_eq table other, preamble_eq table other,
    behind_eq table other, directive?_eq table other, comment?_eq table other]

end Parts

section Findings

variable (table other : MethodTable) (line : NumberedLine)

theorem preambleProblem?_unknownMethod :
    (preambleProblem? table line).filter (fun p => p.code == .unknownMethod) = none := by
  unfold preambleProblem?
  split <;> simp [Problem.code]

theorem preambleProblem?_regardless :
    (preambleProblem? table line).filter (fun p => !p.code.isAboutMethods) =
      (preambleProblem? other line).filter fun p => !p.code.isAboutMethods := by
  apply part_eq table other line.text
    (fun t => (preambleProblem? t line).filter fun p => !p.code.isAboutMethods)
  · intro t u same
    simp only [preambleProblem?, same]
  · rintro t (kind | ⟨token, kind⟩) <;>
      simp [preambleProblem?, kind, Problem.code, Code.isAboutMethods]

end Findings

theorem filter_findingsOf (keep : Problem → Bool) (problem? : NumberedLine → Option Problem)
    (lines : List NumberedLine) :
    (findingsOf problem? lines).filter (fun f => keep f.1) =
      findingsOf (fun line => (problem? line).filter keep) lines := by
  rw [findingsOf, List.filter_filterMap, findingsOf]
  refine List.filterMap_congr fun line _ => ?_
  cases found : problem? line with
  | none => rfl
  | some problem => by_cases kept : keep problem = true <;> simp [Option.filter, kept]

theorem code_of_headerFindings {lines : List NumberedLine} {finding : Problem × NumberedLine}
    (member : finding ∈ headerFindings lines) : finding.1.code = .header := by
  have code : ∀ afterField lines, ∀ f ∈ findingsOf (headerProblem? afterField) lines,
      f.1.code = .header := by
    intro afterField lines f inside
    obtain ⟨line, _, found⟩ := List.mem_filterMap.mp inside
    obtain ⟨problem, has, rfl⟩ := Option.map_eq_some_iff.mp found
    unfold headerProblem? at has
    split at has
    · cases has; rfl
    · cases has; rfl
    · split at has <;> cases has
      rfl
    · cases has
  rcases List.mem_append.mp member with before | after
  · exact code _ _ _ before
  · exact code _ _ _ after

theorem code_of_bodyFinding? {lines : List NumberedLine} {finding : Problem × NumberedLine}
    (found : bodyFinding? lines = some finding) : finding.1.code = .body := by
  obtain ⟨⟨path, number⟩, _, found⟩ := Option.bind_eq_some_iff.mp found
  obtain ⟨line, _, rfl⟩ := Option.map_eq_some_iff.mp found
  rfl

theorem code_of_unknownMethod? {table : MethodTable} {b : Block} {finding : Problem × NumberedLine}
    (found : b.unknownMethod? table = some finding) : finding.1.code = .unknownMethod := by
  obtain ⟨⟨line, method, rest⟩, _, found⟩ := Option.bind_eq_some_iff.mp found
  dsimp only at found
  split at found
  · cases found
  · cases found
    rfl

theorem filter_of_code {findings : List (Problem × NumberedLine)} {code : Code}
    (all : ∀ f ∈ findings, f.1.code = code) (keep : Code → Bool) :
    findings.filter (fun f => keep f.1.code) = if keep code then findings else [] := by
  split
  next kept =>
    refine List.filter_eq_self.mpr fun f member => ?_
    rw [all f member, kept]
  next dropped =>
    refine List.filter_eq_nil_iff.mpr fun f member => ?_
    rw [all f member]
    exact dropped

/-- The findings of a block with some codes. -/
theorem filter_findings (table : MethodTable) (b : Block) (keep : Code → Bool) :
    (b.findings table).filter (fun f => keep f.1.code) =
      findingsOf (fun line => (preambleProblem? table line).filter fun p => keep p.code)
          (b.preamble table) ++
        ((if keep .unknownMethod then (b.unknownMethod? table).toList else []) ++
          ((if keep .header then headerFindings (b.headerLines table) else []) ++
            if keep .body then (bodyFinding? (b.bodyLines table)).toList else [])) := by
  have unknown : ∀ f ∈ (b.unknownMethod? table).toList, f.1.code = .unknownMethod := fun f member =>
    code_of_unknownMethod? (Option.mem_toList.mp member)
  have body : ∀ f ∈ (bodyFinding? (b.bodyLines table)).toList, f.1.code = .body := fun f member =>
    code_of_bodyFinding? (Option.mem_toList.mp member)
  have header : ∀ f ∈ headerFindings (b.headerLines table), f.1.code = .header := fun f =>
    code_of_headerFindings
  rw [findings, List.filter_append, List.filter_append, List.filter_append, filter_of_code unknown,
    filter_of_code header, filter_of_code body, filter_findingsOf (fun p => keep p.code)]

/-- A block warns of its method if that is not accepted. -/
theorem unknownMethod?_eq (table : MethodTable) (b : Block) :
    (b.unknownMethod? table).map (fun f => (f.2.number, f.1.message)) =
      ((b.heading? table).filter fun h => !table.contains h.2).map
        fun h => (h.1, (Problem.unknownMethod h.2).message) := by
  rw [unknownMethod?, heading?]
  cases b.opening? table with
  | none => rfl
  | some opening =>
    obtain ⟨line, method, rest⟩ := opening
    by_cases known : table.contains method = true <;> simp [Option.filter, known]

end Block

namespace Document

variable (table other : MethodTable) (path : String) (blocks : List Block)

/-- The findings of a document with some codes. -/
theorem filter_diagnostics (keep : Code → Bool) :
    (ofBlocks table path blocks).diagnostics.filter (fun x => keep x.code) =
      blocks.flatMap fun b => ((b.findings table).filter fun f => keep f.1.code).map Block.diagnostic := by
  change (blocks.flatMap fun b => (b.findings table).map Block.diagnostic).filter _ = _
  rw [List.filter_flatMap]
  refine List.flatMap_congr fun b _ => ?_
  rw [List.filter_map]
  rfl

/-- Two documents are the same but for what was found about methods. -/
structure AgreesBesideMethods (d e : Document) : Prop where
  requests : d.requests = e.requests
  bindings : d.bindings = e.bindings
  diagnostics : d.diagnostics.filter (fun x => !x.code.isAboutMethods) =
    e.diagnostics.filter fun x => !x.code.isAboutMethods

/-- Nothing but findings about methods depends on the accepted methods. -/
theorem ofBlocks_regardless :
    (ofBlocks table path blocks).AgreesBesideMethods (ofBlocks other path blocks) := by
  refine ⟨?_, ?_, ?_⟩
  · simp only [ofBlocks, Block.opening?_eq table other, Block.declarations_eq table other,
      Block.request?_eq table other]
  · simp only [ofBlocks, Block.opening?_eq table other, Block.declarations_eq table other]
  · rw [filter_diagnostics table path blocks fun code => !code.isAboutMethods,
      filter_diagnostics other path blocks fun code => !code.isAboutMethods]
    refine List.flatMap_congr fun b _ => ?_
    have problems : (fun line => (Block.preambleProblem? table line).filter fun p => !p.code.isAboutMethods) =
        fun line => (Block.preambleProblem? other line).filter fun p => !p.code.isAboutMethods :=
      funext (Block.preambleProblem?_regardless table other)
    rw [Block.filter_findings table b fun code => !code.isAboutMethods,
      Block.filter_findings other b fun code => !code.isAboutMethods, problems]
    simp only [Block.headerLines, Block.bodyLines, Block.preamble_eq table other,
      Block.behind_eq table other]
    rfl

end Document

def Document.found (d : Document) (code : Code) : List Diagnostic := d.diagnostics.filter (·.code == code)

theorem Document.found_reported (d : Document) (findings : List (Problem × NumberedLine)) (code : Code) :
    (d.reported findings).found code =
      d.found code ++ (findings.filter fun f => f.1.code == code).map Block.diagnostic := by
  rw [found, reported, List.filter_append, List.filter_map]
  rfl

namespace Reading

def atStart (r : Reading) : Bool :=
  match r.phase with
  | .preamble _ => true
  | _ => false

/-- The lines before the request lines of their blocks, without the separators. -/
def startLines (table : MethodTable) : Reading → List NumberedLine → List NumberedLine
  | _, [] => []
  | r, line :: rest =>
    if r.atStart && !Block.isSeparator line then line :: startLines table (r.read table line) rest
    else startLines table (r.read table line) rest

def requestFinding? (table : MethodTable) (line : NumberedLine) : Option Diagnostic :=
  if Line.fitsNothing line.text && Line.opensAccepted table line.text then
    some (Block.diagnostic (.malformedRequestLine (upperToken (Line.leadingLetters line.text)), line))
  else none

variable (table : MethodTable)

theorem requestFinding?_eq (line : NumberedLine) :
    requestFinding? table line =
      match Line.classify table line.text with
      | .malformedRequestLine token => some (Block.diagnostic (.malformedRequestLine token, line))
      | _ => none := by
  rw [requestFinding?]
  rcases Line.classify_cases line.text with ⟨fits, kinds⟩ | ⟨fits, kind, always, _, unrequested⟩
  · rw [kinds table, fits]
    by_cases opens : Line.opensAccepted table line.text = true <;> simp [opens]
  · rw [always table, fits]
    cases kind with
    | malformedRequestLine token => exact absurd rfl (unrequested token)
    | _ => rfl

theorem found_close (r : Reading) : r.close.document.found .requestLine = r.document.found .requestLine := by
  obtain ⟨d, phase⟩ := r
  cases phase with
  | preamble p => rfl
  | headers request last => rfl
  | body request lines =>
    have silent : (Block.bodyFinding? lines).toList.filter (fun f => f.1.code == .requestLine) = [] :=
      Block.filter_of_code
        (fun f member => Block.code_of_bodyFinding? (Option.mem_toList.mp member)) (· == .requestLine)
    rw [Block.close_body, Document.found_reported, silent]
    exact List.append_nil _

theorem found_readHeader (r : Reading) (request : Request) (last : Option String) (line : NumberedLine) :
    (r.readHeader request last line).document.found .requestLine = r.document.found .requestLine := by
  obtain ⟨d, phase⟩ := r
  unfold readHeader
  split
  · rfl
  · split <;> simp [report_eq, Document.found_reported, Problem.code]

theorem found_readPreamble (r : Reading) (p : Preamble) (line : NumberedLine) :
    (r.readPreamble table p line).document.found .requestLine =
      r.document.found .requestLine ++ (requestFinding? table line).toList := by
  obtain ⟨d, phase⟩ := r
  rw [requestFinding?_eq]
  unfold readPreamble
  cases Line.classify table line.text with
  | malformedRequestLine token => simp [report_eq, Document.found_reported, Problem.code]
  | malformedDeclaration => simp [report_eq, Document.found_reported, Problem.code]
  | declaration name value =>
    dsimp only [declare]
    split <;> simp [Document.found]
  | requestLine method url version =>
    unfold openRequest
    dsimp only
    split <;> simp [report_eq, Document.found_reported, Problem.code]
  | _ => simp

/-- One line adds a finding about request lines if it stands before the request line of its block. -/
theorem found_read (r : Reading) (line : NumberedLine) :
    (r.read table line).document.found .requestLine = r.document.found .requestLine ++
      if r.atStart && !Block.isSeparator line then (requestFinding? table line).toList else [] := by
  unfold read
  cases separates : Line.separatorTitle? line.text with
  | some title =>
    have cut : Block.isSeparator line = true := by simp [Block.isSeparator, separates]
    simpa [cut] using found_close r
  | none =>
    have plain : Block.isSeparator line = false := by simp [Block.isSeparator, separates]
    obtain ⟨d, phase⟩ := r
    cases phase with
    | preamble p => simpa [plain, atStart] using found_readPreamble table ⟨d, .preamble p⟩ p line
    | headers request last => simpa [atStart] using found_readHeader ⟨d, .headers request last⟩ request last line
    | body request lines => simp [atStart]

/-- All lines together. -/
theorem found_foldl (lines : List NumberedLine) (r : Reading) :
    (lines.foldl (read table) r).document.found .requestLine = r.document.found .requestLine ++
      (startLines table r lines).filterMap (requestFinding? table) := by
  induction lines generalizing r with
  | nil => simp [startLines]
  | cons line rest ih =>
    rw [List.foldl_cons, ih, found_read, startLines, List.append_assoc]
    congr 1
    split
    · cases found : requestFinding? table line <;> simp [found]
    · rfl

end Reading

/-- A token is accepted if its upper case is a known method, or that of an extra one without the
blanks around it. -/
def Method.Accepted (extra : List String) (token : String) : Prop :=
  (∃ m ∈ Method.all, m.name = upperToken token) ∨
    ∃ e ∈ extra, upperToken (String.ofList (trim e.toList)) = upperToken token

instance (extra : List String) : DecidablePred (Method.Accepted extra) := fun _ =>
  inferInstanceAs (Decidable (_ ∨ _))

theorem MethodTable.contains_withExtra (extra : List String) (token : String) :
    (withExtra extra).contains token = decide (Method.Accepted extra token) := by
  rw [contains, withExtra, List.contains_eq_mem, decide_eq_decide]
  simp [Method.Accepted]

/-- Capitals come back from lower case. -/
theorem Text.toUpper_lowerAscii {text : List Char} (capitals : ∀ c ∈ text, 'A' ≤ c ∧ c ≤ 'Z') :
    (lowerAscii text).map Char.toUpper = text := by
  have each : ∀ n < 91, 'A' ≤ Char.ofNat n → (Char.ofNat n).toLower.toUpper = Char.ofNat n := by decide
  rw [lowerAscii, List.map_map]
  refine (List.map_congr_left fun c member => ?_).trans (List.map_id text)
  obtain ⟨above, below⟩ := capitals c member
  have small : c.toNat < 91 := Nat.lt_succ_of_le below
  exact forall_of_ofNat (P := fun c => 'A' ≤ c → c.toLower.toUpper = c) each small above

namespace Method

theorem capitals_name (m : Method) : Line.Capitals m.name.toList := by
  cases m <;> decide

/-- For a method in upper case it makes no difference whether case is regarded. -/
theorem sameName_name_iff {token : String} (capitals : Line.Capitals token.toList) (m : Method) :
    sameName m.name token = true ↔ m.name = upperToken token := by
  have same : upperToken token = token := by
    rw [upperToken, upper_of_capitals capitals.2, String.ofList_toList]
  rw [sameName_iff, same]
  refine ⟨fun folded => ?_, fun eq => by rw [eq]⟩
  have lowered : lowerAscii m.name.toList = lowerAscii token.toList := String.ofList_injective folded
  rw [← String.toList_inj, ← toUpper_lowerAscii m.capitals_name.2, lowered,
    toUpper_lowerAscii capitals.2]

theorem ofToken?_eq_none_iff {token : String} (capitals : Line.Capitals token.toList) :
    ofToken? token = none ↔ ¬ Accepted [] token := by
  simp [ofToken?, Accepted, sameName_name_iff capitals]

end Method

namespace Document

/-- Of every request with a method that is not accepted there is one warning, at its line. -/
theorem unknownMethods_ofBlocks (table : MethodTable) (path : String) (blocks : List Block) :
    ((ofBlocks table path blocks).found .unknownMethod).map (fun x => (x.line, x.message)) =
      ((ofBlocks table path blocks).requests.filter fun r => !table.contains r.method).map
        fun r => (r.line, (Problem.unknownMethod r.method).message) := by
  have warned : ∀ b : Block, (b.findings table).filter (fun f => f.1.code == .unknownMethod) =
      (b.unknownMethod? table).toList := by
    intro b
    have silent : Block.findingsOf (fun line =>
        (Block.preambleProblem? table line).filter fun p => p.code == .unknownMethod)
          (b.preamble table) = [] :=
      Block.findingsOf_eq_nil fun line _ => Block.preambleProblem?_unknownMethod table line
    simpa [silent] using Block.filter_findings table b (· == .unknownMethod)
  have headings := congrArg (fun headings => (headings.filter fun h => !table.contains h.2).map
    fun h => (h.1, (Problem.unknownMethod h.2).message)) (headings_ofBlocks table path blocks)
  rw [List.filter_map, List.map_map] at headings
  refine Eq.trans ?_ headings.symm
  rw [found, filter_diagnostics table path blocks (· == .unknownMethod), List.map_flatMap,
    List.filter_filterMap, List.map_filterMap, List.filterMap_eq_flatMap_toList]
  refine List.flatMap_congr fun b _ => ?_
  rw [warned, List.map_map, ← Block.unknownMethod?_eq, ← Option.toList_map]
  rfl

/-- What is found about methods when those of `extra` are accepted as well. -/
structure MethodFindings (extra : List String) (path content : String) (d : Document) : Prop where
  /-- one warning for every request with a method that is not accepted -/
  warnings : (d.found .unknownMethod).map (fun x => (x.line, x.message)) =
    (d.requests.filter fun r => ¬ Method.Accepted extra r.method).map
      fun r => (r.line, (Problem.unknownMethod r.method).message)
  /-- one error for every line before a request line that fits nothing but begins with an accepted
  method -/
  errors : d.found .requestLine =
    ((Reading.startLines (.withExtra extra) (.start path) (numberLines (lines content.toList))).filter
      fun line => Line.fitsNothing line.text ∧ Line.leadingLetters line.text ≠ "" ∧
        Method.Accepted extra (Line.leadingLetters line.text)).map
      fun line => Block.diagnostic
        (.malformedRequestLine (upperToken (Line.leadingLetters line.text)), line)
  /-- without extra methods, warnings stand exactly where the method is not known -/
  unknown : extra = [] → ∀ r ∈ d.requests,
    ((∃ x ∈ d.found .unknownMethod, x.line = r.line) ↔ r.knownMethod? = none)

theorem methodFindings_of_parse {extra : List String} {path content : String} {d : Document}
    (parsed : parse (.withExtra extra) path content = .ok d) : MethodFindings extra path content d := by
  have capitals : ∀ r ∈ d.requests, Line.Capitals r.method.toList := fun r member =>
    capitals_of_parse parsed r.entry (List.mem_map_of_mem member)
  obtain rfl := eq_read_of_parse parsed
  have warnings : ((read (.withExtra extra) path content).found .unknownMethod).map
      (fun x => (x.line, x.message)) =
      ((read (.withExtra extra) path content).requests.filter
        fun r => ¬ Method.Accepted extra r.method).map
          fun r => (r.line, (Problem.unknownMethod r.method).message) := by
    rw [read_eq_ofBlocks, unknownMethods_ofBlocks]
    simp only [MethodTable.contains_withExtra, decide_not]
  refine ⟨warnings, ?_, ?_⟩
  · rw [read, Reading.found_close, Reading.found_foldl]
    change [] ++ _ = _
    rw [List.nil_append, ← List.filterMap_eq_map, List.filterMap_filter]
    refine List.filterMap_congr fun line _ => ?_
    simp [Reading.requestFinding?, Line.opensAccepted, MethodTable.contains_withExtra]
  · rintro rfl r member
    -- requests stand on lines of their own, so a warning at the line of one is about that one
    have apart := nodup_lines (.withExtra []) path (lines content.toList)
    rw [← read_eq_ofBlocks] at apart
    have listed : (∃ x ∈ (read (.withExtra []) path content).found .unknownMethod, x.line = r.line) ↔
        ∃ other ∈ (read (.withExtra []) path content).requests,
          ¬ Method.Accepted [] other.method ∧ other.line = r.line := by
      have lines := congrArg (fun pairs => r.line ∈ pairs.map Prod.fst) warnings
      simpa [Function.comp_def, and_assoc] using lines
    rw [listed, Request.knownMethod?, Method.ofToken?_eq_none_iff (capitals r member)]
    constructor
    · rintro ⟨other, inside, strange, line⟩
      rwa [← List.inj_on_of_nodup_map apart inside member line]
    · intro strange
      exact ⟨r, member, strange, rfl⟩

/-- Accepting other methods changes what is found about methods, and nothing else. -/
theorem parse_withExtra {path : String} (placed : path ≠ "") (content : String)
    (extra other : List String) :
    ∃ d e, parse (.withExtra extra) path content = .ok d ∧ parse (.withExtra other) path content = .ok e ∧
      d.AgreesBesideMethods e ∧ MethodFindings extra path content d ∧
      MethodFindings other path content e := by
  have read_ok : ∀ table, parse table path content = .ok (read table path content) := by
    intro table
    simp [parse, placed]
  refine ⟨_, _, read_ok _, read_ok _, ?_, methodFindings_of_parse (read_ok _),
    methodFindings_of_parse (read_ok _)⟩
  rw [read_eq_ofBlocks, read_eq_ofBlocks]
  exact ofBlocks_regardless _ _ path _

def querying : String := "QUERY\nGET\nquery /a\nGET\n###\npurge /b\n"

/-- Of the methods in this text the first list accepts `query`, written with blanks around it. -/
theorem parse_withExtra_query : "book.http" ≠ "" ∧
    Method.Accepted [" query "] "QUERY" ∧ ¬ Method.Accepted [] "QUERY" ∧
    ∃ d e, parse (.withExtra [" query "]) "book.http" querying = .ok d ∧
      parse (.withExtra []) "book.http" querying = .ok e ∧ d.AgreesBesideMethods e ∧
      MethodFindings [" query "] "book.http" querying d ∧ MethodFindings [] "book.http" querying e := by
  have placed : "book.http" ≠ "" := by decide
  exact ⟨placed, by decide, by decide, parse_withExtra placed querying [" query "] []⟩

end Document

end RequestBook

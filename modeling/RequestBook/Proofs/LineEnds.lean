import RequestBook.Proofs.Canonical
import RequestBook.Proofs.Positions

/-! Line ends. A text has its lines in one way only, and what is read of it depends on its lines alone.
So it makes no difference which of the three line ends a text is written with, or whether it mixes them. -/
namespace RequestBook

namespace Text

/-- The texts with the given lines. Every line but the last has a line end behind it; a carriage return in
front of a line feed is no line end of its own. -/
inductive HasLines : List (List Char) → List Char → Prop where
  | last {line : List Char} : Unbroken line → HasLines [line] line
  | feed {line rest : List Char} {more : List (List Char)} : Unbroken line → HasLines more rest →
      HasLines (line :: more) (line ++ '\n' :: rest)
  | pair {line rest : List Char} {more : List (List Char)} : Unbroken line → HasLines more rest →
      HasLines (line :: more) (line ++ '\r' :: '\n' :: rest)
  | lone {line rest : List Char} {more : List (List Char)} : Unbroken line → (∀ c ∈ rest.head?, c ≠ '\n') →
      HasLines more rest → HasLines (line :: more) (line ++ '\r' :: rest)

def joinPairs : List Char → List Char
  | [] => []
  | '\r' :: '\n' :: rest => '\n' :: joinPairs rest
  | c :: rest => c :: joinPairs rest

def withLineFeeds (text : List Char) : List Char :=
  (joinPairs text).map fun c => if c = '\r' then '\n' else c

section Lines

variable {line rest text : List Char} {more found : List (List Char)} {c : Char}

/-- A character that is no line end belongs to the first line. -/
theorem HasLines.cons (plain : c ≠ '\r' ∧ c ≠ '\n') (has : HasLines (line :: more) text) :
    HasLines ((c :: line) :: more) (c :: text) := by
  cases has with
  | last unbroken => exact .last (List.forall_mem_cons.mpr ⟨plain, unbroken⟩)
  | feed unbroken has => exact .feed (List.forall_mem_cons.mpr ⟨plain, unbroken⟩) has
  | pair unbroken has => exact .pair (List.forall_mem_cons.mpr ⟨plain, unbroken⟩) has
  | lone unbroken single has => exact .lone (List.forall_mem_cons.mpr ⟨plain, unbroken⟩) single has

theorem unbroken_nil : Unbroken [] := by simp [Unbroken]

theorem hasLines_lines (text : List Char) : HasLines (lines text) text := by
  fun_induction lines text with
  | case1 => exact .last unbroken_nil
  | case2 rest ih => exact .pair unbroken_nil ih
  | case3 c rest single ends ih =>
    rcases ends with rfl | rfl
    · refine .lone unbroken_nil ?_ ih
      rintro d first rfl
      obtain ⟨behind, shown⟩ := List.head?_eq_some_iff.mp first
      exact single behind rfl shown
    · exact .feed unbroken_nil ih
  | case4 c rest _ plain none ih =>
    rw [none] at ih
    cases ih
  | case5 c rest _ plain first others shown ih =>
    rw [shown] at ih
    exact ih.cons (not_or.mp plain)

theorem lines_lone (single : ∀ c ∈ rest.head?, c ≠ '\n') : lines ('\r' :: rest) = [] :: lines rest := by
  rw [lines, if_pos (.inl rfl)]
  rintro behind - rfl
  exact single '\n' rfl rfl

/-- A text has no other lines than those it is cut into. -/
theorem HasLines.lines_eq (has : HasLines found text) : lines text = found := by
  induction has with
  | last unbroken => exact lines_unbroken unbroken
  | feed unbroken _ ih => rw [lines_append unbroken, ih]
  | pair unbroken _ ih => rw [lines_behind unbroken (by rw [lines]), ih]
  | lone unbroken single _ ih => rw [lines_behind unbroken (lines_lone single), ih]

theorem withLineFeeds_append (unbroken : Unbroken line) (rest : List Char) :
    withLineFeeds (line ++ rest) = line ++ withLineFeeds rest := by
  induction line with
  | nil => rfl
  | cons c line ih =>
    obtain ⟨plain, others⟩ := List.forall_mem_cons.mp unbroken
    have apart : joinPairs (c :: (line ++ rest)) = c :: joinPairs (line ++ rest) := by
      rw [joinPairs]
      intro behind return_
      exact absurd return_ plain.1
    rw [withLineFeeds] at ih
    rw [List.cons_append, withLineFeeds, apart, List.map_cons, if_neg plain.1, ih others]
    rfl

theorem withLineFeeds_lone (single : ∀ c ∈ rest.head?, c ≠ '\n') :
    withLineFeeds ('\r' :: rest) = '\n' :: withLineFeeds rest := by
  rw [withLineFeeds, joinPairs, List.map_cons, if_pos rfl, withLineFeeds]
  rintro behind - rfl
  exact single '\n' rfl rfl

/-- The lines are kept when their ends are replaced. -/
theorem HasLines.withLineFeeds (has : HasLines found text) : HasLines found (withLineFeeds text) := by
  induction has with
  | @last line unbroken =>
    have kept := withLineFeeds_append unbroken []
    rw [List.append_nil] at kept
    rw [kept]
    simpa [Text.withLineFeeds, joinPairs] using HasLines.last unbroken
  | feed unbroken _ ih =>
    rw [withLineFeeds_append unbroken]
    exact .feed unbroken ih
  | pair unbroken _ ih =>
    rw [withLineFeeds_append unbroken]
    exact .feed unbroken ih
  | lone unbroken single _ ih =>
    rw [withLineFeeds_append unbroken, withLineFeeds_lone single]
    exact .feed unbroken ih

end Lines

end Text

namespace Document

open Text

theorem parse_congr {first second : String} (same : lines first.toList = lines second.toList)
    (table : MethodTable) (path : String) : parse table path first = parse table path second := by
  rw [parse, parse, read, read, same]

/-- Nothing that is read of a text changes when all its line ends are replaced by line feeds. A text has its
lines in one way only, and two texts with the same lines are read as the same document. -/
theorem parse_withLineFeeds (table : MethodTable) (path content : String) :
    parse table path (String.ofList (withLineFeeds content.toList)) = parse table path content ∧
    (∃! found, HasLines found content.toList) ∧
    ∀ found other, HasLines found content.toList → HasLines found other.toList →
      parse table path content = parse table path other := by
  have has := hasLines_lines content.toList
  refine ⟨?_, ⟨_, has, fun found same => same.lines_eq.symm⟩, fun found other own same => ?_⟩
  · apply parse_congr
    rw [String.toList_ofList, has.withLineFeeds.lines_eq]
  · apply parse_congr
    rw [own.lines_eq, same.lines_eq]

/-- Two texts with the same six lines, each with all three line ends, and without lines of their own between
the carriage returns and the line feed behind them. -/
theorem parse_withLineFeeds_mixed :
    HasLines ["GET /a".toList, "A: b".toList, [], [], "x".toList, []]
      "GET /a\rA: b\n\r\r\nx\r".toList ∧
    HasLines ["GET /a".toList, "A: b".toList, [], [], "x".toList, []]
      "GET /a\r\nA: b\r\r\n\nx\n".toList ∧
    parse .standard "book" "GET /a\rA: b\n\r\r\nx\r" =
      parse .standard "book" "GET /a\r\nA: b\r\r\n\nx\n" := by
  have first := hasLines_lines "GET /a\rA: b\n\r\r\nx\r".toList
  have second := hasLines_lines "GET /a\r\nA: b\r\r\n\nx\n".toList
  have same : lines "GET /a\rA: b\n\r\r\nx\r".toList =
      ["GET /a".toList, "A: b".toList, [], [], "x".toList, []] := by decide
  have same' : lines "GET /a\r\nA: b\r\r\n\nx\n".toList =
      ["GET /a".toList, "A: b".toList, [], [], "x".toList, []] := by decide
  rw [same] at first
  rw [same'] at second
  exact ⟨first, second, (parse_withLineFeeds .standard "book" _).2.2 _ _ first second⟩

end Document

end RequestBook

import RequestBook.Calendar.Directive

/-! Date patterns such as `yyyy-MM-dd`. A run of one letter is a field, whose form depends on the
length of the run; text in quotes and characters behind a backslash stand for themselves. A pattern
is rendered by turning it into directives. -/
namespace RequestBook.Calendar

def runDirective? (letter : Char) (n : Nat) : Option String :=
  match letter, n with
  | 'y', 1 => some "%-y"
  | 'y', 2 => some "%y"
  | 'y', _ => some "%Y"
  | 'M', 1 => some "%-m"
  | 'M', 2 => some "%m"
  | 'M', 3 => some "%b"
  | 'M', _ => some "%B"
  | 'd', 1 => some "%-d"
  | 'd', 2 => some "%d"
  | 'd', 3 => some "%a"
  | 'd', _ => some "%A"
  | 'H', 1 => some "%-H"
  | 'H', _ => some "%H"
  | 'h', 1 => some "%-I"
  | 'h', _ => some "%I"
  | 'm', 1 => some "%-M"
  | 'm', _ => some "%M"
  | 's', 1 => some "%-S"
  | 's', _ => some "%S"
  | 'f', n => some (if n ≤ 3 then "%3f" else if n ≤ 6 then "%6f" else "%9f")
  | 't', _ => some "%p"
  | 'z', n => some (if n ≤ 2 then "%z" else "%:z")
  | 'K', _ => some "%:z"
  | _, _ => none

def literalDirective (c : Char) : List Char := if c = '%' then ['%', '%'] else [c]

/-- The directives of a pattern, and whether it has a field at all. A quote without its partner
reaches to the end of the pattern, and a backslash at the end is dropped. -/
def directivesOf (pattern : List Char) : List Char × Bool :=
  match pattern with
  | [] => ([], false)
  | '\\' :: [] => ([], false)
  | '\\' :: c :: rest =>
    let (directives, hasField) := directivesOf rest
    (literalDirective c ++ directives, hasField)
  | c :: rest =>
    if c = '\'' ∨ c = '"' then
      let (directives, hasField) := directivesOf ((rest.dropWhile (· != c)).drop 1)
      ((rest.takeWhile (· != c)).flatMap literalDirective ++ directives, hasField)
    else
      let run := c :: rest.takeWhile (· == c)
      let (directives, hasField) := directivesOf (rest.dropWhile (· == c))
      match runDirective? c run.length with
      | some directive => (directive.toList ++ directives, true)
      | none => (run.flatMap literalDirective ++ directives, hasField)
termination_by pattern.length
decreasing_by
  · simp only [List.length_cons]; omega
  · have := (List.dropWhile_sublist (· != c) (l := rest)).length_le
    simp only [List.length_drop, List.length_cons]; omega
  · exact Nat.lt_succ_of_le (List.dropWhile_sublist _).length_le

def directives? (pattern : List Char) : Option (List Char) :=
  let (directives, hasField) := directivesOf pattern
  if hasField && (items? directives).isSome then some directives else none

def LocalTime.patternText? (t : LocalTime) (pattern : List Char) : Option (List Char) :=
  (directives? pattern).bind t.format?

end RequestBook.Calendar

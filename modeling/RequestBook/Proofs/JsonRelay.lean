import RequestBook.Proofs.JsonNesting

/-! Extraction in two hops. What a path extracts from a body is a JSON text again, unless it is a
string, and a second path extracts from that text what the two paths joined by a point extract from the
body. Neither path need be well written: a path that cannot be read spoils the joined path as well. -/
namespace RequestBook.Json

open Text

def valueAt? (body path : List Char) : Option Json := do
  let value ← parse? body
  follow? value.sorted (← path? path)

theorem extract?_eq (body path : List Char) : extract? body path = (valueAt? body path).map plainText := by
  simp only [extract?, valueAt?, Option.bind_eq_bind, Option.map_bind, Function.comp_def]
  refine Option.bind_congr fun value _ => ?_
  refine Option.bind_congr fun segments _ => ?_
  cases follow? value.sorted segments <;> rfl

/-- A point between two paths joins their segments. The first path may have a name at its end, which the
point ends. -/
theorem readSegments_append {collected first : List Char} {segments : List Segment}
    (read : readSegments collected first = some segments) (second : List Char) :
    readSegments collected (first ++ '.' :: second) = (readSegments [] second).map (segments ++ ·) := by
  fun_induction readSegments collected first generalizing segments with
  | case1 collected =>
    cases read
    rw [List.nil_append, readSegments_point]
  | case2 collected rest ih =>
    obtain ⟨more, behind, rfl⟩ := Option.map_eq_some_iff.mp read
    rw [List.cons_append, readSegments_point, ih behind, Option.map_map]
    simp only [Function.comp_def, List.append_assoc]
  | case3 => cases read
  | case4 => cases read
  | case5 collected rest inside after cut _ position number ih =>
    obtain ⟨more, behind, rfl⟩ := Option.map_eq_some_iff.mp read
    rw [List.cons_append, readSegments_bracket (cutAt?_extend cut _), number, Option.bind_some,
      ih behind, Option.map_map]
    simp only [Function.comp_def, List.append_assoc, List.cons_append]
  | case6 collected c rest point bracket ih =>
    rw [List.cons_append, readSegments, ih read]
    · exact point
    · exact bracket

theorem trimmed_join {first second : List Char} (left : Trimmed first) (right : Trimmed second) :
    Trimmed (first ++ '.' :: second) := by
  constructor
  · cases first with
    | nil => simp [isBlank]
    | cons c rest => exact left.1
  · rw [List.getLast?_append_of_ne_nil _ (List.cons_ne_nil _ _)]
    cases second with
    | nil => simp [isBlank]
    | cons c rest => exact right.2

/-- The segments of two joined paths are those of the first and those of the second. -/
theorem path?_join {first second : List Char} (left : Trimmed first) (right : Trimmed second)
    (unrooted : second.head? ≠ some '$') {segments : List Segment} (read : path? first = some segments) :
    path? (first ++ '.' :: second) = (path? second).map (segments ++ ·) := by
  have joined := trimmed_join left right
  rw [path?_unrooted right unrooted]
  by_cases rooted : first.head? = some '$'
  · obtain ⟨path, rfl⟩ := List.head?_eq_some_iff.mp rooted
    rw [path?_rooted left] at read
    rw [List.cons_append] at joined ⊢
    rw [path?_rooted joined, readSegments_append read]
  · have apart : (first ++ '.' :: second).head? ≠ some '$' := by
      cases first with
      | nil => simp
      | cons c rest => exact rooted
    rw [path?_unrooted left rooted] at read
    rw [path?_unrooted joined apart, readSegments_append read]

/-- The value that a path leads to is sorted and fits into the reader. -/
theorem sorted_of_valueAt? {body path : List Char} {value : Json} (reached : valueAt? body path = some value) :
    value.sorted = value ∧ value.height ≤ maxOpen := by
  obtain ⟨whole, read, segments, _, found⟩ := by
    simpa only [valueAt?, Option.bind_eq_bind, Option.bind_eq_some_iff] using reached
  have reaches := follow?_eq_some_iff.mp found
  rw [follow?_sorted] at found
  obtain ⟨origin, _, rfl⟩ := Option.map_eq_some_iff.mp found
  exact ⟨sorted_sorted origin, reaches.height_le.trans ((height_sorted_le whole).trans (height_of_parse? read))⟩

/-- A value without strings at its top is written so that it is read back. -/
theorem parse?_plainText {value : Json} (container : ∀ s, value ≠ .string s)
    (whole : ∀ n ∈ value.numbers, Whole n) (shallow : value.height ≤ maxOpen) :
    parse? value.plainText = some value := by
  have shown : value.plainText = value.write := by
    cases value with
    | string s => exact absurd rfl (container s)
    | _ => rfl
  rw [shown, parse?_write (readable_of_whole whole shallow) le_rfl]

/-- Extracting with one path and from the result with another one is extracting with the two joined by a
point, whether anything is found or not. The value in between is no string, and its numbers are integers
of 64 bits. -/
theorem extract?_join {body first second text : List Char} (left : Trimmed first) (right : Trimmed second)
    (unrooted : second.head? ≠ some '$') {value : Json} (reached : valueAt? body first = some value)
    (container : ∀ s, value ≠ .string s) (whole : ∀ n ∈ value.numbers, Whole n)
    (found : extract? body first = some text) :
    extract? text second = extract? body (first ++ '.' :: second) := by
  obtain ⟨sorted, shallow⟩ := sorted_of_valueAt? reached
  rw [extract?_eq, reached] at found
  cases found
  rw [extract?_eq, extract?_eq]
  refine congrArg _ ?_
  obtain ⟨origin, read, segments, path, leads⟩ := by
    simpa only [valueAt?, Option.bind_eq_bind, Option.bind_eq_some_iff] using reached
  have once : valueAt? value.plainText second = (path? second).bind fun more => follow? value more := by
    simp only [valueAt?, parse?_plainText container whole shallow, Option.bind_eq_bind, Option.bind_some,
      sorted]
  rw [once, valueAt?, read, path?_join left right unrooted path]
  simp only [Option.bind_eq_bind, Option.bind_some, Option.bind_map]
  refine Option.bind_congr fun more _ => ?_
  rw [Function.comp_apply, follow?_append, leads, Option.bind_some]

def relayedBody : List Char := "\x7b\"a\":[\x7b\"k\":[-1,\"\\\"\\u0001\"],\"b\":7\x7d]\x7d".toList

def relayedText : List Char := "\x7b\"b\":7,\"k\":[-1,\"\\\"\\u0001\"]\x7d".toList

def relayedList : String × Json := ("k", .array [.number (.integer (-1)), .string "\"\x01"])

def relayedNumber : String × Json := ("b", .number (.integer 7))

theorem whole_relayed {fields : List (String × Json)} (inside : fields ⊆ [relayedList, relayedNumber]) :
    ∀ n ∈ (Json.object fields).numbers, Whole n := by
  intro n member
  obtain ⟨field, own, listed⟩ := mem_numbersOfFields.mp member
  have place := inside own
  simp only [List.mem_cons, List.not_mem_nil, or_false] at place
  rcases place with rfl | rfl <;>
    simp only [relayedList, relayedNumber, numbers, numbersOfItems, List.append_nil,
      List.mem_singleton] at listed <;>
    subst listed <;> exact ⟨_, rfl, by decide, by decide⟩

theorem valueAt?_relayed :
    valueAt? relayedBody "$..a[ 0 ]".toList = some (.object [relayedNumber, relayedList]) := by
  have readable : Readable 4 (.object [("a", .array [.object [relayedList, relayedNumber]])]) :=
    .object (List.forall_mem_singleton.mpr (.array (List.forall_mem_singleton.mpr
      (readable_of_whole (whole_relayed (List.Subset.refl _)) (by decide)))))
  have read : parse? relayedBody = _ := parse?_write readable (by decide)
  have path : path? "$..a[ 0 ]".toList = some [.field "a", .index 0] := by decide +kernel
  rw [valueAt?, read, path]
  rfl

theorem extract?_join_relayed : Trimmed "$..a[ 0 ]".toList ∧ Trimmed "k[1]".toList ∧
    "k[1]".toList.head? ≠ some '$' ∧ extract? relayedBody "$..a[ 0 ]".toList = some relayedText ∧
    extract? relayedText "k[1]".toList = some "\"\x01".toList ∧
    extract? relayedText "k[1]".toList = extract? relayedBody ("$..a[ 0 ]".toList ++ '.' :: "k[1]".toList) := by
  have left : Trimmed "$..a[ 0 ]".toList := by decide
  have right : Trimmed "k[1]".toList := by decide
  have unrooted : "k[1]".toList.head? ≠ some '$' := by decide
  have found : extract? relayedBody "$..a[ 0 ]".toList = some relayedText := by decide +kernel
  have inside : [relayedNumber, relayedList] ⊆ [relayedList, relayedNumber] := by simp
  exact ⟨left, right, unrooted, found, by decide +kernel,
    extract?_join left right unrooted valueAt?_relayed (by simp)
      (whole_relayed inside) found⟩

end RequestBook.Json

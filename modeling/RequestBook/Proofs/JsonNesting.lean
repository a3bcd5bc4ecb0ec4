import RequestBook.Proofs.JsonPath

/-! How deep JSON values are nested and which numbers stand in them. A value that was read has no more
containers around any part of it than the reader may have open, and what a path leads to lies no deeper
than the whole. So a part of a body is written and read back like a body of its own. -/
namespace RequestBook.Json

open Text

mutual

/-- How many containers lie inside of one another. -/
def height : Json → Nat
  | .array items => heightOfItems items + 1
  | .object fields => heightOfFields fields + 1
  | _ => 0

def heightOfItems : List Json → Nat
  | [] => 0
  | item :: rest => max (height item) (heightOfItems rest)

def heightOfFields : List (String × Json) → Nat
  | [] => 0
  | (_, value) :: rest => max (height value) (heightOfFields rest)

end

mutual

def numbers : Json → List Number
  | .number n => [n]
  | .array items => numbersOfItems items
  | .object fields => numbersOfFields fields
  | _ => []

def numbersOfItems : List Json → List Number
  | [] => []
  | item :: rest => numbers item ++ numbersOfItems rest

def numbersOfFields : List (String × Json) → List Number
  | [] => []
  | (_, value) :: rest => numbers value ++ numbersOfFields rest

end

section Parts

variable {items : List Json} {fields : List (String × Json)} {bound : Nat}

theorem heightOfItems_le_iff : heightOfItems items ≤ bound ↔ ∀ item ∈ items, item.height ≤ bound := by
  induction items with
  | nil => simp [heightOfItems]
  | cons item rest ih => simp [heightOfItems, ih]

theorem heightOfFields_le_iff : heightOfFields fields ≤ bound ↔ ∀ field ∈ fields, field.2.height ≤ bound := by
  induction fields with
  | nil => simp [heightOfFields]
  | cons field rest ih => simp [heightOfFields, ih]

theorem mem_numbersOfItems {n : Number} : n ∈ numbersOfItems items ↔ ∃ item ∈ items, n ∈ item.numbers := by
  induction items with
  | nil => simp [numbersOfItems]
  | cons item rest ih => simp [numbersOfItems, ih]

theorem mem_numbersOfFields {n : Number} :
    n ∈ numbersOfFields fields ↔ ∃ field ∈ fields, n ∈ field.2.numbers := by
  induction fields with
  | nil => simp [numbersOfFields]
  | cons field rest ih => simp [numbersOfFields, ih]

end Parts

/-- An integer of 64 bits, with or without a sign. -/
def Whole (n : Number) : Prop := ∃ k : Int, n = .integer k ∧ -signedLimit ≤ k ∧ k < unsignedLimit

theorem readable_of_whole {value : Json} (whole : ∀ n ∈ value.numbers, Whole n) {depth : Nat}
    (shallow : value.height ≤ depth) : Readable depth value := by
  induction value using nestedInduction generalizing depth with
  | null => exact .null
  | bool b => exact .bool b
  | number n =>
    obtain ⟨k, rfl, low, high⟩ := whole n (by simp [numbers])
    exact .integer low high
  | string s => exact .string s
  | array items each =>
    rw [height] at shallow
    obtain ⟨depth, rfl⟩ : ∃ d, depth = d + 1 := ⟨depth - 1, by omega⟩
    refine .array fun item member => each item member (fun n inside => whole n ?_) ?_
    · exact mem_numbersOfItems.mpr ⟨item, member, inside⟩
    · exact heightOfItems_le_iff.mp (by omega) item member
  | object fields each =>
    rw [height] at shallow
    obtain ⟨depth, rfl⟩ : ∃ d, depth = d + 1 := ⟨depth - 1, by omega⟩
    refine .object fun field member => each field member (fun n inside => whole n ?_) ?_
    · exact mem_numbersOfFields.mpr ⟨field, member, inside⟩
    · exact heightOfFields_le_iff.mp (by omega) field member

theorem height_sorted_le (value : Json) : value.sorted.height ≤ value.height := by
  induction value using nestedInduction with
  | array items each =>
    rw [sorted, height, height, sortedItems_eq_map, Nat.add_le_add_iff_right, heightOfItems_le_iff]
    intro item member
    obtain ⟨origin, inside, rfl⟩ := List.mem_map.mp member
    exact (each origin inside).trans (heightOfItems_le_iff.mp le_rfl origin inside)
  | object fields each =>
    rw [sorted, height, height, Nat.add_le_add_iff_right, heightOfFields_le_iff]
    intro field member
    have own := mem_of_mem_sortFields member
    rw [sortedFields_eq_map] at own
    obtain ⟨origin, inside, rfl⟩ := List.mem_map.mp own
    exact (each origin inside).trans (heightOfFields_le_iff.mp le_rfl origin inside)
  | _ => exact le_rfl

theorem Leads.height_le {value next : Json} {segment : Segment} (leads : Leads value segment next) :
    next.height ≤ value.height := by
  cases leads with
  | field last => exact (heightOfFields_le_iff.mp le_rfl _ last.mem).trans (Nat.le_succ _)
  | index found =>
    exact (heightOfItems_le_iff.mp le_rfl _ (List.mem_of_getElem? found)).trans (Nat.le_succ _)

theorem Reaches.height_le {value target : Json} {segments : List Segment}
    (reaches : Reaches value segments target) : target.height ≤ value.height := by
  induction reaches with
  | here => exact le_rfl
  | step leads _ ih => exact ih.trans leads.height_le

def Frame.values : Frame → List Json
  | .array items => items
  | .object fields _ => fields.map Prod.snd

/-- What stands in the open containers leaves room for them, counted from the innermost one. -/
def Fits : List Frame → Prop
  | [] => True
  | frame :: rest => (∀ value ∈ frame.values, value.height + (rest.length + 1) ≤ maxOpen) ∧ Fits rest

structure Progress.Fits (p : Progress) : Prop where
  room : p.frames.length ≤ maxOpen
  frames : Json.Fits p.frames
  result : ∀ value ∈ p.result, value.height ≤ maxOpen

def Token.Flat (token : Token) : Prop := ∀ value, token = .scalar value → value.height = 0

namespace Progress

variable {p q : Progress}

theorem fits_start : Fits .start := ⟨Nat.zero_le _, trivial, by simp [start]⟩

theorem fits_of_give {value : Json} (fits : Json.Fits p.frames)
    (low : value.height + p.frames.length ≤ maxOpen) (given : p.give value = some q) : q.Fits := by
  unfold give at given
  split at given
  case h_1 =>
    cases given
    exact ⟨Nat.zero_le _, trivial, fun v own => by cases own; omega⟩
  case h_2 shown | h_3 shown =>
    cases given
    rw [shown] at fits low
    refine ⟨?_, ⟨List.forall_mem_cons.mpr ⟨low, fits.1⟩, fits.2⟩, by simp⟩
    simp only [List.length_cons] at low ⊢
    omega
  case h_4 => cases given

theorem fits_of_enter {frame : Frame} {expect : Expect} (fits : p.Fits) (empty : frame.values = [])
    (entered : p.enter frame expect = some q) : q.Fits := by
  unfold enter at entered
  split at entered
  case isTrue room =>
    cases entered
    exact ⟨room, ⟨by simp [empty], fits.frames⟩, by simp⟩
  case isFalse => cases entered

/-- What closes a container gives a value that is one level higher than what stands in it. -/
theorem fits_of_close {frame : Frame} {rest : List Frame} {value : Json}
    (fits : Json.Fits (frame :: rest)) (closed : ∀ bound, (∀ v ∈ frame.values, v.height ≤ bound) →
      value.height ≤ bound + 1) (room : rest.length + 1 ≤ maxOpen)
    (given : give ⟨rest, .value, none⟩ value = some q) : q.Fits := by
  have inside := closed (maxOpen - (rest.length + 1)) fun v member => by
    have := fits.1 v member
    omega
  refine fits_of_give (p := ⟨rest, .value, none⟩) fits.2 ?_ given
  dsimp only
  omega

theorem fits_of_closeArray {items : List Json} {rest : List Frame} (fits : Json.Fits (.array items :: rest))
    (room : rest.length + 1 ≤ maxOpen)
    (given : give ⟨rest, .value, none⟩ (.array items.reverse) = some q) : q.Fits := by
  refine fits_of_close fits (fun bound low => ?_) room given
  rw [height, Nat.add_le_add_iff_right, heightOfItems_le_iff]
  exact fun item member => low item (List.mem_reverse.mp member)

theorem fits_of_closeObject {fields : List (String × Json)} {rest : List Frame}
    (fits : Json.Fits (.object fields none :: rest)) (room : rest.length + 1 ≤ maxOpen)
    (given : give ⟨rest, .value, none⟩ (.object fields.reverse) = some q) : q.Fits := by
  refine fits_of_close fits (fun bound low => ?_) room given
  rw [height, Nat.add_le_add_iff_right, heightOfFields_le_iff]
  exact fun field member => low field.2 (List.mem_map_of_mem (List.mem_reverse.mp member))

/-- One lexeme keeps what was read within the limit. -/
theorem fits_of_feed {token : Token} (fits : p.Fits) (flat : token.Flat) (fed : p.feed token = some q) :
    q.Fits := by
  obtain ⟨room, inside, read⟩ := fits
  cases token <;> simp only [feed] at fed
  case scalar value =>
    split at fed
    case isTrue =>
      refine fits_of_give inside ?_ fed
      rw [flat value rfl]
      omega
    case isFalse =>
      split at fed
      case h_1 shown | h_2 shown =>
        cases fed
        rw [shown] at room inside
        exact ⟨room, inside, by simp⟩
      case h_3 => cases fed
  case openArray | openObject =>
    split at fed
    case isTrue => exact fits_of_enter ⟨room, inside, read⟩ rfl fed
    case isFalse => cases fed
  case closeArray =>
    split at fed
    case h_1 shown | h_2 shown =>
      rw [shown] at room inside
      exact fits_of_closeArray inside room fed
    case h_3 => cases fed
  case closeObject =>
    split at fed
    case h_1 shown | h_2 shown =>
      rw [shown] at room inside
      exact fits_of_closeObject inside room fed
    case h_3 => cases fed
  case comma =>
    split at fed
    case h_1 | h_2 =>
      cases fed
      exact ⟨room, inside, read⟩
    case h_3 => cases fed
  case colon =>
    split at fed
    case isTrue =>
      cases fed
      exact ⟨room, inside, read⟩
    case isFalse => cases fed

theorem height_of_run {tokens : List Token} (fits : p.Fits) (flat : ∀ token ∈ tokens, token.Flat)
    {value : Json} (ran : p.run tokens = some value) : value.height ≤ maxOpen := by
  induction tokens generalizing p with
  | nil =>
    rw [run] at ran
    split at ran
    · exact fits.result value ran
    · cases ran
  | cons token rest ih =>
    obtain ⟨first, others⟩ := List.forall_mem_cons.mp flat
    rw [run] at ran
    split at ran
    next fed => exact ih (fits_of_feed fits first fed) others ran
    next => cases ran

end Progress

theorem flat_of_readToken {text rest : List Char} {token : Token}
    (read : readToken text = some (token, rest)) : token.Flat := by
  intro value scalar
  subst scalar
  unfold readToken at read
  split at read
  case h_10 =>
    obtain ⟨⟨s, behind⟩, _, eq⟩ := Option.map_eq_some_iff.mp read
    cases eq
    rfl
  case h_11 =>
    obtain ⟨⟨n, behind⟩, _, eq⟩ := Option.map_eq_some_iff.mp read
    cases eq
    rfl
  all_goals
    cases read
    try rfl

theorem flat_of_tokens {text : List Char} {found : List Token} (lexed : tokens text = some found) :
    ∀ token ∈ found, token.Flat := by
  fun_induction tokens text generalizing found with
  | case1 =>
    cases lexed
    simp
  | case2 c rest _ ih => exact ih lexed
  | case3 => cases lexed
  | case4 c rest _ token after read _ ih =>
    obtain ⟨more, behind, rfl⟩ := Option.map_eq_some_iff.mp lexed
    exact List.forall_mem_cons.mpr ⟨flat_of_readToken read, ih behind⟩

/-- A value that was read is no deeper than the limit. -/
theorem height_of_parse? {text : List Char} {value : Json} (read : parse? text = some value) :
    value.height ≤ maxOpen := by
  obtain ⟨found, lexed, ran⟩ := Option.bind_eq_some_iff.mp read
  exact Progress.height_of_run Progress.fits_start (flat_of_tokens lexed) ran

end RequestBook.Json

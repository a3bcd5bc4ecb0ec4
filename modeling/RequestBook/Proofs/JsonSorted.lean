import Mathlib.Data.List.Induction
import Mathlib.Data.String.Basic
import RequestBook.Json.Path

/-! The sorted form of a JSON value. Sorting puts the fields of every object in strictly increasing
order of their names and keeps the last of several fields with one name. It neither hides nor invents a
field or an item, so a path leads to the same place before and after, and sorting again changes
nothing. -/
namespace RequestBook.Json

theorem sizeOf_lt_array {item : Json} {items : List Json} (member : item ∈ items) :
    sizeOf item < sizeOf (Json.array items) := by
  have := List.sizeOf_lt_of_mem member
  simp only [Json.array.sizeOf_spec]
  omega

theorem sizeOf_lt_object {field : String × Json} {fields : List (String × Json)} (member : field ∈ fields) :
    sizeOf field.2 < sizeOf (Json.object fields) := by
  have := List.sizeOf_lt_of_mem member
  have : sizeOf field = 1 + sizeOf field.1 + sizeOf field.2 := rfl
  simp only [Json.object.sizeOf_spec]
  omega

/-- Induction over a value and all values inside of it. -/
theorem nestedInduction {motive : Json → Prop} (null : motive .null) (bool : ∀ b, motive (.bool b))
    (number : ∀ n, motive (.number n)) (string : ∀ s, motive (.string s))
    (array : ∀ items, (∀ item ∈ items, motive item) → motive (.array items))
    (object : ∀ fields, (∀ field ∈ fields, motive field.2) → motive (.object fields)) :
    ∀ value, motive value
  | .null => null
  | .bool b => bool b
  | .number n => number n
  | .string s => string s
  | .array items =>
    array items fun item _ => nestedInduction null bool number string array object item
  | .object fields =>
    object fields fun field _ => nestedInduction null bool number string array object field.2
termination_by value => sizeOf value
decreasing_by
  · exact sizeOf_lt_array ‹_›
  · exact sizeOf_lt_object ‹_›

section Fields

variable {name : String} {value : Json} {field : String × Json} {fields : List (String × Json)}

def Ordered (fields : List (String × Json)) : Prop := fields.Pairwise fun first second => first.1 < second.1

/-- The last of the fields with its name. -/
def IsLast (field : String × Json) (fields : List (String × Json)) : Prop :=
  ∃ before after, fields = before ++ field :: after ∧ ∀ other ∈ after, other.1 ≠ field.1

theorem field?_eq_some_iff : (Json.object fields).field? name = some value ↔ IsLast (name, value) fields := by
  simp only [field?, Option.map_eq_some_iff, List.find?_eq_some_iff_append, IsLast]
  constructor
  · rintro ⟨⟨own, _⟩, ⟨same, after, before, split, others⟩, rfl⟩
    obtain rfl : own = name := by simpa using same
    refine ⟨before.reverse, after.reverse, ?_, by simpa using others⟩
    rw [← List.reverse_reverse fields, split]
    simp
  · rintro ⟨before, after, rfl, others⟩
    exact ⟨(name, value), ⟨by simp, after.reverse, before.reverse, by simp, by simpa using others⟩, rfl⟩

theorem field?_eq_none_iff :
    (Json.object fields).field? name = none ↔ ∀ field ∈ fields, field.1 ≠ name := by
  simp [field?]

theorem IsLast.mem (last : IsLast field fields) : field ∈ fields := by
  obtain ⟨before, after, rfl, _⟩ := last
  exact List.mem_append_right _ List.mem_cons_self

theorem isLast_iff_mem (ordered : Ordered fields) : IsLast field fields ↔ field ∈ fields := by
  refine ⟨IsLast.mem, fun member => ?_⟩
  obtain ⟨before, after, rfl⟩ := List.append_of_mem member
  have behind := (List.pairwise_cons.mp (List.pairwise_append.mp ordered).2.1).1
  exact ⟨before, after, rfl, fun other inside => (behind other inside).ne'⟩

theorem isLast_concat {last : String × Json} :
    IsLast field (fields ++ [last]) ↔ field = last ∨ IsLast field fields ∧ field.1 ≠ last.1 := by
  constructor
  · rintro ⟨before, after, split, others⟩
    rcases List.eq_nil_or_concat after with rfl | ⟨more, final, rfl⟩
    · obtain ⟨_, same⟩ := List.append_inj' split rfl
      exact .inl (List.cons.inj same).1.symm
    · rw [List.concat_eq_append, ← List.cons_append, ← List.append_assoc] at split
      obtain ⟨rfl, same⟩ := List.append_inj' split rfl
      obtain rfl := (List.cons.inj same).1
      refine .inr ⟨⟨before, more, rfl, fun other inside => others other ?_⟩, (others last ?_).symm⟩
      · simp [inside]
      · simp
  · rintro (rfl | ⟨⟨before, after, rfl, others⟩, apart⟩)
    · exact ⟨fields, [], rfl, by simp⟩
    · refine ⟨before, after ++ [last], by simp, ?_⟩
      intro other inside
      rcases List.mem_append.mp inside with own | new
      · exact others other own
      · rw [List.mem_singleton.mp new]
        exact apart.symm

theorem mem_insertField (ordered : Ordered fields) :
    field ∈ insertField name value fields ↔ field = (name, value) ∨ field ∈ fields ∧ field.1 ≠ name := by
  induction fields with
  | nil => simp [insertField]
  | cons first rest ih =>
    obtain ⟨behind, more⟩ := List.pairwise_cons.mp ordered
    rw [insertField]
    split
    next same =>
      have others : field ∈ rest → field.1 ≠ name := fun inside => same ▸ (behind field inside).ne'
      grind
    next =>
      split
      next before =>
        have others : field ∈ rest → field.1 ≠ name := fun inside => (before.trans (behind field inside)).ne'
        grind
      next =>
        have deeper := ih more
        grind

theorem ordered_insertField (ordered : Ordered fields) : Ordered (insertField name value fields) := by
  induction fields with
  | nil => simp [insertField, Ordered]
  | cons first rest ih =>
    obtain ⟨behind, more⟩ := List.pairwise_cons.mp ordered
    rw [insertField]
    split
    next same => exact List.pairwise_cons.mpr ⟨same ▸ behind, more⟩
    next apart =>
      split
      next before =>
        refine List.pairwise_cons.mpr ⟨fun other inside => ?_, ordered⟩
        rcases List.mem_cons.mp inside with rfl | own
        · exact before
        · exact before.trans (behind other own)
      next after =>
        have front : first.1 < name := lt_of_le_of_ne (not_lt.mp after) (Ne.symm apart)
        refine List.pairwise_cons.mpr ⟨fun other inside => ?_, ih more⟩
        rcases (mem_insertField more).mp inside with rfl | ⟨own, _⟩
        · exact front
        · exact behind other own

theorem sortFields_concat (last : String × Json) :
    sortFields (fields ++ [last]) = insertField last.1 last.2 (sortFields fields) := by
  simp [sortFields]

theorem ordered_sortFields (fields : List (String × Json)) : Ordered (sortFields fields) := by
  induction fields using List.reverseRecOn with
  | nil => exact List.Pairwise.nil
  | append_singleton fields last ih =>
    rw [sortFields_concat]
    exact ordered_insertField ih

/-- Sorting keeps the last field of every name and nothing else. -/
theorem mem_sortFields : field ∈ sortFields fields ↔ IsLast field fields := by
  induction fields using List.reverseRecOn with
  | nil => simp [sortFields, IsLast]
  | append_singleton fields last ih =>
    rw [sortFields_concat, mem_insertField (ordered_sortFields fields), isLast_concat, ih]

theorem mem_of_mem_sortFields (member : field ∈ sortFields fields) : field ∈ fields :=
  (mem_sortFields.mp member).mem

theorem insertField_of_lt (before : ∀ other ∈ fields, other.1 < name) :
    insertField name value fields = fields ++ [(name, value)] := by
  induction fields with
  | nil => rfl
  | cons first rest ih =>
    obtain ⟨front, others⟩ := List.forall_mem_cons.mp before
    rw [insertField, if_neg front.ne', if_neg front.not_gt, ih others, List.cons_append]

theorem sortFields_of_ordered (ordered : Ordered fields) : sortFields fields = fields := by
  induction fields using List.reverseRecOn with
  | nil => rfl
  | append_singleton fields last ih =>
    obtain ⟨front, _, before⟩ := List.pairwise_append.mp ordered
    rw [sortFields_concat, ih front, insertField_of_lt fun other inside => before other inside last (by simp)]

end Fields

theorem sortedItems_eq_map (items : List Json) : sortedItems items = items.map sorted := by
  induction items with
  | nil => rfl
  | cons item rest ih => rw [sortedItems, ih, List.map_cons]

theorem sortedFields_eq_map (fields : List (String × Json)) :
    sortedFields fields = fields.map fun field => (field.1, sorted field.2) := by
  induction fields with
  | nil => rfl
  | cons field rest ih => rw [sortedFields, ih, List.map_cons]

/-- Sorting again changes nothing. -/
theorem sorted_sorted (value : Json) : value.sorted.sorted = value.sorted := by
  induction value using nestedInduction with
  | null => rfl
  | bool => rfl
  | number => rfl
  | string => rfl
  | array items each =>
    simp only [sorted, sortedItems_eq_map, List.map_map]
    exact congrArg _ (List.map_congr_left each)
  | object fields each =>
    have fixed : ∀ field ∈ sortFields (sortedFields fields), (field.1, field.2.sorted) = field := by
      intro field member
      have own := mem_of_mem_sortFields member
      rw [sortedFields_eq_map] at own
      obtain ⟨origin, inside, rfl⟩ := List.mem_map.mp own
      rw [each origin inside]
    have kept : sortedFields (sortFields (sortedFields fields)) = sortFields (sortedFields fields) := by
      rw [sortedFields_eq_map]
      exact (List.map_congr_left fixed).trans (List.map_id' _)
    rw [sorted, sorted, kept, sortFields_of_ordered (ordered_sortFields _)]

section Navigation

variable (value : Json)

theorem field?_sorted (name : String) : value.sorted.field? name = (value.field? name).map sorted := by
  cases value with
  | object fields =>
    have kept : ∀ v, (Json.object (sortFields (sortedFields fields))).field? name = some v ↔
        (Json.object (sortedFields fields)).field? name = some v := by
      intro v
      rw [field?_eq_some_iff, field?_eq_some_iff, isLast_iff_mem (ordered_sortFields _), mem_sortFields]
    rw [sorted, Option.ext kept, sortedFields_eq_map, field?, field?, ← List.map_reverse, List.find?_map,
      Option.map_map, Option.map_map]
    rfl
  | _ => rfl

theorem item?_sorted (index : Nat) : value.sorted.item? index = (value.item? index).map sorted := by
  cases value with
  | array items => simp [sorted, item?, sortedItems_eq_map]
  | _ => rfl

theorem step?_sorted (segment : Segment) : step? value.sorted segment = (step? value segment).map sorted := by
  cases segment with
  | field name => exact field?_sorted value name
  | index position => exact item?_sorted value position

/-- A path leads to the same place in the sorted form. -/
theorem follow?_sorted (segments : List Segment) :
    follow? value.sorted segments = (follow? value segments).map sorted := by
  induction segments generalizing value with
  | nil => rfl
  | cons segment rest ih =>
    simp only [follow?, List.foldlM_cons, Option.bind_eq_bind] at ih ⊢
    rw [step?_sorted, Option.bind_map, Option.map_bind]
    exact Option.bind_congr fun next _ => ih next

theorem follow?_append (first second : List Segment) :
    follow? value (first ++ second) = (follow? value first).bind fun place => follow? place second := by
  simp [follow?, List.foldlM_append]

end Navigation

end RequestBook.Json

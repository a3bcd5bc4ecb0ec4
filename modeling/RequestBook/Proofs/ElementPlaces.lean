import Mathlib.Data.List.Basic
import RequestBook.Markup.Query

/-! Places in an element tree. A place is the way down to it, as numbers among the child elements;
document order is the order of words, in which a beginning comes before what it begins. The children
and the descendants of an element come in this order, each place once. -/
namespace RequestBook.Markup

abbrev Place := List Nat

/-- The element that stands at a place below another. -/
def Element.at? (e : Element) : Place → Option Element
  | [] => some e
  | i :: rest => e.elements[i]?.bind fun child => child.at? rest

def Axis.Leads : Axis → Place → Prop
  | .child, way => way.length = 1
  | .descendant, way => way ≠ []

namespace Element

variable {e child : Element} {i : Nat}

theorem at?_cons (stands : e.elements[i]? = some child) (way : Place) : e.at? (i :: way) = child.at? way := by
  rw [at?, stands, Option.bind_some]

theorem at?_append (e : Element) (origin way : Place) :
    e.at? (origin ++ way) = (e.at? origin).bind fun c => c.at? way := by
  induction origin generalizing e with
  | nil => rfl
  | cons i rest ih =>
    rw [List.cons_append, at?, at?, Option.bind_assoc]
    exact Option.bind_congr fun child _ => ih child

theorem sizeOf_lt (member : child ∈ e.elements) : sizeOf child < sizeOf e := by
  obtain ⟨tag, children⟩ := e
  obtain ⟨node, among, isElement⟩ := List.mem_filterMap.mp member
  have := List.sizeOf_lt_of_mem among
  cases node with
  | text => cases isElement
  | element childTag below =>
    cases isElement
    simp only [Node.element.sizeOf_spec, Element.mk.sizeOf_spec] at *
    omega

/-- The children of an element carry their numbers. -/
theorem getElem?_of_mem_zipIdx (among : (child, i) ∈ e.elements.zipIdx) :
    e.elements[i]? = some child ∧ sizeOf child < sizeOf e :=
  ⟨List.mk_mem_zipIdx_iff_getElem?.mp among, sizeOf_lt (List.fst_mem_of_mem_zipIdx among)⟩

theorem zipIdx_ordered (e : Element) : e.elements.zipIdx.Pairwise fun a b => a.2 < b.2 := by
  rw [← List.pairwise_map, List.zipIdx_map_snd]
  exact List.pairwise_lt_range'

theorem descendants_eq (e : Element) :
    e.descendants = e.elements.flatMap fun child => child :: child.descendants := by
  obtain ⟨tag, children⟩ := e
  change elementsOf children = (children.filterMap Node.element?).flatMap _
  induction children with
  | nil => rfl
  | cons node rest ih =>
    rw [elementsOf, ih]
    cases node <;> rfl

def ways (e : Element) : List Place :=
  e.elements.zipIdx.attach.flatMap fun ⟨(child, i), among⟩ =>
    have := (getElem?_of_mem_zipIdx among).2
    ([] :: child.ways).map (i :: ·)
termination_by sizeOf e

theorem ways_eq (e : Element) :
    e.ways = e.elements.zipIdx.flatMap fun (child, i) => ([] :: child.ways).map (i :: ·) := by
  rw [ways]
  refine (List.flatMap_subtype fun _ _ => rfl).trans ?_
  rw [List.unattach_attach]
  rfl

/-- The ways lead to the descendants, one by one. -/
theorem map_at?_ways (e : Element) : e.ways.map e.at? = e.descendants.map some := by
  rw [ways_eq, descendants_eq, ← List.zipIdx_map_fst 0 e.elements, List.flatMap_map, List.map_flatMap,
    List.map_flatMap, List.zipIdx_map_fst]
  refine List.flatMap_congr ?_
  rintro ⟨child, i⟩ among
  obtain ⟨stands, smaller⟩ := getElem?_of_mem_zipIdx among
  calc (([] :: child.ways).map (i :: ·)).map e.at?
      = ([] :: child.ways).map child.at? := by
        rw [List.map_map]
        exact List.map_congr_left fun way _ => at?_cons stands way
    _ = some child :: child.descendants.map some := by
        rw [List.map_cons, child.map_at?_ways]
        rfl
termination_by sizeOf e

theorem mem_ways {e : Element} {way : Place} : way ∈ e.ways ↔ way ≠ [] ∧ (e.at? way).isSome := by
  rw [ways_eq]
  constructor
  · intro member
    obtain ⟨⟨child, i⟩, among, written⟩ := List.mem_flatMap.mp member
    obtain ⟨rest, below, rfl⟩ := List.mem_map.mp written
    obtain ⟨stands, smaller⟩ := getElem?_of_mem_zipIdx among
    refine ⟨List.cons_ne_nil i rest, ?_⟩
    rw [at?_cons stands]
    obtain rfl | deeper := List.mem_cons.mp below
    · rfl
    · exact (child.mem_ways.mp deeper).2
  · rintro ⟨nonempty, found⟩
    obtain ⟨i, rest, rfl⟩ := List.exists_cons_of_ne_nil nonempty
    obtain ⟨target, reached⟩ := Option.isSome_iff_exists.mp found
    obtain ⟨child, stands, onward⟩ := Option.bind_eq_some_iff.mp reached
    have among := List.mk_mem_zipIdx_iff_getElem?.mpr stands
    have smaller := (getElem?_of_mem_zipIdx among).2
    refine List.mem_flatMap.mpr ⟨(child, i), among, List.mem_map_of_mem ?_⟩
    cases rest with
    | nil => exact List.mem_cons_self
    | cons j inner =>
      have deeper := child.mem_ways.mpr ⟨List.cons_ne_nil j inner, by rw [onward]; rfl⟩
      exact List.mem_cons_of_mem _ deeper
termination_by sizeOf e

theorem ways_ordered (e : Element) : e.ways.Pairwise (· < ·) := by
  rw [ways_eq, List.pairwise_flatMap]
  constructor
  case left =>
    rintro ⟨child, i⟩ among
    have smaller := (getElem?_of_mem_zipIdx among).2
    rw [List.pairwise_map, List.pairwise_cons]
    simp only [List.cons_lt_cons_self]
    refine ⟨fun way below => ?_, child.ways_ordered⟩
    obtain ⟨j, rest, rfl⟩ := List.exists_cons_of_ne_nil (mem_ways.mp below).1
    exact List.nil_lt_cons j rest
  case right =>
    refine e.zipIdx_ordered.imp fun earlier way here other there => ?_
    obtain ⟨_, -, rfl⟩ := List.mem_map.mp here
    obtain ⟨_, -, rfl⟩ := List.mem_map.mp there
    exact List.cons_lt_cons_iff.mpr (.inl earlier)
termination_by sizeOf e

end Element

namespace Axis

def ways : Axis → Element → List Place
  | .child, e => e.elements.zipIdx.map fun (_, i) => [i]
  | .descendant, e => e.ways

variable (axis : Axis) (c : Element)

theorem map_at?_ways : (axis.ways c).map c.at? = (axis.candidates c).map some := by
  cases axis with
  | child =>
    rw [ways, candidates, List.map_map]
    conv => rhs; rw [← List.zipIdx_map_fst 0 c.elements, List.map_map]
    refine List.map_congr_left ?_
    rintro ⟨e, i⟩ among
    exact Element.at?_cons (Element.getElem?_of_mem_zipIdx among).1 []
  | descendant => exact c.map_at?_ways

theorem mem_ways {way : Place} : way ∈ axis.ways c ↔ axis.Leads way ∧ (c.at? way).isSome := by
  cases axis with
  | child =>
    constructor
    · intro member
      obtain ⟨⟨child, i⟩, among, rfl⟩ := List.mem_map.mp member
      rw [Element.at?_cons (Element.getElem?_of_mem_zipIdx among).1]
      exact ⟨rfl, rfl⟩
    · rintro ⟨single, found⟩
      obtain ⟨i, rfl⟩ := List.length_eq_one_iff.mp single
      obtain ⟨target, reached⟩ := Option.isSome_iff_exists.mp found
      obtain ⟨child, stands, -⟩ := Option.bind_eq_some_iff.mp reached
      exact List.mem_map.mpr ⟨(child, i), List.mk_mem_zipIdx_iff_getElem?.mpr stands, rfl⟩
  | descendant => exact Element.mem_ways

theorem ways_ordered : (axis.ways c).Pairwise (· < ·) := by
  cases axis with
  | child =>
    rw [ways, List.pairwise_map]
    exact c.zipIdx_ordered.imp fun earlier => List.cons_lt_cons_iff.mpr (.inl earlier)
  | descendant => exact c.ways_ordered

end Axis

end RequestBook.Markup

import RequestBook.Proofs.Schedule

/-! What a failure to order a document reports. The labels belong to requests that read from one
another in a circle, and the circle has no shorter one inside: its requests are distinct until it
comes back to the first. -/
namespace RequestBook

/-- Places that lead back to the first one: each request reads from the next, and none comes twice
before the end. -/
structure Document.Circle (d : Document) (places : List Nat) : Prop where
  long : 2 ≤ places.length
  closed : places.head? = places.getLast?
  distinct : places.dropLast.Nodup
  linked : places.IsChain d.ReadsFrom

/-- Distinct requests, each reading from the next and the last one from the first, form a circle. -/
theorem Document.Circle.of_append {d : Document} {first last : Nat} {round : List Nat}
    (start : round.head? = some first) (stop : round.getLast? = some last) (distinct : round.Nodup)
    (linked : round.IsChain d.ReadsFrom) (back : d.ReadsFrom last first) :
    d.Circle (round ++ [first]) where
  long := by
    have inked : round ≠ [] := by
      rintro rfl
      cases start
    have := List.length_pos_iff.mpr inked
    rw [List.length_append, List.length_singleton]
    omega
  closed := by
    rw [List.head?_append, start, List.getLast?_concat]
    rfl
  distinct := by rwa [List.dropLast_concat]
  linked := by
    refine List.isChain_append.mpr ⟨linked, .singleton first, ?_⟩
    intro inner isLast outer isFirst
    rw [stop, Option.mem_some_iff] at isLast
    rw [List.head?_cons, Option.mem_some_iff] at isFirst
    exact isLast ▸ isFirst ▸ back

namespace Schedule

def onwards (stack : List Frame) (index : Nat) : List Nat :=
  (stack.map Frame.index).reverse.dropWhile (· != index)

theorem cycle_eq (d : Document) (stack : List Frame) (index : Nat) :
    cycle d stack index = (onwards stack index ++ [index]).map (labelAt d) := by
  rw [List.map_append, List.map_singleton]
  rfl

section Onwards

variable {d : Document} {fresh done : List Nat} {stack outer : List Frame} {frame : Frame} {index : Nat}

theorem onwards_suffix (stack : List Frame) (index : Nat) :
    onwards stack index <:+ (stack.map Frame.index).reverse :=
  List.dropWhile_suffix _

theorem head?_onwards (member : index ∈ stack.map Frame.index) :
    (onwards stack index).head? = some index := by
  have exists_kept : ((stack.map Frame.index).reverse.find? fun i => !(i != index)).isSome = true :=
    List.find?_isSome.mpr ⟨index, List.mem_reverse.mpr member, by simp⟩
  obtain ⟨i, found⟩ := Option.isSome_iff_exists.mp exists_kept
  have same := List.find?_some found
  rw [bne, Bool.not_not, beq_iff_eq] at same
  rw [onwards, ← List.find?_not_eq_head?_dropWhile, found, same]

theorem getLast?_onwards (member : index ∈ (frame :: outer).map Frame.index) :
    (onwards (frame :: outer) index).getLast? = some frame.index := by
  obtain ⟨before, whole⟩ := onwards_suffix (frame :: outer) index
  have last : (before ++ onwards (frame :: outer) index).getLast? = some frame.index := by
    rw [whole, List.getLast?_reverse]
    rfl
  have inked : onwards (frame :: outer) index ≠ [] := by
    intro none
    have start := head?_onwards member
    rw [none] at start
    cases start
  rwa [List.getLast?_append_of_ne_nil _ inked] at last

/-- The stack holds no request twice, and from the outside in each request reads from the next. -/
theorem Invariant.nodup_onwards {entering : Option Nat} (valid : Invariant d fresh entering stack done)
    (index : Nat) : (onwards stack index).Nodup := by
  have distinct : (stack.map Frame.index).Nodup :=
    (List.nodup_append.mp (List.nodup_append.mp valid.nodup).2.1).1
  exact (List.nodup_reverse.mpr distinct).sublist (onwards_suffix stack index).sublist

theorem Invariant.linked_onwards {entering : Option Nat} (valid : Invariant d fresh entering stack done)
    (index : Nat) : (onwards stack index).IsChain d.ReadsFrom := by
  have inward : (stack.map Frame.index).reverse.IsChain d.ReadsFrom := by
    rw [List.isChain_reverse, List.isChain_map]
    exact valid.linked
  exact inward.suffix (onwards_suffix stack index)

end Onwards

theorem labelAt_eq {d : Document} {index : Nat} (inside : index < d.requests.length) :
    d.requests[index]?.map Request.label = some (labelAt d index) := by
  simp [labelAt, inside]

/-- Where a circle is met, the reported labels are those of a circle. -/
theorem Met.circle {d : Document} {path : List String} (met : Met d path) :
    ∃ places, d.Circle places ∧
      places.map (fun index => d.requests[index]?.map Request.label) = path.map some := by
  obtain ⟨fresh, frame, outer, done, index, valid, reads, member, rfl⟩ := met
  refine ⟨onwards (frame :: outer) index ++ [index], ?_, ?_⟩
  · exact .of_append (head?_onwards member) (getLast?_onwards member) (valid.nodup_onwards index)
      (valid.linked_onwards index) reads
  · rw [cycle_eq, List.map_map]
    refine List.map_congr_left fun i inside => labelAt_eq ?_
    have stacked : i ∈ (frame :: outer).map Frame.index := by
      rcases List.mem_append.mp inside with onward | last
      · exact List.mem_reverse.mp ((onwards_suffix _ _).mem onward)
      · exact List.mem_singleton.mp last ▸ member
    have known : i ∈ fresh ++ ((frame :: outer).map Frame.index ++ done) :=
      List.mem_append_right _ (List.mem_append_left _ stacked)
    exact List.mem_range.mp (valid.indices.mem_iff.mp known)

end Schedule

/-- A document that cannot be ordered has requests that read from one another in a circle, and their
labels are reported in this order. -/
theorem Document.circle_of_order {d : Document} {path : List String}
    (failed : d.order = .error (.cycle path)) :
    ∃ places, d.Circle places ∧
      places.map (fun index => d.requests[index]?.map Request.label) = path.map some := by
  rcases d.order_cases with ⟨order, ended, _⟩ | ⟨path', failed', met⟩
  · rw [failed] at ended
    cases ended
  · rw [failed] at failed'
    cases failed'
    exact met.circle

def Document.entwined : Document :=
  { Document.empty "t.http" with requests := [
      { Request.ofLine "GET" "https://a.example.com/report" 1 with dependsOn := ["B"] },
      { Request.ofLine "GET" "https://a.example.com/a" 2 with name := some "a", dependsOn := ["b"] },
      { Request.ofLine "GET" "https://a.example.com/b" 3 with
        name := some "b", dependsOn := ["ghost", "A"] }] }

theorem Document.circle_of_order_entwined :
    Document.entwined.order = .error (.cycle ["b", "a", "b"]) ∧
    ∃ places, Document.entwined.Circle places ∧
      places.map (fun index => Document.entwined.requests[index]?.map Request.label) =
        [some "b", some "a", some "b"] := by
  have failed : Document.entwined.order = .error (.cycle ["b", "a", "b"]) := by cbv
  exact ⟨failed, Document.circle_of_order failed⟩

end RequestBook

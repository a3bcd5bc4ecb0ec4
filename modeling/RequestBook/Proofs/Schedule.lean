import Mathlib
import RequestBook.Schedule

/-! The order of execution against the relation of reading. The requests not entered yet, those on
the stack and those finished are always all requests, each once; a finished request comes after
everything it reads from. The walk therefore fails only at a circle, and without one it ends with an
order of all requests. -/
namespace RequestBook

/-- Request `i` reads from request `j`: one of the names it reads from is first had by `j`. -/
def Document.ReadsFrom (d : Document) (i j : Nat) : Prop :=
  ∃ r, d.requests[i]? = some r ∧ ∃ name ∈ r.dependsOn, d.indexOf? name = some j

namespace Schedule

theorem lookup_enter (places : List (String × Nat)) (r : Request) (index : Nat) (name : String) :
    (enter places (r, index)).lookup (foldName name) =
      (places.lookup (foldName name)).or (if r.isNamed name then some index else none) := by
  cases named : r.name with
  | none => simp [enter, Request.isNamed, named]
  | some own =>
    simp only [enter, Request.isNamed, named, Option.any_some, sameName, beq_iff_eq]
    by_cases same : foldName name = foldName own
    · rw [same]
      cases known : places.lookup (foldName own) <;> simp [known]
    · have other : (foldName name == foldName own) = false := by simpa using same
      split <;> simp [List.lookup_cons, other]

theorem lookup_foldl_enter (requests : List Request) (start : Nat) (places : List (String × Nat))
    (name : String) :
    ((requests.zipIdx start).foldl enter places).lookup (foldName name) =
      (places.lookup (foldName name)).or
        ((requests.findIdx? (·.isNamed name)).map (· + start)) := by
  induction requests generalizing start places with
  | nil => simp
  | cons r rest ih =>
    rw [List.zipIdx_cons, List.foldl_cons, ih, lookup_enter, List.findIdx?_cons, Option.or_assoc]
    by_cases named : r.isNamed name = true
    · simp [named]
    · cases rest.findIdx? (·.isNamed name) <;> simp [named, Nat.add_comm, Nat.add_left_comm]

/-- The table of names answers as a search through the document does. -/
theorem lookup_placesOf (d : Document) (name : String) :
    (placesOf d).lookup (foldName name) = d.indexOf? name := by
  rw [placesOf, lookup_foldl_enter]
  simp [Document.indexOf?]

theorem readsFrom_iff (d : Document) (i j : Nat) :
    d.ReadsFrom i j ↔ ∃ name ∈ namesAt d i, d.indexOf? name = some j := by
  unfold Document.ReadsFrom namesAt
  cases d.requests[i]? <;> simp

theorem indexOf?_lt {d : Document} {name : String} {index : Nat}
    (found : d.indexOf? name = some index) : index < d.requests.length :=
  (List.findIdx?_eq_some_iff_getElem.mp found).1

theorem readsFrom_lt {d : Document} {i j : Nat} (reads : d.ReadsFrom i j) :
    i < d.requests.length ∧ j < d.requests.length := by
  obtain ⟨r, atIndex, name, _, found⟩ := reads
  exact ⟨(List.getElem?_eq_some_iff.mp atIndex).1, indexOf?_lt found⟩

/-- Whatever a request on the stack reads from is still to be looked at, or finished, or the request
that was entered from it; for the first frame of the list that is `inner`. -/
def Settled (d : Document) (done : List Nat) : Option Nat → List Frame → Prop
  | _, [] => True
  | inner, frame :: outer =>
    (∀ j, d.ReadsFrom frame.index j →
      (∃ name ∈ frame.left, d.indexOf? name = some j) ∨ j ∈ done ∨ inner = some j) ∧
    Settled d done (some frame.index) outer

/-- Every request of the list comes after those it reads from, which are in the list. -/
def Closed (d : Document) (order : List Nat) : Prop :=
  ∀ before i after, order = before ++ i :: after → ∀ j, d.ReadsFrom i j → j ∈ before

/-- What holds between two steps. `entering` is the request that is about to be entered from the
innermost frame, if any. -/
structure Invariant (d : Document) (fresh : List Nat) (entering : Option Nat) (stack : List Frame)
    (done : List Nat) : Prop where
  indices : (fresh ++ (stack.map Frame.index ++ done)).Perm (List.range d.requests.length)
  left : ∀ frame ∈ stack, ∀ name ∈ frame.left, name ∈ namesAt d frame.index
  linked : stack.IsChain fun inner outer => d.ReadsFrom outer.index inner.index
  settled : Settled d done entering stack
  closed : Closed d done

theorem Settled.mono {d : Document} {done more : List Nat} {inner inner' : Option Nat}
    {stack : List Frame} (settled : Settled d done inner stack) (grown : ∀ j ∈ done, j ∈ more)
    (entered : ∀ j, inner = some j → j ∈ more ∨ inner' = some j) : Settled d more inner' stack := by
  induction stack generalizing inner inner' with
  | nil => trivial
  | cons frame outer ih =>
    refine ⟨fun j reads => ?_, ih settled.2 fun j same => .inr same⟩
    rcases settled.1 j reads with waiting | finished | inside
    · exact .inl waiting
    · exact .inr (.inl (grown j finished))
    · exact .inr (entered j inside)

/-- An element of a list with one more at its end is the new one, or it has a place in the list. -/
theorem concat_cases {α : Type} {front before after : List α} {last x : α}
    (split : front ++ [last] = before ++ x :: after) :
    (before = front ∧ x = last) ∨ ∃ middle, front = before ++ x :: middle := by
  rcases List.eq_nil_or_concat after with rfl | ⟨middle, other, rfl⟩
  · obtain ⟨rfl, same⟩ := List.append_inj' split rfl
    cases same
    exact .inl ⟨rfl, rfl⟩
  · have inside : front ++ [last] = (before ++ x :: middle) ++ [other] := by
      rw [split, List.concat_eq_append, List.append_assoc, List.cons_append]
    exact .inr ⟨middle, (List.append_inj' inside rfl).1⟩

theorem Closed.concat {d : Document} {order : List Nat} {i : Nat} (closed : Closed d order)
    (reads : ∀ j, d.ReadsFrom i j → j ∈ order) : Closed d (order ++ [i]) := by
  intro before k after split j edge
  rcases concat_cases split with ⟨rfl, rfl⟩ | ⟨middle, inside⟩
  · exact reads j edge
  · exact closed before k middle inside j edge

namespace Invariant

variable {d : Document} {fresh done : List Nat} {entering : Option Nat} {stack outer : List Frame}
  {index : Nat}

theorem start (d : Document) : Invariant d (List.range d.requests.length) none [] [] where
  indices := by simp
  left := by simp
  linked := .nil
  settled := trivial
  closed := by simp [Closed]

theorem nodup (valid : Invariant d fresh entering stack done) :
    (fresh ++ (stack.map Frame.index ++ done)).Nodup :=
  valid.indices.nodup_iff.mpr List.nodup_range

/-- A request all of whose names were looked at is finished. -/
theorem finish (valid : Invariant d fresh none (⟨index, []⟩ :: outer) done) :
    Invariant d fresh none outer (done ++ [index]) where
  indices := by
    refine List.Perm.trans ?_ valid.indices
    refine List.Perm.append_left fresh ?_
    rw [List.map_cons, List.cons_append, ← List.append_assoc]
    exact List.perm_append_singleton _ _
  left := fun frame member => valid.left frame (List.mem_cons_of_mem _ member)
  linked := valid.linked.tail
  settled := by
    refine valid.settled.2.mono (fun j member => List.mem_append_left _ member) ?_
    rintro j same
    cases same
    exact .inl (by simp)
  closed := by
    refine valid.closed.concat fun j reads => ?_
    rcases valid.settled.1 j reads with ⟨_, none, _⟩ | finished | inside
    · simp at none
    · exact finished
    · contradiction

/-- The next name has been looked at: no request has it, or one that is finished, or the one that is
entered next. -/
theorem skip {name : String} {left : List String}
    (valid : Invariant d fresh none (⟨index, name :: left⟩ :: outer) done)
    (known : ∀ j, d.indexOf? name = some j → j ∈ done ∨ entering = some j) :
    Invariant d fresh entering (⟨index, left⟩ :: outer) done where
  indices := valid.indices
  left := by
    intro frame member
    rcases List.mem_cons.mp member with rfl | member
    · exact fun n inside =>
        valid.left ⟨index, name :: left⟩ (by simp) n (List.mem_cons_of_mem _ inside)
    · exact valid.left frame (List.mem_cons_of_mem _ member)
  linked := by
    cases outer with
    | nil => exact .singleton _
    | cons frame outer =>
      have linked := List.isChain_cons_cons.mp valid.linked
      exact List.isChain_cons_cons.mpr linked
  settled := by
    refine ⟨fun j reads => ?_, valid.settled.2⟩
    rcases valid.settled.1 j reads with ⟨n, member, found⟩ | finished | inside
    · rcases List.mem_cons.mp member with rfl | member
      · exact .inr (known j found)
      · exact .inl ⟨n, member, found⟩
    · exact .inr (.inl finished)
    · contradiction
  closed := valid.closed

/-- A request not entered yet is entered from the innermost one on the stack. -/
theorem enter (valid : Invariant d fresh (some index) stack done) (unread : index ∈ fresh)
    (read : ∀ frame ∈ stack.head?, d.ReadsFrom frame.index index) :
    Invariant d (fresh.erase index) none (⟨index, namesAt d index⟩ :: stack) done where
  indices := by
    refine List.Perm.trans ?_ valid.indices
    rw [List.map_cons, List.cons_append]
    refine List.perm_middle.trans ?_
    rw [← List.cons_append]
    exact (List.perm_cons_erase unread).symm.append_right _
  left := by
    intro frame member
    rcases List.mem_cons.mp member with rfl | member
    · exact fun name inside => inside
    · exact valid.left frame member
  linked := by
    cases stack with
    | nil => exact .singleton _
    | cons frame outer => exact List.isChain_cons_cons.mpr ⟨read frame (by simp), valid.linked⟩
  settled := ⟨fun j reads => .inl ((readsFrom_iff d index j).mp reads), valid.settled⟩
  closed := valid.closed

/-- The request that the next name stands for is entered. -/
theorem follow {name : String} {left : List String} {dependency : Nat}
    (valid : Invariant d fresh none (⟨index, name :: left⟩ :: outer) done)
    (found : d.indexOf? name = some dependency) (unread : dependency ∈ fresh) :
    Invariant d (fresh.erase dependency) none
      (⟨dependency, namesAt d dependency⟩ :: ⟨index, left⟩ :: outer) done := by
  have named : name ∈ namesAt d index := valid.left ⟨index, name :: left⟩ (by simp) name (by simp)
  have looked : Invariant d fresh (some dependency) (⟨index, left⟩ :: outer) done :=
    valid.skip fun j same => .inr (found.symm.trans same)
  refine looked.enter unread ?_
  rintro frame member
  cases member
  exact (readsFrom_iff d index dependency).mpr ⟨name, named, found⟩

end Invariant

/-- The request at the top of the stack is reached from every request on the stack. -/
theorem Invariant.reaches {d : Document} {fresh done : List Nat} {frame : Frame}
    {outer : List Frame} (valid : Invariant d fresh none (frame :: outer) done) {i : Nat}
    (member : i ∈ (frame :: outer).map Frame.index) :
    Relation.ReflTransGen d.ReadsFrom i frame.index := by
  have linked := valid.linked
  clear valid
  induction outer generalizing frame with
  | nil =>
    rw [List.map_singleton, List.mem_singleton] at member
    exact member ▸ .refl
  | cons next outer ih =>
    obtain ⟨edge, rest⟩ := List.isChain_cons_cons.mp linked
    rcases List.mem_cons.mp member with rfl | deeper
    · exact .refl
    · exact (ih deeper rest).tail edge

/-- A circle was met: the innermost request reads from one on the stack, and the labels from there on
are reported. -/
def Met (d : Document) (path : List String) : Prop :=
  ∃ fresh frame outer done dependency, Invariant d fresh none (frame :: outer) done ∧
    d.ReadsFrom frame.index dependency ∧ dependency ∈ (frame :: outer).map Frame.index ∧
    path = cycle d (frame :: outer) dependency

/-- A walk ends with the invariant kept and nothing entered that was entered before, or it meets a
circle. -/
theorem walk_cases {d : Document} {fresh done : List Nat} {stack : List Frame}
    (valid : Invariant d fresh none stack done) :
    (∃ fresh' done', walk d (placesOf d) fresh stack done = .ok (fresh', done') ∧
      Invariant d fresh' none [] done' ∧ ∀ i ∈ fresh', i ∈ fresh) ∨
    ∃ path, walk d (placesOf d) fresh stack done = .error path ∧ Met d path := by
  fun_induction walk d (placesOf d) fresh stack done with
  | case1 fresh done => exact .inl ⟨fresh, done, rfl, valid, fun _ member => member⟩
  | case2 fresh done index outer ih => exact ih valid.finish
  | case3 fresh done index name left outer unknown ih =>
    rw [lookup_placesOf] at unknown
    exact ih (valid.skip (by simp [unknown]))
  | case4 fresh done index name left outer dependency found member ih =>
    rw [lookup_placesOf] at found
    rcases ih (valid.follow found member) with ⟨fresh', done', ended, after, kept⟩ | failed
    · exact .inl ⟨fresh', done', ended, after, fun i inside => List.mem_of_mem_erase (kept i inside)⟩
    · exact .inr failed
  | case5 fresh done index name left outer dependency found _ finished ih =>
    rw [lookup_placesOf] at found
    exact ih (valid.skip (by simp [found, finished]))
  | case6 fresh done index name left outer dependency found entered unfinished =>
    rw [lookup_placesOf] at found
    have named : name ∈ namesAt d index := valid.left ⟨index, name :: left⟩ (by simp) name (by simp)
    have reads : d.ReadsFrom index dependency := (readsFrom_iff d index dependency).mpr ⟨name, named, found⟩
    have member := valid.indices.mem_iff.mpr (List.mem_range.mpr (readsFrom_lt reads).2)
    simp only [List.mem_append, entered, unfinished, false_or, or_false] at member
    exact .inr ⟨_, rfl, fresh, ⟨index, name :: left⟩, outer, done, dependency, valid, reads, member, rfl⟩

/-- A request is walked from if no walk before has entered it. -/
theorem Invariant.begin {d : Document} {fresh done : List Nat} {index : Nat}
    (valid : Invariant d fresh none [] done) (unread : index ∈ fresh) :
    Invariant d (fresh.erase index) none [⟨index, namesAt d index⟩] done := by
  have ready : Invariant d fresh (some index) [] done :=
    ⟨valid.indices, valid.left, valid.linked, trivial, valid.closed⟩
  exact ready.enter unread (by simp)

/-- What is left when the first of the waiting requests has been entered waits behind it. -/
theorem Invariant.waiting_erase {d : Document} {fresh done rest : List Nat} {index : Nat}
    (valid : Invariant d fresh none [] done) (waiting : ∀ i ∈ fresh, i ∈ index :: rest) :
    ∀ i ∈ fresh.erase index, i ∈ rest := by
  intro i member
  have nodup : fresh.Nodup := (List.nodup_append.mp valid.nodup).1
  obtain ⟨other, inside⟩ := nodup.mem_erase_iff.mp member
  exact (List.mem_cons.mp (waiting i inside)).resolve_left other

theorem walkAll_cases {d : Document} {fresh done rest : List Nat}
    (valid : Invariant d fresh none [] done) (waiting : ∀ i ∈ fresh, i ∈ rest) :
    (∃ order, walkAll d (placesOf d) fresh done rest = .ok order ∧ Invariant d [] none [] order) ∨
    ∃ path, walkAll d (placesOf d) fresh done rest = .error path ∧ Met d path := by
  induction rest generalizing fresh done with
  | nil =>
    have empty : fresh = [] := List.eq_nil_iff_forall_not_mem.mpr fun i member => by
      simpa using waiting i member
    exact .inl ⟨done, rfl, empty ▸ valid⟩
  | cons index rest ih =>
    have later := valid.waiting_erase waiting
    rw [walkAll]
    by_cases unread : index ∈ fresh
    · rcases walk_cases (valid.begin unread) with ⟨fresh', done', ended, after, kept⟩ | ⟨path, failed, met⟩
      · simp only [unread, if_true, ended]
        exact ih after fun i member => later i (kept i member)
      · simp only [unread, if_true, failed]
        exact .inr ⟨path, rfl, met⟩
    · simp only [unread, if_false]
      rw [List.erase_of_not_mem unread] at later
      exact ih valid later

/-- In a closed order a request comes after what it reads from. -/
theorem Closed.idxOf_lt {d : Document} {order : List Nat} {i j : Nat} (closed : Closed d order)
    (member : i ∈ order) (reads : d.ReadsFrom i j) : order.idxOf j < order.idxOf i := by
  obtain ⟨before, after, rfl, first⟩ := List.eq_append_cons_of_mem member
  have earlier : j ∈ before := closed before i after rfl j reads
  rw [List.idxOf_append_of_mem earlier, List.idxOf_append_of_notMem first, List.idxOf_cons_self]
  exact List.idxOf_lt_length_of_mem earlier

end Schedule

open Schedule

theorem Document.order_cases (d : Document) :
    (∃ order, d.order = .ok order ∧ order.Perm (List.range d.requests.length) ∧ Closed d order) ∨
    ∃ path, d.order = .error (.cycle path) ∧ Met d path := by
  rcases walkAll_cases (.start d) fun _ member => member with ⟨order, ended, final⟩ | ⟨path, failed, met⟩
  · exact .inl ⟨order, by rw [Document.order, ended], by simpa using final.indices, final.closed⟩
  · exact .inr ⟨path, by rw [Document.order, failed], met⟩

theorem Document.order_ok {d : Document} {order : List Nat} (ended : d.order = .ok order) :
    order.Perm (List.range d.requests.length) ∧ Closed d order := by
  rcases d.order_cases with ⟨order', found, sound⟩ | ⟨path, failed, _⟩
  · rw [ended] at found
    cases found
    exact sound
  · rw [ended] at failed
    cases failed

/-- In an order that is found, every request comes after those it reads from. -/
theorem Document.idxOf_lt_of_order {d : Document} {order : List Nat} (ended : d.order = .ok order)
    {i j : Nat} (reads : d.ReadsFrom i j) : order.idxOf j < order.idxOf i := by
  obtain ⟨permuted, closed⟩ := Document.order_ok ended
  exact closed.idxOf_lt (permuted.mem_iff.mpr (List.mem_range.mpr (readsFrom_lt reads).1)) reads

/-- An order is found exactly when no request reads from itself through any number of others. It
has every request once, each after those it reads from. -/
theorem Document.order_exists_iff_acyclic (d : Document) :
    ((∃ order, d.order = .ok order) ↔ ∀ i, ¬ Relation.TransGen d.ReadsFrom i i) ∧
    ∀ order, d.order = .ok order → order.Perm (List.range d.requests.length) ∧
      ∀ i j, d.ReadsFrom i j → order.idxOf j < order.idxOf i := by
  refine ⟨⟨?_, ?_⟩, fun order ended =>
    ⟨(Document.order_ok ended).1, fun i j => Document.idxOf_lt_of_order ended⟩⟩
  · rintro ⟨order, ended⟩ i around
    have falls : ∀ j, Relation.TransGen d.ReadsFrom i j → order.idxOf j < order.idxOf i := by
      intro j path
      induction path with
      | single edge => exact Document.idxOf_lt_of_order ended edge
      | tail _ edge ih => exact (Document.idxOf_lt_of_order ended edge).trans ih
    exact (falls i around).false
  · intro acyclic
    rcases d.order_cases with ⟨order, ended, _⟩ | ⟨_, _, met⟩
    · exact ⟨order, ended⟩
    · obtain ⟨_, frame, _, _, dependency, valid, reads, member, _⟩ := met
      exact (acyclic dependency (.tail' (valid.reaches member) reads)).elim

def Document.chained : Document :=
  { Document.empty "t.http" with requests := [
      { Request.ofLine "GET" "https://a.example.com/me" 1 with dependsOn := ["Login"] },
      Request.ofLine "GET" "https://a.example.com/health" 2,
      { Request.ofLine "POST" "https://a.example.com/login" 3 with name := some "login" }] }

theorem Document.order_chained :
    Document.chained.order = .ok [2, 0, 1] ∧
    (∀ i, ¬ Relation.TransGen Document.chained.ReadsFrom i i) ∧
    Document.chained.ReadsFrom 0 2 ∧ [2, 0, 1].idxOf 2 < [2, 0, 1].idxOf 0 := by
  have ordered : Document.chained.order = .ok [2, 0, 1] := by cbv
  have reads : Document.chained.ReadsFrom 0 2 := ⟨_, rfl, "Login", by simp, by decide⟩
  obtain ⟨found, correct⟩ := Document.order_exists_iff_acyclic Document.chained
  exact ⟨ordered, found.mp ⟨_, ordered⟩, reads, (correct _ ordered).2 0 2 reads⟩

end RequestBook

import RequestBook.Document.Basic

/-! The order in which requests run. Each request comes after those it reads from, and otherwise the
order is that of the document. The walk is depth first with an explicit stack; it fails when it
meets a request that is still on the stack. -/
namespace RequestBook

namespace Schedule

/-- A request on the stack, with the names it reads from that were not looked at yet. -/
structure Frame where
  index : Nat
  left : List String

/-- Steps that the stack alone still allows. -/
def weight : List Frame → Nat
  | [] => 0
  | frame :: outer => frame.left.length + 1 + weight outer

def namesAt (d : Document) (index : Nat) : List String :=
  match d.requests[index]? with
  | some r => r.dependsOn
  | none => []

def labelAt (d : Document) (index : Nat) : String :=
  match d.requests[index]? with
  | some r => r.label
  | none => ""

/-- The labels along the stack from `index` to the innermost request, and back to `index`. -/
def cycle (d : Document) (stack : List Frame) (index : Nat) : List String :=
  let path := (stack.map Frame.index).reverse.dropWhile (· != index)
  path.map (labelAt d) ++ [labelAt d index]

/-- Enter a request under its name in lower case; an earlier request of that name keeps the name. -/
def enter (places : List (String × Nat)) (entry : Request × Nat) : List (String × Nat) :=
  match entry.1.name with
  | none => places
  | some name =>
    if (places.lookup (foldName name)).isSome then places
    else (foldName name, entry.2) :: places

def placesOf (d : Document) : List (String × Nat) := d.requests.zipIdx.foldl enter []

/-- Walk until the stack is empty. `fresh` holds the requests not entered yet, `stack` the entered
ones from the inside out, `done` the finished ones in order; an error holds the labels along a
cycle. -/
def walk (d : Document) (places : List (String × Nat)) (fresh : List Nat) (stack : List Frame)
    (done : List Nat) : Except (List String) (List Nat × List Nat) :=
  match stack with
  | [] => .ok (fresh, done)
  | ⟨index, []⟩ :: outer => walk d places fresh outer (done ++ [index])
  | ⟨index, name :: left⟩ :: outer =>
    match places.lookup (foldName name) with
    | none => walk d places fresh (⟨index, left⟩ :: outer) done
    | some dependency =>
      if dependency ∈ fresh then
        walk d places (fresh.erase dependency)
          (⟨dependency, namesAt d dependency⟩ :: ⟨index, left⟩ :: outer) done
      else if dependency ∈ done then walk d places fresh (⟨index, left⟩ :: outer) done
      else .error (cycle d (⟨index, left⟩ :: outer) dependency)
termination_by (fresh.length, weight stack)
decreasing_by
  · exact Prod.Lex.right _ (by simp [weight])
  · exact Prod.Lex.right _ (by simp [weight])
  · exact Prod.Lex.left _ _ (by
      have := List.length_erase_of_mem ‹_›
      have := List.length_pos_of_mem ‹_›
      omega)
  · exact Prod.Lex.right _ (by simp [weight])

def walkAll (d : Document) (places : List (String × Nat)) (fresh : List Nat) (done : List Nat) :
    List Nat → Except (List String) (List Nat)
  | [] => .ok done
  | index :: rest =>
    if index ∈ fresh then
      match walk d places (fresh.erase index) [⟨index, namesAt d index⟩] done with
      | .ok (fresh, done) => walkAll d places fresh done rest
      | .error path => .error path
    else walkAll d places fresh done rest

end Schedule

inductive OrderError where
  /-- labels of requests that read from one another in a circle; the first is also the last -/
  | cycle (path : List String)
  deriving DecidableEq, Repr

def OrderError.message : OrderError → String
  | .cycle path => "dependency cycle: " ++ String.intercalate " -> " path

/-- Indices of the requests, each after those it reads from. Names that no request has do not
matter. -/
def Document.order (d : Document) : Except OrderError (List Nat) :=
  let indices := List.range d.requests.length
  match Schedule.walkAll d (Schedule.placesOf d) indices [] indices with
  | .ok order => .ok order
  | .error path => .error (.cycle path)

end RequestBook

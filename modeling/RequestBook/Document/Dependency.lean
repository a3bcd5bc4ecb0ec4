import RequestBook.Document.Basic
import RequestBook.Template

/-! Which requests a request reads from: those it refers to in one of its own texts, and those that
a variable refers to which its texts lead to, however many values lie between. -/
namespace RequestBook.Document

def apartFrom (name : String) (entries : List (String × String)) : List (String × String) :=
  entries.filter fun entry => entry.1 != name

theorem length_apartFrom_lt {name : String} {entries : List (String × String)}
    {entry : String × String} (found : (entries.find? fun e => e.1 == name) = some entry) :
    (apartFrom name entries).length < entries.length := by
  refine Nat.lt_of_le_of_ne (List.length_filter_le _ _) fun same => ?_
  have kept := List.filter_eq_self.mp (List.filter_sublist.eq_of_length same) entry
    (List.mem_of_find?_eq_some found)
  have named := List.find?_some found
  simp_all

/-- `names` followed by the names that values refer to which are reached from the variables
`todo`, depth first. A value is entered once: `unread` holds the variables not entered yet. -/
def collectThrough (unread : List (String × String)) (todo : List String) (names : List String) :
    List String :=
  match todo with
  | [] => names
  | name :: rest =>
    match found : unread.find? fun entry => entry.1 == name with
    | none => collectThrough unread rest names
    | some (_, value) =>
      have := length_apartFrom_lt found
      collectThrough (apartFrom name unread) (variablesIn value.toList ++ rest)
        (Reference.collectNames names value.toList)
termination_by (unread.length, todo.length)

def dependencies (d : Document) (r : Request) : List String :=
  let texts := r.texts.map String.toList
  let direct := texts.foldl Reference.collectNames []
  collectThrough (d.scope r).entries (texts.flatMap variablesIn) direct

def link (d : Document) (r : Request) : Request :=
  let names := d.dependencies r
  { r with dependsOn := names, hasReferences := !names.isEmpty }

end RequestBook.Document

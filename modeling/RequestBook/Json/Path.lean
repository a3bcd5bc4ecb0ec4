import RequestBook.Json.Printer
import RequestBook.Json.Reader
import RequestBook.Text.Blank
import RequestBook.Text.Cut

/-! Extraction from JSON bodies. A path is a list of field names and indices, written with points
and brackets; following it step by step leads to at most one value. -/
namespace RequestBook.Json

inductive Segment where
  | field (name : String)
  | index (position : Nat)
  deriving DecidableEq, Repr

/-- The field that the characters collected since the last mark name, in reverse; none if there
are no such characters. -/
def pendingField (collected : List Char) : List Segment :=
  if collected.isEmpty then [] else [.field (String.ofList collected.reverse)]

/-- The segments of a path. A point ends a name, a bracket holds a decimal index with blanks
around it; an open bracket without its partner or without a number makes the path unreadable. -/
def readSegments (collected : List Char) (text : List Char) : Option (List Segment) :=
  match text with
  | [] => some (pendingField collected)
  | '.' :: rest => (readSegments [] rest).map (pendingField collected ++ ·)
  | '[' :: rest =>
    match cut : Text.cutAt? ']' rest with
    | none => none
    | some (inside, after) =>
      have := Text.length_of_cutAt? cut
      match Text.readNat? Text.unsignedLimit (Text.trim inside) with
      | none => none
      | some position =>
        (readSegments [] after).map fun more => pendingField collected ++ .index position :: more
  | c :: rest => readSegments (c :: collected) rest
termination_by text.length
decreasing_by all_goals simp only [List.length_cons]; omega

def path? (path : List Char) : Option (List Segment) :=
  let path := Text.trim path
  let path := (Text.dropStart? ['$'] path).getD path
  readSegments [] ((Text.dropStart? ['.'] path).getD path)

def step? (value : Json) : Segment → Option Json
  | .field name => value.field? name
  | .index position => value.item? position

def follow? (value : Json) (segments : List Segment) : Option Json := segments.foldlM step? value

def plainText : Json → List Char
  | .string s => s.toList
  | other => other.write

def extract? (body path : List Char) : Option (List Char) := do
  let value ← parse? body
  let target ← follow? value.sorted (← path? path)
  return target.plainText

end RequestBook.Json

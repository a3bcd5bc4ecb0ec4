import RequestBook.Decimal.Binary64

/-! JSON values. An object keeps its fields as they stand in the text; `Json.sorted` is the form in
which two objects with the same fields are equal: fields in the order of their names, the last of
several fields with one name. -/
namespace RequestBook

/-- Whole numbers that fit in 64 bits, with or without sign, are kept exactly; every other number
is a double. -/
inductive Number where
  | integer (n : Int)
  | double (x : Decimal.Binary64)
  deriving DecidableEq, Repr

inductive Json where
  | null
  | bool (b : Bool)
  | number (n : Number)
  | string (s : String)
  | array (items : List Json)
  | object (fields : List (String × Json))
  deriving Inhabited, Repr

namespace Json

def insertField (name : String) (value : Json) : List (String × Json) → List (String × Json)
  | [] => [(name, value)]
  | field :: rest =>
    if name = field.1 then (name, value) :: rest
    else if name < field.1 then (name, value) :: field :: rest
    else field :: insertField name value rest

def sortFields (fields : List (String × Json)) : List (String × Json) :=
  fields.foldl (fun sorted field => insertField field.1 field.2 sorted) []

mutual

/-- Fields sorted by name at every level. Names are ordered by code point, which is also the order
of their bytes. -/
def sorted : Json → Json
  | .array items => .array (sortedItems items)
  | .object fields => .object (sortFields (sortedFields fields))
  | other => other

def sortedItems : List Json → List Json
  | [] => []
  | item :: rest => sorted item :: sortedItems rest

def sortedFields : List (String × Json) → List (String × Json)
  | [] => []
  | (name, value) :: rest => (name, sorted value) :: sortedFields rest

end

/-- The last field with a given name. -/
def field? (name : String) : Json → Option Json
  | .object fields => (fields.reverse.find? fun field => field.1 == name).map Prod.snd
  | _ => none

def item? (index : Nat) : Json → Option Json
  | .array items => items[index]?
  | _ => none

end Json

end RequestBook

import RequestBook.Json.Token

/-! Reading JSON. The lexemes are fed one by one to a stack of open arrays and objects; the text is
a value when the last lexeme closes the last of them. At most 127 may be open at once. -/
namespace RequestBook.Json

/-- An open container with what it holds so far, in reverse. A pending name is the name of the
field whose value comes next. -/
inductive Frame where
  | array (items : List Json)
  | object (fields : List (String × Json)) (pending : Option String)

inductive Expect where
  /-- a value -/
  | value
  /-- a value, or the end of the array just opened -/
  | firstItem
  /-- the name of a field, or the end of the object just opened -/
  | firstName
  /-- the name of a field -/
  | name
  /-- the colon after a name -/
  | colon
  /-- a comma, or the end of the innermost container or of the text -/
  | next
  deriving DecidableEq, Repr

structure Progress where
  frames : List Frame
  expect : Expect
  result : Option Json

def Progress.start : Progress := ⟨[], .value, none⟩

def Progress.give (p : Progress) (value : Json) : Option Progress :=
  match p.frames with
  | [] => some ⟨[], .next, some value⟩
  | .array items :: rest => some ⟨.array (value :: items) :: rest, .next, none⟩
  | .object fields (some name) :: rest => some ⟨.object ((name, value) :: fields) none :: rest, .next, none⟩
  | .object _ none :: _ => none

/-- Containers that may be open at once. -/
def maxOpen : Nat := 127

def Progress.enter (p : Progress) (frame : Frame) (expect : Expect) : Option Progress :=
  if p.frames.length < maxOpen then some ⟨frame :: p.frames, expect, none⟩ else none

def Progress.acceptsValue (p : Progress) : Bool := p.expect == .value || p.expect == .firstItem

def Progress.feed (p : Progress) : Token → Option Progress
  | .scalar value =>
    if p.acceptsValue then p.give value
    else match p.expect, value, p.frames with
      | .name, .string s, .object fields _ :: rest => some ⟨.object fields (some s) :: rest, .colon, none⟩
      | .firstName, .string s, .object fields _ :: rest =>
        some ⟨.object fields (some s) :: rest, .colon, none⟩
      | _, _, _ => none
  | .openArray => if p.acceptsValue then p.enter (.array []) .firstItem else none
  | .openObject => if p.acceptsValue then p.enter (.object [] none) .firstName else none
  | .closeArray =>
    match p.expect, p.frames with
    | .firstItem, .array items :: rest => Progress.give ⟨rest, .value, none⟩ (.array items.reverse)
    | .next, .array items :: rest => Progress.give ⟨rest, .value, none⟩ (.array items.reverse)
    | _, _ => none
  | .closeObject =>
    match p.expect, p.frames with
    | .firstName, .object fields none :: rest => Progress.give ⟨rest, .value, none⟩ (.object fields.reverse)
    | .next, .object fields none :: rest => Progress.give ⟨rest, .value, none⟩ (.object fields.reverse)
    | _, _ => none
  | .comma =>
    match p.expect, p.frames with
    | .next, .array _ :: _ => some { p with expect := .value }
    | .next, .object _ _ :: _ => some { p with expect := .name }
    | _, _ => none
  | .colon => if p.expect = .colon then some { p with expect := .value } else none

def Progress.run (p : Progress) : List Token → Option Json
  | [] => if p.frames.isEmpty then p.result else none
  | token :: rest =>
    match p.feed token with
    | some q => q.run rest
    | none => none

def parse? (text : List Char) : Option Json := do
  Progress.start.run (← tokens text)

end RequestBook.Json

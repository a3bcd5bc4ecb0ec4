import RequestBook.Placeholder.Group
import RequestBook.Roster
import RequestBook.Text.Blank
import RequestBook.Text.Cut
import RequestBook.Text.Identifier
import RequestBook.Text.Utf8

/-! References to captured exchanges, such as a group with `login.response.body.$.token` inside:
the name of a request, the side and the part of its exchange, and a path into that part. -/
namespace RequestBook

inductive Side where
  | response
  | request
  deriving DecidableEq, Repr

inductive Part where
  | body
  | headers
  deriving DecidableEq, Repr

structure Reference where
  name : String
  side : Side
  part : Part
  path : String
  deriving DecidableEq, Repr

def Side.read (text : List Char) : Option (Side × List Char) :=
  match Text.dropStart? "response.".toList text with
  | some rest => some (.response, rest)
  | none => (Text.dropStart? "request.".toList text).map fun rest => (.request, rest)

def Part.read (text : List Char) : Option (Part × List Char) :=
  match Text.dropStart? "body.".toList text with
  | some rest => some (.body, rest)
  | none => (Text.dropStart? "headers.".toList text).map fun rest => (.headers, rest)

namespace Reference

/-- The reference that the inside of a group spells. Blanks may stand before the name; the path is
what is left, without the blanks around it. -/
def ofInner? (inner : List Char) : Option Reference := do
  let (name, rest) ← Text.readIdentifier Text.requestMarks (Text.trimStart inner)
  let rest ← Text.dropStart? ['.'] rest
  let (side, rest) ← Side.read rest
  let (part, raw) ← Part.read rest
  if raw.isEmpty then none
  else some ⟨String.ofList name, side, part, String.ofList (Text.trim raw)⟩

def parse? (text : List Char) : Option Reference :=
  match pieces (Text.trim text) with
  | [.group inner] => ofInner? inner
  | _ => none

/-- The references among pieces that start at a byte offset, each with the bytes from its first to
behind its last. -/
def locate (offset : Nat) : List Piece → List ((Nat × Nat) × Reference)
  | [] => []
  | piece :: rest =>
    let stop := offset + Text.byteLength piece.text
    let found := match piece with
      | .group inner => (ofInner? inner).map fun r => ((offset, stop), r)
      | .char _ => none
    found.toList ++ locate stop rest

def findAll (text : List Char) : List ((Nat × Nat) × Reference) := locate 0 (pieces text)

def replaceAll (change : Reference → List Char → List Char) (text : List Char) : List Char :=
  replaceGroups (fun inner => (ofInner? inner).map fun r => change r (groupText inner)) text

/-- Add a name to names that differ in more than case, unless it is among them. -/
def addName (names : List String) (name : String) : List String :=
  if names.any (sameName name) then names else names ++ [name]

def collectNames (names : List String) (text : List Char) : List String :=
  ((findAll text).map fun found => found.2.name).foldl addName names

end Reference

end RequestBook

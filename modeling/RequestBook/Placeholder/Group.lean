import RequestBook.Text.Cut

/-! Texts with placeholders. A group is a pair of opening braces, a text without braces, and a pair
of closing braces. No two groups of a text overlap, so every text falls into groups and single
characters in one way only. -/
namespace RequestBook

inductive Piece where
  | char (c : Char)
  | group (inner : List Char)
  deriving DecidableEq, Repr

def isBrace (c : Char) : Bool := c == '{' || c == '}'

def groupText (inner : List Char) : List Char := '{' :: '{' :: (inner ++ ['}', '}'])

def Piece.text : Piece → List Char
  | .char c => [c]
  | .group inner => groupText inner

def groupInner? (text : List Char) : Option (List Char × List Char) :=
  match text.dropWhile fun c => !isBrace c with
  | '}' :: '}' :: after => some (text.takeWhile fun c => !isBrace c, after)
  | _ => none

theorem length_of_groupInner? {text inner after : List Char}
    (found : groupInner? text = some (inner, after)) : after.length < text.length := by
  simp only [groupInner?] at found
  split at found
  next rest =>
    cases found
    have := Text.length_of_dropWhile rest
    simp only [List.length_cons] at this
    omega
  next => contradiction

/-- The groups of a text and the characters between them. -/
def pieces (text : List Char) : List Piece :=
  match text with
  | [] => []
  | '{' :: '{' :: rest =>
    match found : groupInner? rest with
    | some (inner, after) =>
      have := length_of_groupInner? found
      .group inner :: pieces after
    | none => .char '{' :: pieces ('{' :: rest)
  | c :: rest => .char c :: pieces rest
termination_by text.length

def Piece.replace (change : List Char → Option (List Char)) : Piece → List Char
  | .char c => [c]
  | .group inner => (change inner).getD (groupText inner)

/-- The text with every group for which `change` has a result replaced by it. -/
def replaceGroups (change : List Char → Option (List Char)) (text : List Char) : List Char :=
  (pieces text).flatMap (Piece.replace change)

/-- The same where `change` is told which piece of the text a group is. -/
def replaceGroupsAt (change : Nat → List Char → Option (List Char)) (text : List Char) : List Char :=
  ((pieces text).mapIdx fun i piece => piece.replace (change i)).flatten

def hasOpening : List Char → Bool
  | '{' :: '{' :: _ => true
  | _ :: rest => hasOpening rest
  | [] => false

end RequestBook

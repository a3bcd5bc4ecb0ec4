import RequestBook.Markup.Event
import RequestBook.Text.Blank

/-! The element tree of an XML text. White space between tags is layout and left out; white space
next to other character data belongs to it. -/
namespace RequestBook.Markup

inductive Node where
  | text (content : List Char)
  | element (tag : Tag) (children : List Node)
  deriving Repr

structure Element where
  tag : Tag
  children : List Node
  deriving Repr

mutual

def Node.elements : Node → List Element
  | .text _ => []
  | .element tag children => ⟨tag, children⟩ :: elementsOf children

def elementsOf : List Node → List Element
  | [] => []
  | node :: rest => node.elements ++ elementsOf rest

end

mutual

def Node.textContent : Node → List Char
  | .text content => content
  | .element _ children => textOf children

def textOf : List Node → List Char
  | [] => []
  | node :: rest => node.textContent ++ textOf rest

end

def Node.element? : Node → Option Element
  | .text _ => none
  | .element tag children => some ⟨tag, children⟩

def Node.ownText : Node → List Char
  | .text content => content
  | .element _ _ => []

namespace Element

def elements (e : Element) : List Element := e.children.filterMap Node.element?

/-- The elements at any depth below, in document order. -/
def descendants (e : Element) : List Element := elementsOf e.children

def textContent (e : Element) : List Char := textOf e.children

def ownText (e : Element) : List Char := e.children.flatMap Node.ownText

end Element

def numericReference? (digits : List Char) : Option Char :=
  let code := match digits with
    | 'x' :: hex => if hex.isEmpty then none else Text.natOfHex? hex
    | _ => if digits.isEmpty || !digits.all Text.isAsciiDigit then none else some (Text.natOfDigits digits)
  code.bind fun n =>
    if n ≠ 0 ∧ (n < 0xD800 ∨ (0xDFFF < n ∧ n < 0x110000)) then some (Char.ofNat n) else none

def resolveReference? (name : List Char) : Option Char :=
  match name with
  | '#' :: digits => numericReference? digits
  | _ =>
    if name = "amp".toList then some '&'
    else if name = "lt".toList then some '<'
    else if name = "gt".toList then some '>'
    else if name = "quot".toList then some '"'
    else if name = "apos".toList then some '\''
    else none

/-- An element whose closing tag has not come yet, its children so far in reverse. -/
structure Unclosed where
  tag : Tag
  children : List Node

/-- A tree under construction: the innermost unclosed element, those around it from the inside
out, and white space that is layout unless character data follows. The outermost one stands for the
document. -/
structure Building where
  inner : Unclosed
  outer : List Unclosed
  held : List Char

def Building.start : Building := ⟨⟨⟨"", []⟩, []⟩, [], []⟩

def maxOpen : Nat := 128

def Unclosed.add (u : Unclosed) (node : Node) : Unclosed := { u with children := node :: u.children }

def Building.addText (b : Building) (content : List Char) : Building :=
  { b with inner := b.inner.add (.text (b.held ++ content)), held := [] }

def Building.feed (b : Building) : Event → Option Building
  | .start tag =>
    if b.outer.length < maxOpen then some ⟨⟨tag, []⟩, b.inner :: b.outer, []⟩ else none
  | .empty tag => some { b with inner := b.inner.add (.element tag []), held := [] }
  | .finish name =>
    match b.outer with
    | [] => none
    | parent :: outer =>
      if b.inner.tag.name = name then
        some ⟨parent.add (.element b.inner.tag b.inner.children.reverse), outer, []⟩
      else none
  | .text content =>
    if Text.allBlank content then some { b with held := b.held ++ content }
    else some (b.addText content)
  | .reference name =>
    match resolveReference? name with
    | some c => some (b.addText [c])
    | none => some b
  | .cdata content => some (b.addText content)
  | .aside => some b

def Building.run (b : Building) : List Event → Option Building
  | [] => some b
  | event :: rest =>
    match b.feed event with
    | some next => next.run rest
    | none => none

/-- The document that the pieces make up, as an element without a name. The tags must nest, no more
than 128 elements may be open at once, and there must be an element. -/
def document? (events : List Event) : Option Element :=
  match Building.start.run events with
  | some ⟨document, [], _⟩ =>
    let root : Element := ⟨document.tag, document.children.reverse⟩
    if root.elements.isEmpty then none else some root
  | _ => none

def parse? (text : List Char) : Option Element := (events? text).bind document?

end RequestBook.Markup

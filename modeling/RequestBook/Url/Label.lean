import RequestBook.Text.Composition
import RequestBook.Text.Digit
import RequestBook.Url.LabelTable

/-! What the labels of a domain name are checked for: no mark at the beginning, joiners only where
they join something, and one direction of writing. -/
namespace RequestBook.Url

inductive Direction where
  | leftToRight
  | rightToLeft
  | europeanNumber
  | arabicNumber
  | mark
  | neutral
  deriving DecidableEq, Repr

def direction (c : Char) : Direction :=
  if Text.isAsciiLetter c then .leftToRight
  else if Text.isAsciiDigit c then .europeanNumber
  else if Text.isAscii c then .neutral
  else if Text.inRanges rightToLeftRanges c then .rightToLeft
  else if Text.inRanges arabicNumberRanges c then .arabicNumber
  else if Text.inRanges europeanNumberRanges c then .europeanNumber
  else if Text.isCloseMark c then
    (if Text.inRanges directedMarkRanges c then .leftToRight else .mark)
  else if Text.inRanges neutralRanges c then .neutral
  else .leftToRight

def isRightToLeft (c : Char) : Bool :=
  direction c == .rightToLeft || direction c == .arabicNumber

/-- Whether a label may stand in a name with right-to-left letters or digits: it has one direction
from its first character to its last, marks apart. -/
def hasOneDirection (label : List Char) : Bool :=
  let directions := label.map direction
  let last := (directions.reverse.dropWhile (· == .mark)).head?
  match directions.head? with
  | none => true
  | some .leftToRight =>
    directions.all (fun d => d != .rightToLeft && d != .arabicNumber) &&
      (last == some .leftToRight || last == some .europeanNumber)
  | some .rightToLeft =>
    directions.all (· != .leftToRight) &&
      (last == some .rightToLeft || last == some .europeanNumber || last == some .arabicNumber) &&
      !(directions.contains .europeanNumber && directions.contains .arabicNumber)
  | some _ => false

/-- The combining class of the marks that suppress a vowel; a joiner may follow them. -/
def viramaClass : Nat := 9

def isTransparent (c : Char) : Bool := Text.isCloseMark c || c.toNat == 0x1E94B

/-- Whether every joiner of a label joins something, given the characters before the rest in
reverse. A joiner follows a virama; a non-joiner may also stand between letters that join. -/
def joinersFit (before : List Char) : List Char → Bool
  | [] => true
  | c :: rest =>
    let afterVirama := before.head?.any fun d => Text.combiningClass d == viramaClass
    let betweenJoining :=
      (before.dropWhile isTransparent).head?.any (Text.inRanges joinsNextRanges) &&
        (rest.dropWhile isTransparent).head?.any (Text.inRanges joinsPreviousRanges)
    let fits :=
      if c.toNat = 0x200D then afterVirama
      else if c.toNat = 0x200C then afterVirama || betweenJoining
      else true
    fits && joinersFit (c :: before) rest

def isValidLabel (label : List Char) : Bool := !(label.head?.any Text.isMark) && joinersFit [] label

end RequestBook.Url

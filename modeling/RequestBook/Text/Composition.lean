import RequestBook.Text.Case
import RequestBook.Text.CompositionTable
import RequestBook.Text.MarkTable

/-! The canonical composed form of a text. Every character is taken apart, the marks behind a letter
are put in the order of their classes, and what composes is put together again; so texts that
differ only in how their marks are spelled have the same form. -/
namespace RequestBook.Text

def isCloseMark (c : Char) : Bool := inRanges closeMarkRanges c

def isMark (c : Char) : Bool := isCloseMark c || inRanges spacingMarkRanges c

/-- Marks of different classes on one letter do not touch, so their order says nothing. Letters
have the class zero, and no mark stands below U+0300. -/
def combiningClass (c : Char) : Nat :=
  if c.toNat < 0x300 then 0
  else ((combiningClasses.find? fun (_, ranges) => inRanges ranges c).map Prod.fst).getD 0

def rowItem? (rows : List (Nat × List α)) (n : Nat) : Option α :=
  rows.findSome? fun (first, items) => if first ≤ n then items[n - first]? else none

structure Composite where
  base : Char
  mark : Char
  whole : Char

def Composite.ofText (mark : Char) : List Char → List Composite
  | base :: whole :: rest => ⟨base, mark, whole⟩ :: ofText mark rest
  | _ => []

def Composite.ofRows (rows : List (Nat × String)) : List Composite :=
  rows.flatMap fun (mark, text) => ofText (Char.ofNat mark) text.toList

def composed : List Composite := Composite.ofRows composedRows

def divisible : List Composite := composed ++ Composite.ofRows dividedRows

def aliases : List (Nat × List Char) := aliasRows.map fun (first, text) => (first, text.toList)

/-- The two parts of a Hangul syllable: a syllable without an ending and the ending, or a beginning
and a vowel. There are 28 endings, counting none, to a vowel and 21 vowels to a beginning. -/
def splitSyllable? (c : Char) : Option (Char × Char) :=
  let n := c.toNat - 0xAC00
  if c.toNat < 0xAC00 || 0xD7A3 < c.toNat then none
  else if n % 28 = 0 then some (Char.ofNat (0x1100 + n / 588), Char.ofNat (0x1161 + n / 28 % 21))
  else some (Char.ofNat (c.toNat - n % 28), Char.ofNat (0x11A7 + n % 28))

def joinSyllable? (base mark : Char) : Option Char :=
  let b := base.toNat
  let m := mark.toNat
  if 0x1100 ≤ b && b ≤ 0x1112 && 0x1161 ≤ m && m ≤ 0x1175 then
    some (Char.ofNat (0xAC00 + 588 * (b - 0x1100) + 28 * (m - 0x1161)))
  else if 0xAC00 ≤ b && b ≤ 0xD7A3 && (b - 0xAC00) % 28 == 0 && 0x11A8 ≤ m && m ≤ 0x11C2 then
    some (Char.ofNat (b + (m - 0x11A7)))
  else none

def divide (c : Char) : List Char :=
  if c.toNat < 0xC0 then [c]
  else match splitSyllable? c with
    | some (base, mark) => [base, mark]
    | none =>
      match divisible.find? (·.whole == c) with
      | some composite => [composite.base, composite.mark]
      | none => [(rowItem? aliases c.toNat).getD c]

/-- A base is divided at most twice more, and a mark never. -/
def decompose (c : Char) : List Char := ((divide c).flatMap divide).flatMap divide

def join? (base mark : Char) : Option Char :=
  if mark.toNat < 0x300 then none
  else match joinSyllable? base mark with
    | some syllable => some syllable
    | none => (composed.find? fun c => c.base == base && c.mark == mark).map Composite.whole

def place (c : Char) : List Char → List Char
  | [] => [c]
  | d :: rest =>
    if 0 < combiningClass d && combiningClass d < combiningClass c then d :: place c rest
    else c :: d :: rest

/-- Put the marks behind every letter in the order of their classes; marks of one class stay in
the order they had. -/
def arrange (text : List Char) : List Char := text.foldr place []

/-- Compose a letter with the marks behind it that are not shut off from it, given those that
stayed, the last one first. A mark is shut off by one of its own class or a higher one. -/
def composeFrom (letter : Char) (stayed : List Char) : List Char → List Char
  | [] => letter :: stayed.reverse
  | c :: rest =>
    let isShutOff := stayed.head?.any fun mark => combiningClass c ≤ combiningClass mark
    match if isShutOff then none else join? letter c with
    | some whole => composeFrom whole stayed rest
    | none =>
      if combiningClass c = 0 then letter :: (stayed.reverse ++ composeFrom c [] rest)
      else composeFrom letter (c :: stayed) rest

def compose : List Char → List Char
  | [] => []
  | c :: rest => composeFrom c [] rest

def composedForm (text : List Char) : List Char := compose (arrange (text.flatMap decompose))

end RequestBook.Text

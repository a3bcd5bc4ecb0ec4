import RequestBook.Text.Cut
import RequestBook.Text.Utf8
import RequestBook.Url.DomainTable
import RequestBook.Url.Label
import RequestBook.Url.Punycode

/-! Domain names. A name is brought to its common form, in which letters are lower case, characters
that stand for others are replaced and marks are composed; then its labels are checked. -/
namespace RequestBook.Url

def isForbidden (c : Char) : Bool := c.toNat ≤ 0x20 || c.toNat == 0x7F || "%#/:<>?@[\\]^|".toList.contains c

def plainForms : List (Nat × List Char) := plainRows.map fun (first, text) => (first, text.toList)

def listedForm? (c : Char) : Option (List Char) :=
  if Text.isAscii c then none
  else match Text.rowItem? plainForms c.toNat with
    | some form => some [form]
    | none => (Text.rowItem? longRows c.toNat).map String.toList

/-- What a character stands for: what the tables say of it, or of each of its parts; a part that
they do not list stands for its lower case. -/
def foldChar (c : Char) : List Char :=
  (listedForm? c).getD
    ((Text.decompose c).flatMap fun part => (listedForm? part).getD (Text.lowerChar part))

def domainChar? (c : Char) : Option (List Char) :=
  if Text.inRanges disallowedRanges c then none
  else if Text.inRanges ignoredRanges c then some []
  else some (foldChar c)

def commonForm? (text : List Char) : Option (List Char) :=
  (text.mapM domainChar?).map fun parts => Text.composedForm parts.flatten

def labelLimit : Nat := 1000

def spellingLimit : Nat := 2000

/-- A label with the characters that a marked one spells. They are in their common form, and not
all of them ASCII. -/
def decodeLabel? (label : List Char) : Option (List Char) :=
  match Text.dropStart? "xn--".toList label with
  | none => if label.all Text.isAscii || label.length ≤ labelLimit then some label else none
  | some text =>
    if text.all Text.isAscii && text.length ≤ spellingLimit then
      match Punycode.decode? text with
      | some decoded =>
        if !(decoded.all Text.isAscii) && commonForm? decoded == some decoded then some decoded
        else none
      | none => none
    else none

def domain? (name : List Char) : Option (List Char) := do
  let name ← commonForm? name
  let labels ← (Text.splitAll '.' name).mapM decodeLabel?
  if !(name.any isForbidden) && labels.all isValidLabel &&
      (!(labels.any (·.any isRightToLeft)) || labels.all hasOneDirection)
  then some name else none

def percentDecode : List Char → Text.Bytes
  | [] => []
  | '%' :: a :: b :: rest =>
    match Text.hexValue? a, Text.hexValue? b with
    | some high, some low => (UInt8.ofNat (16 * high + low)) :: percentDecode rest
    | _, _ => 0x25 :: percentDecode (a :: b :: rest)
  | c :: rest => String.utf8EncodeChar c ++ percentDecode rest

end RequestBook.Url

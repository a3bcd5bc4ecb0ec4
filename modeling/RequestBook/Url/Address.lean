import RequestBook.Text.Cut
import RequestBook.Text.Digit

/-! Numeric hosts. A host whose last label is a number has to be an IPv4 address; a host in brackets
has to be an IPv6 address. -/
namespace RequestBook.Url

def ipv4Number? (part : List Char) : Option Nat :=
  let isOctal (c : Char) : Bool := '0' ≤ c && c ≤ '7'
  match part with
  | [] => none
  | '0' :: 'x' :: hex => Text.natOfHex? hex
  | '0' :: 'X' :: hex => Text.natOfHex? hex
  | ['0'] => some 0
  | '0' :: octal =>
    if octal.all isOctal then some (octal.foldl (fun n c => 8 * n + (c.toNat - 48)) 0) else none
  | digits => if digits.all Text.isAsciiDigit then some (Text.natOfDigits digits) else none

def labels (host : List Char) : List (List Char) :=
  let parts := Text.splitAll '.' host
  if 1 < parts.length ∧ parts.getLast? = some [] then parts.dropLast else parts

def endsInNumber (host : List Char) : Bool :=
  match (labels host).getLast? with
  | none => false
  | some last => (!last.isEmpty && last.all Text.isAsciiDigit) || (ipv4Number? last).isSome

/-- Up to four numbers: all but the last fit in a byte, the last fills the bytes left over. -/
def isIpv4 (host : List Char) : Bool :=
  match (labels host).mapM ipv4Number? with
  | none => false
  | some numbers =>
    numbers.length ≤ 4 && numbers.dropLast.all (· ≤ 255) &&
      numbers.getLast?.any fun last => last < Nat.pow 256 (5 - numbers.length)

def isIpv4Tail (text : List Char) : Bool :=
  let parts := Text.splitAll '.' text
  parts.length == 4 && parts.all fun part =>
    !part.isEmpty && part.all Text.isAsciiDigit && (part.length == 1 || part.head? != some '0') &&
      Text.natOfDigits part ≤ 255

/-- The rest of an IPv6 address behind `count` groups; `elided` tells whether the double colon has
been met, which stands for at least one group. -/
def isIpv6From (count : Nat) (elided : Bool) (text : List Char) : Bool :=
  match text with
  | [] => elided || count == 8
  | ':' :: rest => count < 8 && !elided && isIpv6From (count + 1) true rest
  | c :: rest =>
    let digits := (c :: rest.take 3).takeWhile fun d => (Text.hexValue? d).isSome
    count < 8 && !digits.isEmpty &&
      match (c :: rest).drop digits.length with
      | [] => elided || count + 1 == 8
      | ':' :: [] => false
      | ':' :: _ => isIpv6From (count + 1) elided (rest.drop digits.length)
      | '.' :: _ => count ≤ 6 && isIpv4Tail (c :: rest) && (elided || count == 6)
      | _ => false
termination_by text.length
decreasing_by
  · exact Nat.lt_succ_self _
  · simp only [List.length_drop, List.length_cons]; omega

def isIpv6 (text : List Char) : Bool :=
  match text with
  | ':' :: ':' :: rest => isIpv6From 1 true rest
  | ':' :: _ => false
  | [_] => false
  | [] => false
  | _ => isIpv6From 0 false text

end RequestBook.Url

import RequestBook.Url.Address
import RequestBook.Url.Domain

/-! Whether a text is an absolute address, and of which scheme. Only scheme, host and port can make
an address invalid; what follows them is free. -/
namespace RequestBook

inductive UrlError where
  | emptyHost
  | invalidPort
  | invalidIpv4
  | invalidIpv6
  | invalidDomain
  | invalidHostCharacter
  | relative
  deriving DecidableEq, Repr

def UrlError.message : UrlError → String
  | .emptyHost => "empty host"
  | .invalidPort => "invalid port number"
  | .invalidIpv4 => "invalid IPv4 address"
  | .invalidIpv6 => "invalid IPv6 address"
  | .invalidDomain => "invalid international domain name"
  | .invalidHostCharacter => "invalid domain character"
  | .relative => "relative URL without a base"

namespace Url

def readScheme (text : List Char) : Option (List Char × List Char) :=
  let isInner (c : Char) : Bool :=
    Text.isAsciiLetter c || Text.isAsciiDigit c || c == '+' || c == '-' || c == '.'
  match text.dropWhile isInner with
  | ':' :: rest =>
    if text.head?.any Text.isAsciiLetter then some (Text.lowerAscii (text.takeWhile isInner), rest)
    else none
  | _ => none

/-- Schemes whose addresses always name a host. -/
def isSpecial (scheme : List Char) : Bool :=
  ["http", "https", "ws", "wss", "ftp"].any fun s => s.toList == scheme

def endsAuthority (special : Bool) (c : Char) : Bool :=
  c == '/' || c == '?' || c == '#' || (special && c == '\\')

def splitUser (authority : List Char) : Option (List Char) × List Char :=
  if authority.contains '@' then
    let host := (authority.reverse.takeWhile (· != '@')).reverse
    (some (authority.take (authority.length - host.length - 1)), host)
  else (none, authority)

/-- The host of an authority and what follows it; a colon inside brackets belongs to the host. -/
def splitHost (bracketed : Bool) : List Char → List Char × List Char
  | [] => ([], [])
  | c :: rest =>
    if c = ':' ∧ !bracketed then ([], c :: rest)
    else
      let bracketed := if c = '[' then true else if c = ']' then false else bracketed
      let (host, after) := splitHost bracketed rest
      (c :: host, after)

def checkBracketed (host : List Char) : Except UrlError Unit :=
  match Text.dropEnd? [']'] (host.drop 1) with
  | some inside => if isIpv6 inside then .ok () else .error .invalidIpv6
  | none => .error .invalidIpv6

def checkHost (host : List Char) : Except UrlError Unit :=
  if host.head? = some '[' then checkBracketed host
  else match (Text.decode? (percentDecode host)).bind domain? with
    | none => .error .invalidDomain
    | some [] => .error .emptyHost
    | some name => if endsInNumber name && !isIpv4 name then .error .invalidIpv4 else .ok ()

def checkOpaqueHost (host : List Char) : Except UrlError Unit :=
  if host.head? = some '[' then checkBracketed host
  else if host.any fun c => c.toNat = 0 || " #/:<>?@[\\]^|".toList.contains c then
    .error .invalidHostCharacter
  else .ok ()

def checkPort (port : List Char) : Except UrlError Unit :=
  match port with
  | ':' :: rest =>
    let digits := rest.takeWhile (· != '\\')
    if digits.all Text.isAsciiDigit && Text.natOfDigits digits < 0x10000 then .ok ()
    else .error .invalidPort
  | _ => .ok ()

def checkAuthority (special : Bool) (text : List Char) : Except UrlError Unit := do
  let authority := text.takeWhile fun c => !endsAuthority special c
  let isLast := authority.length = text.length
  let (user, rest) := splitUser authority
  if user = some [] ∧ rest.isEmpty ∧ !isLast then throw .emptyHost
  let (host, port) := splitHost false rest
  if host.isEmpty then
    if special || !port.isEmpty || user.any fun u => u != [] && u != [':'] then throw .emptyHost
  if special then checkHost host else checkOpaqueHost host
  checkPort port

def isDriveLetter (host : List Char) : Bool :=
  match host with
  | [letter, mark] => Text.isAsciiLetter letter && (mark == ':' || mark == '|')
  | _ => false

/-- An address of a file has a host only behind two slashes. -/
def checkFile (text : List Char) : Except UrlError Unit :=
  let isSlash (c : Char) : Bool := c == '/' || c == '\\'
  match text with
  | a :: b :: rest =>
    let host := rest.takeWhile fun c => !endsAuthority true c
    if !(isSlash a && isSlash b) || host.isEmpty || isDriveLetter host then .ok () else checkHost host
  | _ => .ok ()

/-- The text that counts: without controls and spaces around it, and without tabs and line ends. -/
def normalText (text : List Char) : List Char :=
  let isOuter (c : Char) : Bool := c.toNat ≤ 0x20
  ((text.dropWhile isOuter).reverse.dropWhile isOuter).reverse.filter fun c =>
    c != '\t' && c != '\n' && c != '\r'

def scheme (text : List Char) : Except UrlError (List Char) := do
  let some (scheme, rest) := readScheme (normalText text) | throw .relative
  if scheme = "file".toList then checkFile rest
  else if isSpecial scheme then
    checkAuthority true (rest.dropWhile fun c => c == '/' || c == '\\')
  else if let some authority := Text.dropStart? "//".toList rest then checkAuthority false authority
  return scheme

end Url

end RequestBook

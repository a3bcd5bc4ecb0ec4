import RequestBook.Document.Method
import RequestBook.Text.Cut
import RequestBook.Text.Identifier

/-! What a line of a request book can be. Before the request line of a block a line is one of
`LineKind`, in the header section one of `HeaderLine`; a separator ends a block wherever it
stands. -/
namespace RequestBook

inductive LineKind where
  | blank
  | separator (title : Option String)
  | declaration (name value : String)
  /-- starts with an at sign but declares nothing -/
  | malformedDeclaration
  | nameDirective (name : String)
  | comment (text : String)
  | requestLine (method url : String) (version : Option String)
  /-- starts with an accepted method but is no request line -/
  | malformedRequestLine (token : String)
  | other
  deriving DecidableEq, Repr

inductive HeaderLine where
  /-- a line with blanks in front, continuing the header before it -/
  | continuation (text : String)
  | field (name value : String)
  | comment
  | missingColon
  | emptyName
  deriving DecidableEq, Repr

namespace Line

open Text

def separatorTitle? (line : List Char) : Option (Option String) :=
  (dropStart? "###".toList (trim line)).map fun rest =>
    let title := trim (rest.dropWhile (· == '#'))
    if title.isEmpty then none else some (String.ofList title)

/-- The column of the first character that is not blank, counted from one. -/
def firstColumn (line : List Char) : Nat := (line.takeWhile isBlank).length + 1

def isComment (line : List Char) : Bool :=
  (dropStart? ['#'] line).isSome || (dropStart? ['/', '/'] line).isSome

/-- The name and the value that a line declares, given what follows the at sign. The value has no
blanks around it and no line feed in it. -/
def readVariable (text : List Char) : Option (List Char × List Char) := do
  let (name, rest) ← readIdentifier variableMarks text
  let value ← dropStart? ['='] (trimStart rest)
  let value := trim value
  if value.contains '\n' then none else some (name, value)

def commentText (line : List Char) : List Char :=
  match dropStart? ['/', '/'] line with
  | some rest => rest
  | none => (dropStart? ['#'] line).getD line

def readDirective (text : List Char) : Option (List Char) := do
  let rest ← dropStart? "@name".toList (trimStart text)
  let (name, rest) ← match rest with
    | c :: _ => if isBlank c then readIdentifier requestMarks (trimStart rest) else none
    | [] => none
  if allBlank rest then some name else none

/-- What follows the closing braces of a placeholder, given the text behind its opening ones. The
inside holds no closing brace. -/
def placeholderInner? (text : List Char) : Option (List Char × List Char) :=
  match text.dropWhile (· != '}') with
  | '}' :: '}' :: after => some (text.takeWhile (· != '}'), after)
  | _ => none

theorem length_of_placeholderInner? {text inner after : List Char}
    (found : placeholderInner? text = some (inner, after)) : after.length < text.length := by
  simp only [placeholderInner?] at found
  split at found
  next rest =>
    cases found
    have := length_of_dropWhile rest
    simp only [List.length_cons] at this
    omega
  next => contradiction

/-- The first placeholder or other character of a target, and what follows it. A placeholder may hold
blanks; no other character of a target is blank. -/
def targetHead? : List Char → Option (List Char × List Char)
  | [] => none
  | '{' :: '{' :: rest =>
    match placeholderInner? rest with
    | some (inner, after) => some ('{' :: '{' :: inner ++ ['}', '}'], after)
    | none => some (['{'], '{' :: rest)
  | c :: rest => if isBlank c then none else some ([c], rest)

theorem length_of_targetHead? {text head after : List Char}
    (found : targetHead? text = some (head, after)) : after.length < text.length := by
  unfold targetHead? at found
  split at found
  · cases found
  · split at found
    next inside =>
      cases found
      have := length_of_placeholderInner? inside
      simp only [List.length_cons]
      omega
    next =>
      cases found
      simp
  · split at found
    · cases found
    · cases found
      simp

def readTarget (text : List Char) : List Char × List Char :=
  match found : targetHead? text with
  | none => ([], text)
  | some (head, after) =>
    have := length_of_targetHead? found
    let (target, behind) := readTarget after
    (head ++ target, behind)
termination_by text.length

def isVersion (text : List Char) : Bool :=
  match dropStart? "HTTP/".toList text with
  | none => false
  | some rest =>
    !(rest.takeWhile isDigit).isEmpty &&
      match rest.dropWhile isDigit with
      | [] => true
      | '.' :: minor => !minor.isEmpty && minor.all isDigit
      | _ => false

def readVersion (text : List Char) : Option (Option String) :=
  match text with
  | [] => some none
  | c :: _ =>
    let version := trimStart text
    if isBlank c && isVersion version then some (some (String.ofList version)) else none

def readAddress (line : List Char) : Option (List Char × Option String) := do
  let start ← ["http://", "https://"].find? fun s => (dropStart? s.toList line).isSome
  let rest ← dropStart? start.toList line
  let (target, behind) := readTarget rest
  let version ← readVersion behind
  return (start.toList ++ target, version)

def readRequestLine (line : List Char) : Option (List Char × List Char × Option String) := do
  let token := line.takeWhile isAsciiLetter
  let rest := line.dropWhile isAsciiLetter
  let (target, behind) := readTarget (trimStart rest)
  if token.isEmpty || !(rest.head?.any isBlank) || target.isEmpty then none
  else
    let version ← readVersion behind
    return (token, target, version)

/-- What a line that is neither blank nor separator, declaration or comment asks for. A web
address alone is fetched. -/
def classifyRequest (table : MethodTable) (line : List Char) : LineKind :=
  match readAddress line with
  | some (url, version) => .requestLine Method.get.name (String.ofList url) version
  | none =>
    match readRequestLine line with
    | some (token, url, version) =>
      .requestLine (upperToken (String.ofList token)) (String.ofList url) version
    | none =>
      let token := String.ofList (line.takeWhile isAsciiLetter)
      if !token.isEmpty && table.contains token then .malformedRequestLine (upperToken token)
      else .other

def classify (table : MethodTable) (line : List Char) : LineKind :=
  let line := trim line
  match separatorTitle? line, line with
  | some title, _ => .separator title
  | none, [] => .blank
  | none, '@' :: rest =>
    match readVariable rest with
    | some (name, value) => .declaration (String.ofList name) (String.ofList value)
    | none => .malformedDeclaration
  | none, _ =>
    if isComment line then
      match readDirective (commentText line) with
      | some name => .nameDirective (String.ofList name)
      | none => .comment (String.ofList (trim (commentText line)))
    else classifyRequest table line

def classifyHeader (line : List Char) : HeaderLine :=
  if line.head?.any isBlank then .continuation (String.ofList (trim line))
  else
    let line := trim line
    if isComment line then .comment
    else match cutAt? ':' line with
      | none => .missingColon
      | some (name, value) =>
        let name := trim name
        if name.isEmpty then .emptyName
        else .field (String.ofList name) (String.ofList (trim value))

end Line

end RequestBook

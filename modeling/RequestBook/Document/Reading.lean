import RequestBook.Document.Dependency
import RequestBook.Document.Line

/-! Reading a request book line by line. A block runs from one separator to the next: first
declarations, comments and the request line, then headers up to a blank line, then the body. A line
that makes no sense where it stands is reported and passed over. -/
namespace RequestBook

structure Preamble where
  name : Option String
  title : Option String
  comments : List String
  bindings : Variables

def Preamble.titled (title : Option String) : Preamble := ⟨none, title, [], .empty⟩

structure NumberedLine where
  number : Nat
  text : List Char
  deriving DecidableEq, Repr

def NumberedLine.isBlank (line : NumberedLine) : Bool := Text.allBlank line.text

/-- Where in a block the next line stands. The header section remembers the header that a
continuation would continue; the body keeps its lines in order. -/
inductive Phase where
  | preamble (p : Preamble)
  | headers (request : Request) (last : Option String)
  | body (request : Request) (lines : List NumberedLine)

structure Reading where
  document : Document
  phase : Phase

namespace Reading

def start (path : String) : Reading := ⟨.empty path, .preamble (.titled none)⟩

def report (r : Reading) (problem : Problem) (line : NumberedLine) : Reading :=
  let diagnostic := Diagnostic.ofProblem problem line.number (Line.firstColumn line.text)
  { r with document.diagnostics := r.document.diagnostics ++ [diagnostic] }

/-- The path of a body line that refers to a file: an angle bracket, then a blank or a path that
starts in this or the parent directory. -/
def fileReference? (line : List Char) : Option String :=
  match Text.trimStart line with
  | '<' :: rest =>
    let path := Text.trim rest
    if (rest.head?.any Text.isBlank || (Text.dropStart? "./".toList rest).isSome ||
        (Text.dropStart? "../".toList rest).isSome) && !path.isEmpty
    then some (String.ofList path) else none
  | _ => none

def withoutTrailingBlanks (lines : List NumberedLine) : List NumberedLine :=
  (lines.reverse.dropWhile NumberedLine.isBlank).reverse

/-- The body that lines make up, with the problem and the line to report. If the first line that is
not blank refers to a file, the lines behind it are dropped; otherwise the lines are the body, blank
ones at the beginning included. -/
def bodyOf (lines : List NumberedLine) : Option Body × Option (Problem × NumberedLine) :=
  let lines := withoutTrailingBlanks lines
  match lines.dropWhile NumberedLine.isBlank with
  | [] => (none, none)
  | first :: rest =>
    match fileReference? first.text with
    | some path =>
      (some (.file path),
        rest.head?.map fun dropped => (.linesAfterFile rest.length path first.number, dropped))
    | none =>
      (some (.inline (String.ofList (Text.joinWith ['\n'] (lines.map NumberedLine.text)))), none)

def add (r : Reading) (request : Request) : Reading :=
  { r with document.requests := r.document.requests ++ [r.document.link request] }

def close (r : Reading) : Reading :=
  match r.phase with
  | .preamble _ => r
  | .headers request _ => r.add request
  | .body request lines =>
    let (body, finding) := bodyOf lines
    let r := match finding with
      | some (problem, line) => r.report problem line
      | none => r
    r.add { request with body := body }

def openRequest (r : Reading) (table : MethodTable) (p : Preamble) (line : NumberedLine)
    (method url : String) (version : Option String) : Reading :=
  let r := if table.contains method then r else r.report (.unknownMethod method) line
  let request := { Request.ofLine method url line.number with
    version := version, name := p.name, title := p.title, comments := p.comments
    bindings := p.bindings }
  { r with phase := .headers request none }

/-- A declaration belongs to the file as long as no request has been read, and to the block's
request afterwards. -/
def declare (r : Reading) (p : Preamble) (name value : String) : Reading :=
  if r.document.requests.isEmpty then
    { r with document.bindings := r.document.bindings.insert name value }
  else { r with phase := .preamble { p with bindings := p.bindings.insert name value } }

def readPreamble (r : Reading) (table : MethodTable) (p : Preamble) (line : NumberedLine) : Reading :=
  match Line.classify table line.text with
  | .blank => r
  | .other => r
  | .separator _ => r
  | .declaration name value => r.declare p name value
  | .malformedDeclaration =>
    r.report (.malformedDeclaration (String.ofList (Text.trim line.text))) line
  | .nameDirective name => { r with phase := .preamble { p with name := some name } }
  | .comment text => { r with phase := .preamble { p with comments := p.comments ++ [text] } }
  | .requestLine method url version => r.openRequest table p line method url version
  | .malformedRequestLine token => r.report (.malformedRequestLine token) line

def continued (more value : String) : String := if more.isEmpty then value else value ++ " " ++ more

def readHeader (r : Reading) (request : Request) (last : Option String) (line : NumberedLine) : Reading :=
  if line.isBlank then { r with phase := .body request [] }
  else match Line.classifyHeader line.text, last with
    | .field name value, _ =>
      { r with phase := .headers { request with headers := request.headers.insert name value } (some name) }
    | .continuation more, some name =>
      { r with phase := .headers { request with headers := request.headers.modify name (continued more) } last }
    | .continuation _, none => r.report .strayContinuation line
    | .comment, _ => r
    | .missingColon, _ => r.report (.missingColon (String.ofList (Text.trim line.text))) line
    | .emptyName, _ => r.report (.emptyHeaderName (String.ofList (Text.trim line.text))) line

def read (table : MethodTable) (r : Reading) (line : NumberedLine) : Reading :=
  match Line.separatorTitle? line.text with
  | some title => { r.close with phase := .preamble (.titled title) }
  | none =>
    match r.phase with
    | .preamble p => r.readPreamble table p line
    | .headers request last => r.readHeader request last line
    | .body request lines => { r with phase := .body request (lines ++ [line]) }

end Reading

def numberLines (lines : List (List Char)) : List NumberedLine :=
  lines.mapIdx fun index text => ⟨index + 1, text⟩

def Document.read (table : MethodTable) (path : String) (content : String) : Document :=
  ((numberLines (Text.lines content.toList)).foldl (Reading.read table) (.start path)).close.document

inductive ReadError where
  | emptyPath
  deriving DecidableEq, Repr

def ReadError.message : ReadError → String
  | .emptyPath => "file path must not be empty"

/-- The request book that a text holds; it must have a path. -/
def Document.parse (table : MethodTable) (path content : String) : Except ReadError Document :=
  if path.isEmpty then .error .emptyPath else .ok (.read table path content)

end RequestBook

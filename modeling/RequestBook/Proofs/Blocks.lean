import Mathlib.Data.List.DropRight
import RequestBook.Document.Reading

/-! Reading by blocks. The separators cut the lines of a document into blocks, and every block is
read on its own: its first request line opens its only request, the lines before it describe the
request, the lines behind it up to a blank one are headers, and the rest is the body. Only one thing
passes from block to block, namely whether a request came before. Reading line by line gives the
document that is read block by block. -/
namespace RequestBook

/-- What stands between two separators, and the title of the first of them. -/
structure Block where
  title : Option String
  lines : List NumberedLine

namespace Block

def isSeparator (line : NumberedLine) : Bool := (Line.separatorTitle? line.text).isSome

def split (title : Option String) (lines : List NumberedLine) : List Block :=
  List.zipWith Block.mk (title :: lines.filterMap fun line => Line.separatorTitle? line.text)
    (lines.splitOnP isSeparator)

def requestLine? (table : MethodTable) (line : NumberedLine) :
    Option (String × String × Option String) :=
  match Line.classify table line.text with
  | .requestLine method url version => some (method, url, version)
  | _ => none

def declaration? (table : MethodTable) (line : NumberedLine) : Option (String × String) :=
  match Line.classify table line.text with
  | .declaration name value => some (name, value)
  | _ => none

def directive? (table : MethodTable) (line : NumberedLine) : Option String :=
  match Line.classify table line.text with
  | .nameDirective name => some name
  | _ => none

def comment? (table : MethodTable) (line : NumberedLine) : Option String :=
  match Line.classify table line.text with
  | .comment text => some text
  | _ => none

def preambleProblem? (table : MethodTable) (line : NumberedLine) : Option Problem :=
  match Line.classify table line.text with
  | .malformedDeclaration => some (.malformedDeclaration (String.ofList (Text.trim line.text)))
  | .malformedRequestLine token => some (.malformedRequestLine token)
  | _ => none

def field? (line : NumberedLine) : Option (String × String) :=
  match Line.classifyHeader line.text with
  | .field name value => some (name, value)
  | _ => none

def continuation? (line : NumberedLine) : Option String :=
  match Line.classifyHeader line.text with
  | .continuation text => some text
  | _ => none

/-- What is wrong with a header line; a continuation is wrong where no field came before. -/
def headerProblem? (afterField : Bool) (line : NumberedLine) : Option Problem :=
  match Line.classifyHeader line.text with
  | .missingColon => some (.missingColon (String.ofList (Text.trim line.text)))
  | .emptyName => some (.emptyHeaderName (String.ofList (Text.trim line.text)))
  | .continuation _ => if afterField then none else some .strayContinuation
  | _ => none

def beforeField (lines : List NumberedLine) : List NumberedLine :=
  lines.takeWhile fun line => (field? line).isNone

def continued (value : String) (texts : List String) : String :=
  texts.foldl (fun text more => text ++ " " ++ more) value

def fields : List NumberedLine → List (String × String)
  | [] => []
  | line :: rest =>
    match field? line with
    | some (name, value) =>
      (name, continued value ((beforeField rest).filterMap continuation?)) :: fields rest
    | none => fields rest

def findingsOf (problem? : NumberedLine → Option Problem) (lines : List NumberedLine) :
    List (Problem × NumberedLine) :=
  lines.filterMap fun line => (problem? line).map (·, line)

def headerFindings (lines : List NumberedLine) : List (Problem × NumberedLine) :=
  findingsOf (headerProblem? false) (beforeField lines) ++
    findingsOf (headerProblem? true) (lines.dropWhile fun line => (field? line).isNone)

def payload (lines : List NumberedLine) : List NumberedLine := lines.rdropWhile NumberedLine.isBlank

/-- The path of the file that holds the body, if the first line that is not blank refers to one; with
the number of that line. -/
def bodyFile? (lines : List NumberedLine) : Option (String × Nat) :=
  (lines.find? fun line => !line.isBlank).bind fun first =>
    (Reading.fileReference? first.text).map fun path => (path, first.number)

/-- No body if all lines are blank; else the file that is referred to, or the lines as they stand. -/
def body? (lines : List NumberedLine) : Option Body :=
  if lines.all NumberedLine.isBlank then none
  else match bodyFile? lines with
    | some (path, _) => some (.file path)
    | none => some (.inline (String.ofList
        (List.intercalate ['\n'] ((payload lines).map NumberedLine.text))))

/-- The lines behind a reference to a file are reported at the first of them. -/
def bodyFinding? (lines : List NumberedLine) : Option (Problem × NumberedLine) :=
  (bodyFile? lines).bind fun (path, number) =>
    let dropped := ((payload lines).dropWhile NumberedLine.isBlank).tail
    dropped.head?.map fun line => (.linesAfterFile dropped.length path number, line)

section Parts

variable (table : MethodTable) (b : Block)

/-- The lines before the request line, or all lines if there is none. -/
def preamble : List NumberedLine := b.lines.takeWhile fun line => (requestLine? table line).isNone

def opening? : Option (NumberedLine × String × String × Option String) :=
  b.lines.findSome? fun line => (requestLine? table line).map (line, ·)

def behind : List NumberedLine :=
  (b.lines.dropWhile fun line => (requestLine? table line).isNone).tail

def headerLines : List NumberedLine := (b.behind table).takeWhile fun line => !line.isBlank

def bodyLines : List NumberedLine := ((b.behind table).dropWhile fun line => !line.isBlank).tail

def declarations : List (String × String) := (b.preamble table).filterMap (declaration? table)

def request? (own : Variables) : Option Request :=
  (b.opening? table).map fun (line, method, url, version) =>
    { method := method
      url := url
      version := version
      name := ((b.preamble table).filterMap (directive? table)).getLast?
      title := b.title
      line := line.number
      comments := (b.preamble table).filterMap (comment? table)
      headers := .ofList (fields (b.headerLines table))
      body := body? (b.bodyLines table)
      bindings := own
      dependsOn := []
      hasReferences := false }

def unknownMethod? : Option (Problem × NumberedLine) :=
  (b.opening? table).bind fun (line, method, _) =>
    if table.contains method then none else some (.unknownMethod method, line)

def findings : List (Problem × NumberedLine) :=
  findingsOf (preambleProblem? table) (b.preamble table) ++
    ((b.unknownMethod? table).toList ++
      (headerFindings (b.headerLines table) ++ (bodyFinding? (b.bodyLines table)).toList))

end Parts

def diagnostic (finding : Problem × NumberedLine) : Diagnostic :=
  .ofProblem finding.1 finding.2.number (Line.firstColumn finding.2.text)

end Block

/-- The document that blocks make up. Declarations up to the first request line belong to the file,
later ones to the request of their block. -/
def Document.ofBlocks (table : MethodTable) (path : String) (blocks : List Block) : Document :=
  let silent := blocks.takeWhile fun b => (b.opening? table).isNone
  let rest := blocks.dropWhile fun b => (b.opening? table).isNone
  let file : Document :=
    { Document.empty path with
      bindings := .ofList ((silent ++ rest.take 1).flatMap fun b => b.declarations table) }
  let first := (rest.take 1).filterMap fun b => b.request? table .empty
  let later := (rest.drop 1).filterMap fun b => b.request? table (.ofList (b.declarations table))
  { file with
    requests := (first ++ later).map file.link
    diagnostics := blocks.flatMap fun b => (b.findings table).map Block.diagnostic }

end RequestBook

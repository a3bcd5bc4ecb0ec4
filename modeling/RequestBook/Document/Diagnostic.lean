import RequestBook.Text.Digit

/-! Findings about the lines of a request book. Every finding has a cause, and the cause decides
its code, its severity and its wording. -/
namespace RequestBook

inductive Severity where
  | error
  | warning
  deriving DecidableEq, Repr

def Severity.text : Severity → String
  | .error => "error"
  | .warning => "warning"

inductive Code where
  | requestLine
  | header
  | variableDeclaration
  | body
  | unknownMethod
  deriving DecidableEq, Repr

def Code.text : Code → String
  | .requestLine => "request-line-error"
  | .header => "header-error"
  | .variableDeclaration => "variable-error"
  | .body => "body-warning"
  | .unknownMethod => "unknown-method"

def Code.severity : Code → Severity
  | .requestLine => .error
  | .header => .error
  | .variableDeclaration => .error
  | .body => .warning
  | .unknownMethod => .warning

/-- What can be wrong with a line. The texts are those of the line without blanks around them. -/
inductive Problem where
  | malformedDeclaration (text : String)
  | malformedRequestLine (token : String)
  | unknownMethod (method : String)
  | strayContinuation
  | missingColon (text : String)
  | emptyHeaderName (text : String)
  /-- body lines behind a file reference that stands on the given line -/
  | linesAfterFile (count : Nat) (path : String) (line : Nat)
  deriving DecidableEq, Repr

namespace Problem

def code : Problem → Code
  | .malformedDeclaration _ => .variableDeclaration
  | .malformedRequestLine _ => .requestLine
  | .unknownMethod _ => .unknownMethod
  | .strayContinuation => .header
  | .missingColon _ => .header
  | .emptyHeaderName _ => .header
  | .linesAfterFile _ _ _ => .body

def number (n : Nat) : String := String.ofList (Text.natText n)

def message : Problem → String
  | .malformedDeclaration text =>
    "Invalid variable declaration '" ++ text ++ "'. Expected format: '@name = value'"
  | .malformedRequestLine token =>
    "Invalid request line starting with '" ++ token ++
      "'. Expected format: 'METHOD URL [HTTP/VERSION]'"
  | .unknownMethod method => "Unknown HTTP method '" ++ method ++ "'"
  | .strayContinuation => "Header continuation line without a preceding header"
  | .missingColon text =>
    "Invalid header format '" ++ text ++ "'. Expected format: 'Header-Name: value'"
  | .emptyHeaderName text => "Header name is empty in '" ++ text ++ "'"
  | .linesAfterFile count path line =>
    number count ++ " body line(s) after file reference '" ++ path ++ "' (line " ++ number line ++
      ") are ignored"

end Problem

/-- A finding at a line and a column, both counted from one. -/
structure Diagnostic where
  code : Code
  severity : Severity
  message : String
  line : Nat
  column : Nat
  deriving DecidableEq, Repr

namespace Diagnostic

def ofProblem (problem : Problem) (line column : Nat) : Diagnostic :=
  ⟨problem.code, problem.code.severity, problem.message, line, column⟩

def isError (d : Diagnostic) : Bool := d.severity == .error

def text (d : Diagnostic) : String :=
  Problem.number d.line ++ ":" ++ Problem.number d.column ++ ": " ++ d.severity.text ++ " [" ++
    d.code.text ++ "]: " ++ d.message

end Diagnostic

end RequestBook

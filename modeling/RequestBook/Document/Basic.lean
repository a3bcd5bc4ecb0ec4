import RequestBook.Document.Diagnostic
import RequestBook.Document.Method

/-! Request books: file variables and requests in the order of the text, with what was found wrong.
All texts are kept as written; placeholders are resolved when a request is prepared. -/
namespace RequestBook

inductive Body where
  | inline (text : String)
  | file (path : String)
  deriving DecidableEq, Repr

def Body.text : Body → String
  | .inline text => text
  | .file path => path

def Body.map (change : String → String) : Body → Body
  | .inline text => .inline (change text)
  | .file path => .file (change path)

structure Request where
  method : String
  url : String
  version : Option String
  name : Option String
  /-- the title of the separator before the request -/
  title : Option String
  /-- the line of the request line, counted from one -/
  line : Nat
  comments : List String
  headers : Headers
  body : Option Body
  bindings : Variables
  /-- names of the requests whose exchanges this one reads, each once -/
  dependsOn : List String
  hasReferences : Bool
  deriving DecidableEq

namespace Request

def ofLine (method url : String) (line : Nat) : Request where
  method := method
  url := url
  version := none
  name := none
  title := none
  line := line
  comments := []
  headers := .empty
  body := none
  bindings := .empty
  dependsOn := []
  hasReferences := false

def knownMethod? (r : Request) : Option Method := Method.ofToken? r.method

def contentType? (r : Request) : Option String := r.headers.get? "content-type"

def inlineBody? (r : Request) : Option String :=
  match r.body with
  | some (.inline text) => some text
  | _ => none

def bodyFile? (r : Request) : Option String :=
  match r.body with
  | some (.file path) => some path
  | _ => none

def isNamed (r : Request) (name : String) : Bool := r.name.any (sameName name)

def readsFrom (r : Request) (name : String) : Bool := r.dependsOn.any (sameName name)

def label (r : Request) : String :=
  match r.name, r.title with
  | some name, _ => name
  | none, some title => title
  | none, none => r.method ++ " " ++ r.url

/-- The texts that may hold placeholders: address, header values, and body or its path. -/
def texts (r : Request) : List String :=
  r.url :: r.headers.entries.map Prod.snd ++ (r.body.map Body.text).toList

def mapTexts (r : Request) (change : Nat → String → String) : Request :=
  { r with
    url := change 0 r.url
    headers := r.headers.mapValues fun i => change (i + 1)
    body := r.body.map (Body.map (change (r.headers.size + 1))) }

end Request

structure Document where
  path : String
  bindings : Variables
  requests : List Request
  diagnostics : List Diagnostic
  deriving DecidableEq

namespace Document

def empty (path : String) : Document := ⟨path, .empty, [], []⟩

def indexOf? (d : Document) (name : String) : Option Nat := d.requests.findIdx? (·.isNamed name)

def find? (d : Document) (name : String) : Option Request := d.requests.find? (·.isNamed name)

def errors (d : Document) : List Diagnostic := d.diagnostics.filter (·.severity == .error)

def warnings (d : Document) : List Diagnostic := d.diagnostics.filter (·.severity == .warning)

def hasErrors (d : Document) : Bool := !d.errors.isEmpty

/-- The variables that a request sees: those of the file, overlaid with its own. -/
def scope (d : Document) (r : Request) : Variables := d.bindings.overlay r.bindings

end Document

end RequestBook

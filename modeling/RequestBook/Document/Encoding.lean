import RequestBook.Document.Basic
import RequestBook.Json.Codec
import RequestBook.Json.Printer
import RequestBook.Json.Reader

/-! Request books as JSON. Fields stand in a fixed order, variables and headers in their own order;
decoding takes back exactly what was encoded. -/
namespace RequestBook

def Severity.jsonName : Severity → String
  | .error => "Error"
  | .warning => "Warning"

def Code.jsonName : Code → String
  | .requestLine => "RequestLine"
  | .header => "Header"
  | .variableDeclaration => "Variable"
  | .body => "Body"
  | .unknownMethod => "UnknownMethod"

def Severity.ofJson? (value : Json) : Option Severity :=
  value.string?.bind fun name => [Severity.error, .warning].find? fun s => s.jsonName == name

def Code.ofJson? (value : Json) : Option Code :=
  value.string?.bind fun name =>
    [Code.requestLine, .header, .variableDeclaration, .body, .unknownMethod].find? fun c =>
      c.jsonName == name

namespace Diagnostic

def toJson (d : Diagnostic) : Json :=
  .object [
    ("code", .string d.code.jsonName),
    ("severity", .string d.severity.jsonName),
    ("message", .string d.message),
    ("line", Json.ofNat d.line),
    ("column", Json.ofNat d.column)]

def ofJson? (value : Json) : Option Diagnostic := do
  return {
    code := ← value.member? "code" Code.ofJson?
    severity := ← value.member? "severity" Severity.ofJson?
    message := ← value.member? "message" Json.string?
    line := ← value.member? "line" Json.nat?
    column := ← value.member? "column" Json.nat? }

end Diagnostic

namespace Body

def toJson : Body → Json
  | .inline text => .object [("Inline", .string text)]
  | .file path => .object [("File", .string path)]

def ofJson? : Json → Option Body
  | .object [("Inline", .string text)] => some (.inline text)
  | .object [("File", .string path)] => some (.file path)
  | _ => none

end Body

def Variables.toJson (bindings : Variables) : Json :=
  .object (bindings.entries.map fun entry => (entry.1, .string entry.2))

def Variables.entryOfJson? (field : String × Json) : Option (String × String) :=
  field.2.string?.map fun value => (field.1, value)

def Variables.ofJson? : Json → Option Variables
  | .object fields => (fields.mapM Variables.entryOfJson?).map Roster.ofList
  | _ => none

/-- Headers stand under their names in lower case, with the name as written beside the value. -/
def Headers.toJson (headers : Headers) : Json :=
  .object [("entries", .object (headers.entries.map fun entry =>
    (foldName entry.1, .array [.string entry.1, .string entry.2])))]

def Headers.entryOfJson? (field : String × Json) : Option (String × String) :=
  match field.2 with
  | .array [.string name, .string value] => if foldName name = field.1 then some (name, value) else none
  | _ => none

def Headers.ofJson? (value : Json) : Option Headers :=
  match value.field? "entries" with
  | some (.object fields) => (fields.mapM Headers.entryOfJson?).map Roster.ofList
  | _ => none

namespace Request

def toJson (r : Request) : Json :=
  .object [
    ("method", .string r.method),
    ("url", .string r.url),
    ("http_version", Json.ofOption .string r.version),
    ("name", Json.ofOption .string r.name),
    ("separator_title", Json.ofOption .string r.title),
    ("line_number", Json.ofNat r.line),
    ("comments", Json.ofStrings r.comments),
    ("headers", Headers.toJson r.headers),
    ("body", Json.ofOption Body.toJson r.body),
    ("variables", Variables.toJson r.bindings),
    ("depends_on", Json.ofStrings r.dependsOn),
    ("has_response_references", .bool r.hasReferences)]

def ofJson? (value : Json) : Option Request := do
  return {
    method := ← value.member? "method" Json.string?
    url := ← value.member? "url" Json.string?
    version := ← value.member? "http_version" (Json.option? Json.string?)
    name := ← value.member? "name" (Json.option? Json.string?)
    title := ← value.member? "separator_title" (Json.option? Json.string?)
    line := ← value.member? "line_number" Json.nat?
    comments := ← value.member? "comments" (Json.list? Json.string?)
    headers := ← value.member? "headers" Headers.ofJson?
    body := ← value.member? "body" (Json.option? Body.ofJson?)
    bindings := ← value.member? "variables" Variables.ofJson?
    dependsOn := ← value.member? "depends_on" (Json.list? Json.string?)
    hasReferences := ← value.member? "has_response_references" Json.bool? }

end Request

namespace Document

def toJson (d : Document) : Json :=
  .object [
    ("path", .string d.path),
    ("variables", Variables.toJson d.bindings),
    ("requests", .array (d.requests.map Request.toJson)),
    ("diagnostics", .array (d.diagnostics.map Diagnostic.toJson))]

def ofJson? (value : Json) : Option Document := do
  return {
    path := ← value.member? "path" Json.string?
    bindings := ← value.member? "variables" Variables.ofJson?
    requests := ← value.member? "requests" (Json.list? Request.ofJson?)
    diagnostics := ← value.member? "diagnostics" (Json.list? Diagnostic.ofJson?) }

def encode (d : Document) : String := d.toJson.compact

def decode? (text : String) : Option Document := (Json.parse? text.toList).bind ofJson?

end Document

end RequestBook

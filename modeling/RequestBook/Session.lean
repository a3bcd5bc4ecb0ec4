import RequestBook.Document.Basic
import RequestBook.Path
import RequestBook.Schedule
import RequestBook.Settings
import RequestBook.Template
import RequestBook.Url.Basic

/-! Sessions. A request is prepared by resolving its texts against the variables it sees and the
exchanges captured so far; it is then sent, and the exchange is captured if the request has a name.
What lies outside the session is given as functions. -/
namespace RequestBook

open Text (Bytes)

structure Prepared where
  method : String
  url : String
  headers : Headers
  body : Option Bytes
  deriving DecidableEq

structure Response where
  status : Nat
  headers : Headers
  body : Bytes
  deriving DecidableEq

def bodyText (body : Bytes) : String := String.ofList (Text.decodeLossy body)

inductive RequestError where
  | network (message : String)
  | timeout
  | invalidUrl (url : String) (reason : UrlError)
  | unsupportedProtocol (scheme : String)
  /-- a body file that cannot be read -/
  | bodyFile (path reason : String)
  | build (message : String)
  | noSuchRequest (index : Nat)
  | order (error : OrderError)
  deriving DecidableEq

def RequestError.message : RequestError → String
  | .network message => "Network error: " ++ message
  | .timeout => "Request timed out"
  | .invalidUrl url reason => "Invalid URL '" ++ url ++ "': " ++ reason.message
  | .unsupportedProtocol scheme => "Unsupported protocol: " ++ scheme
  | .bodyFile path reason => "Failed to read body file " ++ path ++ ": " ++ reason
  | .build message => "Request build error: " ++ message
  | .noSuchRequest index => "No request at index " ++ Problem.number index
  | .order error => error.message

/-- What a session meets outside at one moment: generated values, body files, and the answers to
requests. -/
structure Surroundings where
  generation : Generation
  load : String → Except String Bytes
  send : Prepared → Except RequestError Response

/-- The surroundings may change with every request, so they depend on what was sent before. -/
abbrev World := List Prepared → Surroundings

/-- The captured exchanges, and all requests sent, the first one first. -/
structure Session where
  store : Store
  sent : List Prepared

namespace Session

def start : Session := ⟨.empty, []⟩

def reset (s : Session) : Session := { s with store := .empty }

def capture (s : Session) (name : String) (exchange : Exchange) : Session :=
  { s with store := s.store.capture name exchange }

/-- Only addresses of the web can be sent to. -/
def checkUrl (url : String) : Except RequestError Unit :=
  match Url.scheme url.toList with
  | .error reason => .error (.invalidUrl url reason)
  | .ok scheme =>
    if scheme = "http".toList ∨ scheme = "https".toList then .ok ()
    else .error (.unsupportedProtocol (String.ofList scheme))

/-- Where a body file is: an absolute path as it stands, another one in the directory that is set,
or else beside the document. -/
def bodyPath (settings : Settings) (d : Document) (path : String) : String :=
  let path := path.toList
  String.ofList <|
    if Path.isAbsolute path then path
    else match settings.bodyDirectory with
      | some directory => Path.join directory.toList path
      | none =>
        match Path.parent? d.path.toList with
        | some directory => Path.join directory path
        | none => path

/-- A request of a document with its placeholders resolved. Each of its texts has a place of its own. -/
def resolveRequest (depth : Nat) (generation : Generation) (store : Store) (d : Document)
    (request : Request) : Request :=
  request.mapTexts fun i => resolveText (d.scope request) store generation depth [i]

def prepareBody (settings : Settings) (load : String → Except String Bytes) (d : Document) :
    Option Body → Except RequestError (Option Bytes)
  | none => .ok none
  | some (.inline text) => .ok (some (Text.encode text.toList))
  | some (.file path) =>
    let path := bodyPath settings d path
    match load path with
    | .ok bytes => .ok (some bytes)
    | .error reason => .error (.bodyFile path reason)

/-- The request at an index, ready to send. -/
def prepare (settings : Settings) (outside : Surroundings) (store : Store) (d : Document) (index : Nat) :
    Except RequestError Prepared :=
  match d.requests[index]? with
  | none => .error (.noSuchRequest index)
  | some request => do
    let resolved := resolveRequest settings.depth outside.generation store d request
    checkUrl resolved.url
    let body ← prepareBody settings outside.load d resolved.body
    return ⟨resolved.method, resolved.url, resolved.headers, body⟩

def exchangeOf (prepared : Prepared) (response : Response) : Exchange where
  status := response.status
  responseBody := bodyText response.body
  responseHeaders := response.headers
  requestBody := prepared.body.map bodyText
  requestHeaders := prepared.headers

/-- Prepare the request at an index, send it, and capture the exchange if the request has a name. -/
def execute (settings : Settings) (world : World) (s : Session) (d : Document) (index : Nat) :
    Session × Except RequestError Response :=
  let outside := world s.sent
  match prepare settings outside s.store d index with
  | .error e => (s, .error e)
  | .ok prepared =>
    let sent := { s with sent := s.sent ++ [prepared] }
    match outside.send prepared with
    | .error e => (sent, .error e)
    | .ok response =>
      match (d.requests[index]?).bind Request.name with
      | some name => (sent.capture name (exchangeOf prepared response), .ok response)
      | none => (sent, .ok response)

def executeAll (settings : Settings) (world : World) (d : Document) (s : Session) :
    List Nat → Session × Except RequestError (List (Nat × Response))
  | [] => (s, .ok [])
  | index :: rest =>
    match execute settings world s d index with
    | (s, .error e) => (s, .error e)
    | (s, .ok response) =>
      match executeAll settings world d s rest with
      | (s, .error e) => (s, .error e)
      | (s, .ok results) => (s, .ok ((index, response) :: results))

def run (settings : Settings) (world : World) (s : Session) (d : Document) :
    Session × Except RequestError (List (Nat × Response)) :=
  match d.order with
  | .error e => (s, .error (.order e))
  | .ok order => executeAll settings world d s order

end Session

end RequestBook

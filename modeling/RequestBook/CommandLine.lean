import RequestBook.Document.Reading
import RequestBook.Json.Reader
import RequestBook.Session

/-! The command line: checking a request book, printing the order of its requests, running it. An
invocation is answered from the files known so far; when it needs another one it asks for it. -/
namespace RequestBook.CommandLine

open Text (Bytes)

inductive Command where
  | check
  | order
  | run
  deriving DecidableEq, Repr

def Command.ofWord? : String → Option Command
  | "check" => some .check
  | "order" => some .order
  | "run" => some .run
  | _ => none

structure Invocation where
  command : Command
  path : String
  /-- the path of the settings document -/
  config : Option String
  deriving DecidableEq, Repr

def splitConfig : List String → Option (Option String × List String)
  | [] => some (none, [])
  | "--config" :: path :: rest =>
    match splitConfig rest with
    | some (none, words) => some (some path, words)
    | _ => none
  | word :: rest =>
    match Text.dropStart? "--config=".toList word.toList, splitConfig rest with
    | some path, some (none, words) => some (some (String.ofList path), words)
    | none, some (config, words) => if word.startsWith "--" then none else some (config, word :: words)
    | _, _ => none

def Invocation.ofWords? (words : List String) : Option Invocation :=
  match splitConfig words with
  | some (config, [command, path]) => (Command.ofWord? command).map fun c => ⟨c, path, config⟩
  | _ => none

inductive CommandError where
  /-- a file that cannot be read, with the reason -/
  | file (reason : String)
  | notText
  /-- a settings document without a value, with the place of its end -/
  | missingValue (line column : Nat)
  | malformedJson
  | settings (error : SettingsError)
  | document (error : ReadError)
  | order (error : OrderError)
  | request (error : RequestError)

def CommandError.message : CommandError → String
  | .file reason => reason
  | .notText => "stream did not contain valid UTF-8"
  | .missingValue line column =>
    "EOF while parsing a value at line " ++ Problem.number line ++ " column " ++ Problem.number column
  | .malformedJson => "expected value at line 1 column 1"
  | .settings error => error.message
  | .document error => error.message
  | .order error => error.message
  | .request error => error.message

structure Outcome where
  code : Nat
  output : String
  errors : String
  deriving DecidableEq, Repr

/-- What is known of files: their bytes or why they cannot be read. -/
abbrev Files := String → Option (Except String Bytes)

/-- Why a command stops: it has failed, or it needs a file that is not known yet. -/
inductive Stop where
  | failed (error : CommandError)
  | needs (path : String)

def readText (files : Files) (path : String) : Except Stop String :=
  match files path with
  | none => .error (.needs path)
  | some (.error reason) => .error (.failed (.file reason))
  | some (.ok bytes) =>
    match Text.decode? bytes with
    | some text => .ok (String.ofList text)
    | none => .error (.failed .notText)

def readJson (text : List Char) : Except CommandError Json :=
  if text.all Json.isSpace then
    .error (.missingValue (text.count '\n' + 1) (text.reverse.takeWhile (· != '\n')).length)
  else match Json.parse? text with
    | some value => .ok value
    | none => .error .malformedJson

def failing {ε α : Type} (cause : ε → CommandError) : Except ε α → Except Stop α
  | .ok a => .ok a
  | .error e => .error (.failed (cause e))

def readSettings (files : Files) (config : Option String) : Except Stop Settings := do
  let document ← match config with
    | none => pure none
    | some path => some <$> failing id (readJson (← readText files path).toList)
  failing .settings (Settings.load document)

def readDocument (files : Files) (settings : Settings) (path : String) : Except Stop Document := do
  let content ← readText files path
  failing .document (Document.parse (.withExtra settings.methods) path content)

def unlines (lines : List String) : String := String.join (lines.map (· ++ "\n"))

def located (path : String) (diagnostics : List Diagnostic) : List String :=
  diagnostics.map fun d => path ++ ":" ++ d.text

def check (path : String) (d : Document) : Outcome where
  code := if d.hasErrors then 1 else 0
  output := unlines (located path d.diagnostics ++
    [Problem.number d.requests.length ++ " request(s), " ++ Problem.number d.errors.length ++
      " error(s), " ++ Problem.number d.warnings.length ++ " warning(s)"])
  errors := ""

def order (d : Document) : Except OrderError Outcome := do
  let indices ← d.order
  let lines := indices.zipIdx.filterMap fun (index, position) =>
    (d.requests[index]?).map fun r =>
      Problem.number (position + 1) ++ ". " ++ r.label ++ " (line " ++ Problem.number r.line ++ ")"
  return ⟨0, unlines lines, ""⟩

def responseText (d : Document) (index : Nat) (response : Response) : String :=
  let label := ((d.requests[index]?).map Request.label).getD ""
  let body := bodyText response.body
  label ++ " -> " ++ Problem.number response.status ++ "\n" ++ if body.isEmpty then "" else body ++ "\n\n"

/-- Run all requests. Body files come from the known files; a file that is not known is asked for. -/
def run (files : Files) (world : World) (settings : Settings) (d : Document) : Except Stop String :=
  let load (path : String) : Except String Bytes := (files path).getD (.error "")
  let world : World := fun sent => { world sent with load := load }
  match (Session.run settings world .start d).2 with
  | .ok results => .ok (String.join (results.map fun (index, response) => responseText d index response))
  | .error (.bodyFile path reason) =>
    if (files path).isNone then .error (.needs path) else .error (.failed (.request (.bodyFile path reason)))
  | .error e => .error (.failed (.request e))

def finish (warnings : String) : Except Stop Outcome → Except String Outcome
  | .ok outcome => .ok { outcome with errors := warnings ++ outcome.errors }
  | .error (.needs path) => .error path
  | .error (.failed e) => .ok ⟨1, "", warnings ++ "error: " ++ e.message ++ "\n"⟩

/-- Answer an invocation from the known files, or ask for the path of another one. -/
def answer (files : Files) (world : World) (i : Invocation) : Except String Outcome :=
  let loaded : Except Stop (Settings × Document) := do
    let settings ← readSettings files i.config
    return (settings, ← readDocument files settings i.path)
  match loaded with
  | .error stop => finish "" (.error stop)
  | .ok (settings, d) =>
    match i.command with
    | .check => .ok (check i.path d)
    | .order => finish "" (failing .order (order d))
    | .run =>
      finish (unlines (located i.path d.errors))
        ((run files world settings d).map fun output => ⟨0, output, ""⟩)

end RequestBook.CommandLine

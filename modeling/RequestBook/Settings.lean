import RequestBook.Json.Codec
import RequestBook.Json.Printer
import RequestBook.Text.Blank
import RequestBook.Text.Case

/-! Settings. They stand in a section of a JSON document; a section that cannot be read counts as
missing, and what it says is checked afterwards. -/
namespace RequestBook

structure Settings where
  /-- methods accepted beside the known ones -/
  methods : List String
  /-- where paths of body files start; the directory of the document unless set -/
  bodyDirectory : Option String
  /-- how deep values of variables may nest -/
  depth : Nat
  /-- in milliseconds -/
  timeout : Nat
  validateCertificates : Bool
  deriving DecidableEq, Repr

inductive SettingsError where
  | zeroDepth
  | zeroTimeout
  | notAMethod (token : String)
  deriving DecidableEq, Repr

def SettingsError.message : SettingsError → String
  | .zeroDepth => "invalid value for maxNestingDepth: must be greater than 0"
  | .zeroTimeout => "invalid value for timeout: must be greater than 0"
  | .notAMethod token =>
    "invalid value for additionalMethods: '" ++ token ++ "' is not a method token"

namespace Settings

def standard : Settings := ⟨[], none, 10, 30000, true⟩

def sectionName : String := "restfile"

def orDefault {α : Type} (default : α) (decode : Json → Option α) : Option Json → Option α
  | none => some default
  | some value => decode value

/-- The settings with the given values, a default for each that is missing. -/
def ofValues? (methods directory depth timeout validate : Option Json) : Option Settings := do
  return {
    methods := ← orDefault standard.methods (Json.list? Json.string?) methods
    bodyDirectory := ← orDefault standard.bodyDirectory (Json.option? Json.string?) directory
    depth := ← orDefault standard.depth Json.nat? depth
    timeout := ← orDefault standard.timeout Json.nat? timeout
    validateCertificates := ← orDefault standard.validateCertificates Json.bool? validate }

/-- The settings of a section: an object with fields by name, or an array with fields by place. -/
def ofJson? (value : Json) : Option Settings :=
  match value with
  | .object _ =>
    ofValues? (value.field? "additionalMethods") (value.field? "bodyBaseDir")
      (value.field? "maxNestingDepth") (value.field? "timeout") (value.field? "validateSSL")
  | .array items =>
    if 5 < items.length then none
    else ofValues? items[0]? items[1]? items[2]? items[3]? items[4]?
  | _ => none

def toJson (s : Settings) : Json :=
  .object [
    ("additionalMethods", Json.ofStrings s.methods),
    ("bodyBaseDir", Json.ofOption .string s.bodyDirectory),
    ("maxNestingDepth", Json.ofNat s.depth),
    ("timeout", Json.ofNat s.timeout),
    ("validateSSL", .bool s.validateCertificates)]

def timeoutParts (s : Settings) : Nat × Nat := (s.timeout / 1000, s.timeout % 1000 * 1000000)

/-- A method is one ASCII letter or more, blanks around them apart. -/
def isMethodToken (token : String) : Bool :=
  let letters := Text.trim token.toList
  !letters.isEmpty && letters.all Text.isAsciiLetter

def check (s : Settings) : Except SettingsError Settings :=
  if s.depth = 0 then .error .zeroDepth
  else if s.timeout = 0 then .error .zeroTimeout
  else match s.methods.find? fun m => !isMethodToken m with
    | some token => .error (.notAMethod token)
    | none => .ok s

/-- The settings of a settings document; without a section, or with one that cannot be read, they
are the standard ones. -/
def load (document : Option Json) : Except SettingsError Settings :=
  check (((document.bind (Json.field? sectionName)).bind ofJson?).getD standard)

end Settings

end RequestBook

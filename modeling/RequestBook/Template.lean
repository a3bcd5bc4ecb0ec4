import RequestBook.Exchange.Store
import RequestBook.Placeholder.Generator

/-! Resolving texts with placeholders. First captured values are put in, then generated values, then
variables; the value of a variable is resolved in the same way before it is put in. A placeholder
without a value stays as it stands. Values are generated anew for every placeholder, so what they are
may depend on its place. -/
namespace RequestBook

/-- The name and the arguments of a generated value that the inside of a group asks for: a dollar
sign with a name, then blanks and arguments. -/
def generatorCall? (inner : List Char) : Option (String × Option String) :=
  match Text.trimStart inner with
  | '$' :: rest =>
    match Text.readIdentifier [] rest with
    | some (name, []) => some (String.ofList name, none)
    | some (name, c :: more) =>
      if Text.isBlank c then some (String.ofList name, some (String.ofList (Text.trim (c :: more))))
      else none
    | none => none
  | _ => none

def variableName? (inner : List Char) : Option String :=
  match Text.readIdentifier Text.variableMarks (Text.trimStart inner) with
  | some (name, rest) => if Text.allBlank rest then some (String.ofList name) else none
  | none => none

def variablesIn (text : List Char) : List String :=
  (pieces text).filterMap fun
    | .group inner => variableName? inner
    | .char _ => none

/-- Where a text stands, or a placeholder: the numbers of the pieces that lead there, the last one first.
The value of a variable stands where its placeholder stands. -/
abbrev Place := List Nat

structure Generation where
  value? : Place → String → Option String → Option String

namespace Generation

def fixed (value? : String → Option String → Option String) : Generation := ⟨fun _ => value?⟩

instance : Coe (String → Option String → Option String) Generation := ⟨fixed⟩

/-- The values of sources that may change from place to place, as random bits do. -/
def ofSources (sources : Place → Sources) : Generation := ⟨fun place => Generator.evaluate? (sources place)⟩

def asked? (generation : Generation) (place : Place) (inner : List Char) : Option (List Char) :=
  (generatorCall? inner).bind fun (name, arguments) =>
    (generation.value? place name arguments).map String.toList

end Generation

/-- What a variable named inside a group has for a value. A value with placeholders has to be opened;
a variable that is open already is not opened again. -/
def variableValue? (scope : Variables) (opened : List String)
    (openValue : String → List Char → Option (List Char)) (inner : List Char) : Option (List Char) :=
  (variableName? inner).bind fun name =>
    (scope.get? name).bind fun value =>
      if !hasOpening value.toList then some value.toList
      else if opened.contains name then none
      else openValue name value.toList

/-- The text at a place with all placeholders resolved. A variable is opened only if fewer than `deeper`
others were opened around it. -/
def resolveAt (scope : Variables) (store : Store) (generation : Generation) (deeper : Nat)
    (opened : List String) (place : Place) (text : List Char) : List Char :=
  let text := replaceGroupsAt (fun i => generation.asked? (i :: place)) (store.resolveAll text)
  replaceGroupsAt (fun i => variableValue? scope opened fun name value =>
    match deeper with
    | 0 => none
    | deeper + 1 => some (resolveAt scope store generation deeper (name :: opened) (i :: place) value)) text

def resolveText (scope : Variables) (store : Store) (generation : Generation) (depth : Nat) (place : Place)
    (text : String) : String :=
  String.ofList (resolveAt scope store generation (depth - 1) [] place text.toList)

/-- What placeholders are resolved against when the same values are generated at every place. -/
structure Context where
  scope : Variables
  store : Store
  generate : String → Option String → Option String

namespace Context

def resolveWithin (ctx : Context) (deeper : Nat) (opened : List String) (text : List Char) : List Char :=
  resolveAt ctx.scope ctx.store ctx.generate deeper opened [] text

def resolve (ctx : Context) (depth : Nat) (text : String) : String :=
  String.ofList (ctx.resolveWithin (depth - 1) [] text.toList)

end Context

def defaultDepth : Nat := 10

end RequestBook

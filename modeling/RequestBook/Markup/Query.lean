import RequestBook.Markup.Element
import RequestBook.Text.Digit

/-! Extraction from XML bodies. A query is a list of steps, each going from the elements selected
so far to their children or descendants; the answer is a text of the first element in the end. -/
namespace RequestBook.Markup

inductive Axis where
  | child
  | descendant
  deriving DecidableEq, Repr

inductive Predicate where
  /-- the element's place among the matching candidates, counted from one -/
  | position (n : Nat)
  | attributeEquals (name value : String)
  deriving DecidableEq, Repr

inductive Step where
  | element (axis : Axis) (test : String) (predicate : Option Predicate)
  | attribute (name : String)
  | text
  deriving DecidableEq, Repr

def localName (name : List Char) : List Char := (name.reverse.takeWhile (· != ':')).reverse

/-- A star passes every name; a test without a colon also passes a name whose local part it is. -/
def passes (test name : String) : Bool :=
  test == "*" || test == name ||
    (!test.toList.contains ':' && localName name.toList == test.toList)

def Axis.candidates : Axis → Element → List Element
  | .child, e => e.elements
  | .descendant, e => e.descendants

def Predicate.keep : Predicate → List Element → List Element
  | .position n, matching => (matching.drop (n - 1)).take 1
  | .attributeEquals name value, matching =>
    matching.filter fun e => e.tag.attribute? name == some value

def selectFrom (axis : Axis) (test : String) (predicate : Option Predicate) (e : Element) :
    List Element :=
  let matching := (axis.candidates e).filter fun c => passes test c.tag.name
  match predicate with
  | none => matching
  | some p => p.keep matching

def select? (context : List Element) : List Step → Option (List Char)
  | [] => context.head?.map Element.textContent
  | .attribute name :: _ => (context.findSome? fun e => e.tag.attribute? name).map String.toList
  | .text :: _ => context.head?.map Element.ownText
  | .element axis test predicate :: rest =>
    match context.flatMap (selectFrom axis test predicate) with
    | [] => none
    | next => select? next rest

/-- A step's text up to the next slash outside brackets, and the text from that slash on. -/
def cutStep (depth : Nat) : List Char → List Char × List Char
  | [] => ([], [])
  | c :: rest =>
    if c = '/' ∧ depth = 0 then ([], c :: rest)
    else
      let depth := if c = '[' then depth + 1 else if c = ']' then depth - 1 else depth
      let (step, after) := cutStep depth rest
      (c :: step, after)

def unquote? (quote : Char) (text : List Char) : Option (List Char) :=
  (Text.dropStart? [quote] text).bind (Text.dropEnd? [quote])

def predicate? (text : List Char) : Option Predicate :=
  match text with
  | '@' :: rest => do
    let (name, value) ← Text.cutAt? '=' rest
    let value := Text.trim value
    let value ← (unquote? '\'' value).or (unquote? '"' value)
    return .attributeEquals (String.ofList (Text.trim name)) (String.ofList value)
  | _ =>
    match Text.readNat? Text.unsignedLimit text with
    | some n => if 1 ≤ n then some (.position n) else none
    | none => none

def elementStep? (axis : Axis) (text : List Char) : Option Step := do
  let (name, predicate) ← match Text.cutAt? '[' text with
    | some (name, rest) => do
      let inside ← Text.dropEnd? [']'] rest
      pure (name, some (← predicate? (Text.trim inside)))
    | none => pure (text, none)
  let name := Text.trim name
  if name.isEmpty then none else some (.element axis (String.ofList name) predicate)

theorem length_of_cutStep (depth : Nat) (text : List Char) :
    (cutStep depth text).2.length ≤ text.length := by
  induction text generalizing depth with
  | nil => simp [cutStep]
  | cons c rest ih =>
    simp only [cutStep]
    split
    · simp
    · exact Nat.le_succ_of_le (ih _)

/-- The steps of a text in which each step has one or two slashes before it. An attribute or a
`text()` step ends the query; an attribute is not looked for at any depth. -/
def readSteps (text : List Char) : Option (List Step) :=
  match text with
  | [] => some []
  | '/' :: '/' :: rest =>
    let (raw, after) := cutStep 0 rest
    match raw with
    | '@' :: _ => none
    | _ =>
      if raw = "text()".toList then (if after.isEmpty then some [.text] else none)
      else do return (← elementStep? .descendant raw) :: (← readSteps (cutStep 0 rest).2)
  | '/' :: rest =>
    let (raw, after) := cutStep 0 rest
    match raw with
    | '@' :: name =>
      if name.isEmpty || !after.isEmpty then none else some [.attribute (String.ofList name)]
    | _ =>
      if raw = "text()".toList then (if after.isEmpty then some [.text] else none)
      else do return (← elementStep? .child raw) :: (← readSteps (cutStep 0 rest).2)
  | _ => none
termination_by text.length
decreasing_by
  · have := length_of_cutStep 0 rest
    simp only [List.length_cons]; omega
  · have := length_of_cutStep 0 rest
    simp only [List.length_cons]; omega

def query? (text : List Char) : Option (List Step) :=
  match readSteps (Text.trim text) with
  | some [] => none
  | steps => steps

def extract? (body path : List Char) : Option (List Char) := do
  let steps ← query? path
  let document ← parse? body
  select? [document] steps

end RequestBook.Markup

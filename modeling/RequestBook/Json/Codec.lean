import RequestBook.Json.Value
import RequestBook.Text.Digit

/-! Plain values in JSON: texts, switches, counts, lists and optional values. Each decoder takes
back what the encoder of the same name writes, and refuses every other kind of value. -/
namespace RequestBook.Json

def ofNat (n : Nat) : Json := .number (.integer n)

def ofOption {α : Type} (encode : α → Json) : Option α → Json
  | some a => encode a
  | none => .null

def ofStrings (texts : List String) : Json := .array (texts.map .string)

def string? : Json → Option String
  | .string s => some s
  | _ => none

def bool? : Json → Option Bool
  | .bool b => some b
  | _ => none

/-- A count of at most 64 bits. -/
def nat? : Json → Option Nat
  | .number (.integer n) => if 0 ≤ n ∧ n < Text.unsignedLimit then some n.toNat else none
  | _ => none

def list? {α : Type} (decode : Json → Option α) : Json → Option (List α)
  | .array items => items.mapM decode
  | _ => none

def option? {α : Type} (decode : Json → Option α) : Json → Option (Option α)
  | .null => some none
  | value => (decode value).map some

def member? {α : Type} (value : Json) (name : String) (decode : Json → Option α) : Option α :=
  (value.field? name).bind decode

end RequestBook.Json

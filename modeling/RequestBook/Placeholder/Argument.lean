import RequestBook.Text.Blank

/-! The arguments of a generated value: words between blanks. A word that starts with a quote
reaches to the next such quote and may hold blanks. -/
namespace RequestBook

structure Argument where
  text : String
  quoted : Bool
  deriving DecidableEq, Repr

namespace Argument

/-- The arguments in a text; a quote without its partner reaches to the end. -/
def readAll (text : List Char) : List Argument :=
  match text with
  | [] => []
  | c :: rest =>
    if Text.isBlank c then readAll rest
    else if c = '\'' ∨ c = '"' then
      ⟨String.ofList (rest.takeWhile (· != c)), true⟩ :: readAll ((rest.dropWhile (· != c)).drop 1)
    else
      ⟨String.ofList (c :: rest.takeWhile fun d => !Text.isBlank d), false⟩ ::
        readAll (rest.dropWhile fun d => !Text.isBlank d)
termination_by text.length
decreasing_by
  · exact Nat.lt_succ_self _
  · have := (List.dropWhile_sublist (· != c) (l := rest)).length_le
    simp only [List.length_drop, List.length_cons]; omega
  · exact Nat.lt_succ_of_le (List.dropWhile_sublist _).length_le

/-- The arguments in a text, whose outer blanks do not count. -/
def parse (text : List Char) : List Argument := readAll (Text.trim text)

end Argument

end RequestBook

import RequestBook.Roster
import RequestBook.Text.Blank

/-! Request methods: the nine known ones and those that settings add. -/
namespace RequestBook

inductive Method where
  | get
  | post
  | put
  | delete
  | patch
  | options
  | head
  | trace
  | connect
  deriving DecidableEq, Repr

namespace Method

def all : List Method := [.get, .post, .put, .delete, .patch, .options, .head, .trace, .connect]

def name : Method → String
  | .get => "GET"
  | .post => "POST"
  | .put => "PUT"
  | .delete => "DELETE"
  | .patch => "PATCH"
  | .options => "OPTIONS"
  | .head => "HEAD"
  | .trace => "TRACE"
  | .connect => "CONNECT"

def ofToken? (token : String) : Option Method := all.find? fun m => sameName m.name token

end Method

def upperToken (token : String) : String := String.ofList (Text.upper token.toList)

/-- The methods that are accepted without a warning, in upper case. -/
structure MethodTable where
  names : List String

namespace MethodTable

/-- The known methods and the extra ones, which may have blanks around them. -/
def withExtra (extra : List String) : MethodTable where
  names := Method.all.map Method.name ++
    extra.map fun m => upperToken (String.ofList (Text.trim m.toList))

def standard : MethodTable := withExtra []

def contains (table : MethodTable) (token : String) : Bool := table.names.contains (upperToken token)

end MethodTable

end RequestBook

import RequestBook.Json.Path
import RequestBook.Markup.Query
import RequestBook.Placeholder.Reference

/-! Captured exchanges: what a named request sent and what came back, and the values that later
requests take from them. -/
namespace RequestBook

structure Exchange where
  status : Nat
  responseBody : String
  responseHeaders : Headers
  requestBody : Option String
  requestHeaders : Headers
  deriving DecidableEq

namespace Exchange

def isSuccess (e : Exchange) : Bool := 200 ≤ e.status && e.status < 300

def contentType? (e : Exchange) : Option String := e.responseHeaders.get? "content-type"

/-- The body of one side; a request without a body has an empty one. -/
def body (e : Exchange) : Side → String
  | .response => e.responseBody
  | .request => e.requestBody.getD ""

def headers (e : Exchange) : Side → Headers
  | .response => e.responseHeaders
  | .request => e.requestHeaders

end Exchange

/-- The part of a body that a path leads to: all of it for a star, an XML query for a path that
starts with a slash, and a JSON path otherwise. A path that leads nowhere gives nothing. -/
def extractBody (body path : List Char) : List Char :=
  let path := Text.trim path
  let found :=
    if path = ['*'] then some body
    else if path.head? = some '/' then Markup.extract? body path
    else Json.extract? body path
  found.getD []

/-- What a reference reads from an exchange. A header that is missing leaves the reference as it
stands. -/
def Exchange.read? (e : Exchange) (r : Reference) : Option (List Char) :=
  match r.part with
  | .body => some (extractBody (e.body r.side).toList r.path.toList)
  | .headers => ((e.headers r.side).get? r.path).map String.toList

end RequestBook

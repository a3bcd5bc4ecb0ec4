import RequestBook.Exchange.Basic

/-! The exchanges of a session, one for each name; names that have the same lower case are one
name. A later capture replaces an earlier one. -/
namespace RequestBook

def storeKey (name : String) : String := String.ofList (Text.lower name.toList)

abbrev Store := Roster storeKey Exchange

namespace Store

def capture (store : Store) (name : String) (exchange : Exchange) : Store := store.insert name exchange

def lookup? (store : Store) (r : Reference) : Option (List Char) := (store.get? r.name).bind (·.read? r)

def resolveAll (store : Store) (text : List Char) : List Char :=
  Reference.replaceAll (fun r asWritten => (store.lookup? r).getD asWritten) text

/-- The value of the reference that the text consists of; any other text stays as it is. -/
def resolveReference (store : Store) (text : List Char) : List Char :=
  match Reference.parse? text with
  | some r => (store.lookup? r).getD text
  | none => text

end Store

end RequestBook
